import SheetCompiler.Literal

/-!
# Types of generated values
-/

namespace SheetCompiler.Code

/-- The static type of a generated value. -/
inductive ValueType where
  | integer
  | number
  | text
  | boolean
deriving DecidableEq, Inhabited

namespace ValueType

/-- The type of a literal. -/
def ofLiteral : Literal → ValueType
  | .integer _ => integer
  | .number _ => number
  | .text _ => text
  | .boolean _ => boolean

/-- The type is an integer or a number. -/
def isNumeric : ValueType → Bool
  | integer | number => true
  | text | boolean => false

/-- The C# name of the type. -/
def codeName : ValueType → String
  | integer => "long"
  | number => "double"
  | text => "string"
  | boolean => "bool"

/-- The type that values of both types can be converted to. -/
def unify (a b : ValueType) : ValueType :=
  if a = b then a
  else if a = text || b = text then text
  else number

/-- The value of a blank cell in an array of the type. -/
def zero : ValueType → Literal
  | integer => .integer 0
  | number => .number 0.0
  | text => .text ""
  | boolean => .boolean false

/-- The one type that values of all the types can be converted to; numbers when there is none. -/
def unifyAll : List ValueType → ValueType
  | [] => number
  | t :: ts => ts.foldl unify t

end ValueType

end SheetCompiler.Code
