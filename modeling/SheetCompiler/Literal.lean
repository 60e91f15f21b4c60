import SheetCompiler.Decimal.Layout

/-!
# Literal values

What a cell or a formula holds verbatim: an integer, a number, a text or a truth value. Integers and
numbers are kept apart, because they become different types in generated code.
-/

namespace SheetCompiler

/-- A literal spreadsheet value. -/
inductive Literal where
  | integer (i : Int64)
  | number (x : Float)
  | text (s : String)
  | boolean (b : Bool)
deriving BEq, Inhabited

/-- The decimal spelling of an integer. -/
def integerText (i : Int) : String :=
  let digits := String.ofList (Decimal.digitChars i.natAbs)
  if i < 0 then "-" ++ digits else digits

/-- The spelling of a truth value in a spreadsheet. -/
def booleanText (b : Bool) : String :=
  if b then "TRUE" else "FALSE"

namespace Literal

/-- The literal is a text. -/
def isText : Literal → Bool
  | text _ => true
  | _ => false

/-- The literal as a reader sees it: a text stands between quotes. -/
def display : Literal → String
  | integer i => integerText i.toInt
  | number x => Decimal.NumberStyle.plain.write x
  | text s => "\"" ++ s ++ "\""
  | boolean b => booleanText b

end Literal

end SheetCompiler
