import SheetCompiler.Code.Expr

/-!
# Text of generated expressions

Operands that are themselves operator expressions stand in parentheses, so the text does not rely on
the precedence of C# beyond that of signs, casts and calls.
-/

namespace SheetCompiler.Code

/-- A number as a C# literal, which never reads as an integer. -/
def numberCode (x : Float) : String :=
  let text := Decimal.NumberStyle.literal.write x
  if text.toList.any fun c => c == '.' || c == 'e' || c == 'E' then text else text ++ ".0"

/-- A hexadecimal number of at least four digits. -/
def fourHexDigits (n : Nat) : List Char :=
  let ds := Nat.toDigits 16 n
  List.replicate (4 - ds.length) '0' ++ ds

/-- A control character. -/
def isControl (c : Char) : Bool :=
  c.toNat < 0x20 || (0x7F ≤ c.toNat && c.toNat < 0xA0)

/-- A character inside a C# string literal. -/
def charCode (c : Char) : List Char :=
  if c = '"' then ['\\', '"']
  else if c = '\\' then ['\\', '\\']
  else if c = '\n' then ['\\', 'n']
  else if c = '\r' then ['\\', 'r']
  else if c = '\t' then ['\\', 't']
  else if c = '\x00' then ['\\', '0']
  else if isControl c then '\\' :: 'u' :: fourHexDigits c.toNat
  else [c]

/-- A text as a C# string literal. -/
def textCode (s : String) : String :=
  String.ofList ('"' :: (s.toList.flatMap charCode ++ ['"']))

/-- A literal in C#. -/
def literalCode : Literal → String
  | .integer i => integerText i.toInt
  | .number x => numberCode x
  | .text s => textCode s
  | .boolean b => if b then "true" else "false"

namespace Expr

/-- As an operand the expression needs parentheses. -/
def needsParens : Expr → Bool
  | .binary .. | .conditional .. | .lambda _ => true
  | .literal (.integer i) => i.toInt < 0
  | .literal (.number x) => x < 0.0
  | _ => false

/-- The text of an operand, in parentheses where it needs them. -/
def parenthesized (e : Expr) (text : String) : String :=
  if e.needsParens then "(" ++ text ++ ")" else text

mutual

/-- The C# text of an expression. -/
def render : Expr → String
  | .literal value => literalCode value
  | .null => "null"
  | .ident name => name
  | .cast type operand => "(" ++ type.codeName ++ ")" ++ operand.parenthesized operand.render
  | .unary op operand =>
    match operand with
    | .unary .. => op.sign ++ "(" ++ operand.render ++ ")"
    | _ => op.sign ++ operand.parenthesized operand.render
  | .binary op left right =>
    left.parenthesized left.render ++ " " ++ op.sign ++ " " ++ right.parenthesized right.render
  | .conditional test yes no =>
    test.parenthesized test.render ++ " ? " ++ yes.parenthesized yes.render ++ " : " ++
      no.parenthesized no.render
  | .call target args => target ++ "(" ++ ", ".intercalate (renderAll args) ++ ")"
  | .array element items =>
    "new " ++ element.codeName ++ "[] \x7b " ++ ", ".intercalate (renderAll items) ++ " \x7d"
  | .lambda body => "() => " ++ body.render

/-- The C# texts of expressions. -/
def renderAll : List Expr → List String
  | [] => []
  | e :: rest => e.render :: renderAll rest

end

end Expr

end SheetCompiler.Code
