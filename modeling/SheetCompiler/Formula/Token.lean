import SheetCompiler.Decimal.Layout
import SheetCompiler.Literal
import SheetCompiler.Text.Quoted

/-!
# Formula tokens

The words of a formula. A sheet qualifier is a token of its own, so that `'My Sheet'!A1` is two
tokens, and the thirteen operator signs are one kind of token.
-/

namespace SheetCompiler.Formula

/-- An operator sign. -/
inductive Sign where
  | plus | minus | times | slash | caret | ampersand | percent
  | equal | notEqual | less | lessEqual | greater | greaterEqual
deriving DecidableEq

/-- The characters of an operator sign. -/
def Sign.text : Sign → String
  | plus => "+"
  | minus => "-"
  | times => "*"
  | slash => "/"
  | caret => "^"
  | ampersand => "&"
  | percent => "%"
  | equal => "="
  | notEqual => "<>"
  | less => "<"
  | lessEqual => "<="
  | greater => ">"
  | greaterEqual => ">="

/-- A word of a formula. -/
inductive Token where
  /-- A numeral without point and exponent. -/
  | integer (i : Int64)
  /-- Any other numeral, and one too large for an integer. -/
  | number (x : Float)
  /-- A text between double quotes. -/
  | text (s : String)
  /-- A function name, a truth value or a local address. -/
  | identifier (name : String)
  /-- A sheet name before `!`. -/
  | sheet (name : String)
  | operator (sign : Sign)
  | openParen
  | closeParen
  | comma
  | colon
deriving DecidableEq

/-- The token as messages show it. -/
def Token.description : Token → String
  | integer i => "Integer(" ++ integerText i.toInt ++ ")"
  | number x => "Number(" ++ Decimal.NumberStyle.literal.write x ++ ")"
  | text s => "Text(" ++ Text.quoted s ++ ")"
  | identifier name => "Identifier(" ++ Text.quoted name ++ ")"
  | sheet name => "Sheet(" ++ Text.quoted name ++ ")"
  | operator sign => "Operator(" ++ Text.quoted sign.text ++ ")"
  | openParen => "OpenParen"
  | closeParen => "CloseParen"
  | comma => "Comma"
  | colon => "Colon"

end SheetCompiler.Formula
