import SheetCompiler.Decimal.Layout
import SheetCompiler.Decimal.Reading
import SheetCompiler.Literal
import SheetCompiler.Text.Blank
import SheetCompiler.Text.Casing

/-!
# Cell values

What a cell shows: a number, a text, a truth value or one of the spreadsheet's error values. A cell
that does not exist is blank. Values are read as numbers, texts or truth values by the spreadsheet's
rules of coercion, and any two values can be compared.
-/

namespace SheetCompiler

/-- A spreadsheet error value. -/
inductive ErrorValue where
  | divisionByZero
  | value
  | notAvailable
  | number
  | reference
deriving DecidableEq

/-- The sign of an error value in a cell. -/
def ErrorValue.text : ErrorValue → String
  | divisionByZero => "#DIV/0!"
  | value => "#VALUE!"
  | notAvailable => "#N/A"
  | number => "#NUM!"
  | reference => "#REF!"

/-- The value of a cell. -/
inductive Value where
  | number (x : Float)
  | text (s : String)
  | boolean (b : Bool)
  | error (e : ErrorValue)
  /-- The value of a cell that does not exist. -/
  | blank
deriving BEq, Inhabited

/-- A result that may be an error value instead. -/
abbrev Coerced (α : Type) := Except ErrorValue α

/-- A number as a cell shows it: at most fifteen significant digits, no exponent, and no sign on a
zero. -/
def numberText (x : Float) : String :=
  if Decimal.isIntegral x && x.abs < 1e15 then
    integerText (Decimal.integerPart x)
  else if x.isFinite then
    let magnitude := ((Decimal.Binary.ofFloat x).significant 15).toFloat
    Decimal.NumberStyle.plain.write (if Decimal.isNegative x then -magnitude else magnitude)
  else
    Decimal.NumberStyle.plain.write x

/-- The finite number that a text spells, blanks around it aside. -/
def numberOfText? (s : String) : Option Float :=
  Decimal.readFinite? (Text.trim s)

/-- The texts are equal, the case of the letters `A` to `Z` aside. -/
def sameLetters (a b : String) : Bool :=
  a.toList.map Char.toLower == b.toList.map Char.toLower

/-- The truth value that a text spells. -/
def booleanOfText? (s : String) : Option Bool :=
  if sameLetters s "TRUE" then some true
  else if sameLetters s "FALSE" then some false
  else none

namespace Value

/-- The value of a literal. -/
def ofLiteral : Literal → Value
  | .integer i => number (.ofInt i.toInt)
  | .number x => number x
  | .text s => text s
  | .boolean b => boolean b

/-- The value as a cell shows it. -/
def display : Value → String
  | number x => numberText x
  | text s => s
  | boolean b => booleanText b
  | error e => e.text
  | blank => ""

/-- The value read as a number. -/
def toNumber : Value → Coerced Float
  | number x => .ok x
  | boolean b => .ok (if b then 1.0 else 0.0)
  | text s =>
    match numberOfText? s with
    | some x => .ok x
    | none => .error .value
  | blank => .ok 0.0
  | error e => .error e

/-- The value read as a text. -/
def toText : Value → Coerced String
  | error e => .error e
  | other => .ok other.display

/-- The value read as a truth value. -/
def toBoolean : Value → Coerced Bool
  | boolean b => .ok b
  | number x => .ok (x != 0.0)
  | text s =>
    match booleanOfText? s with
    | some b => .ok b
    | none => .error .value
  | blank => .ok false
  | error e => .error e

/-- The place of a value's kind among the kinds. -/
def rank : Value → Nat
  | number _ | blank => 0
  | text _ => 1
  | boolean _ => 2
  | error _ => 3

/-- Numbers in their order; one that is not a number equals every other. -/
def compareNumbers (x y : Float) : Ordering :=
  if x < y then .lt else if y < x then .gt else .eq

/-- Texts in the order of their lower-case forms. -/
def compareTexts (s t : String) : Ordering :=
  compare (Text.lower s) (Text.lower t)

/-- False before true. -/
def compareBooleans : Bool → Bool → Ordering
  | false, true => .lt
  | true, false => .gt
  | _, _ => .eq

/-- The spreadsheet's order: numbers before texts before truth values. A blank takes the kind of the
value it is compared with. -/
def compare (a b : Value) : Ordering :=
  match a, b with
  | blank, text t => compareTexts "" t
  | text s, blank => compareTexts s ""
  | blank, boolean c => compareBooleans false c
  | boolean c, blank => compareBooleans c false
  | blank, blank => .eq
  | blank, number y => compareNumbers 0.0 y
  | number x, blank => compareNumbers x 0.0
  | number x, number y => compareNumbers x y
  | text s, text t => compareTexts s t
  | boolean c, boolean d => compareBooleans c d
  | a, b => Ord.compare a.rank b.rank

end Value

end SheetCompiler
