import SheetCompiler.Decimal.Reading
import SheetCompiler.Document.Fault
import SheetCompiler.Document.Node

/-!
# What plain scalars mean

A plain scalar may spell nothing, a truth value, an integer or a number; otherwise it is the text of
its characters. The same rules decide which texts have to be quoted when they are written.
-/

namespace SheetCompiler.Document

/-- The spelling of nothing, apart from no characters at all. -/
def isNull (s : String) : Bool :=
  s == "null" || s == "Null" || s == "NULL" || s == "~"

/-- The truth value that a text spells. -/
def truth? (s : String) : Option Bool :=
  if s == "true" || s == "True" || s == "TRUE" then some true
  else if s == "false" || s == "False" || s == "FALSE" then some false
  else none

/-- The value of a digit, in either case. -/
def digitValue? (c : Char) : Option Nat :=
  if '0' ≤ c && c ≤ '9' then some (c.toNat - '0'.toNat)
  else if 'a' ≤ c && c ≤ 'f' then some (c.toNat - 'a'.toNat + 10)
  else if 'A' ≤ c && c ≤ 'F' then some (c.toNat - 'A'.toNat + 10)
  else none

/-- The natural number that digits of the given base spell; no digits spell none. -/
def natural? (base : Nat) (cs : List Char) : Option Nat :=
  if cs.isEmpty then none
  else cs.foldlM (fun n c =>
    (digitValue? c).bind fun d => if d < base then some (base * n + d) else none) 0

/-- The digits of a sign-free integer: after `0x`, `0o` or `0b` in another base, otherwise decimal
digits without leading zeros. -/
def magnitude? : List Char → Option Nat
  | '0' :: 'x' :: cs => natural? 16 cs
  | '0' :: 'o' :: cs => natural? 8 cs
  | '0' :: 'b' :: cs => natural? 2 cs
  | ['0'] => some 0
  | '0' :: _ => none
  | cs => natural? 10 cs

/-- The integer that a text spells, if it has at most 128 bits. -/
def integer? (s : String) : Option Int :=
  let value : Option Int := match s.toList with
    | '-' :: cs => (magnitude? cs).map fun n => -(n : Int)
    | '+' :: cs => (magnitude? cs).map fun n => (n : Int)
    | cs => (magnitude? cs).map fun n => (n : Int)
  value.filter fun i => if i < 0 then i.natAbs ≤ Nat.pow 2 127 else i.natAbs < Nat.pow 2 128

/-- Digits that start with a zero: they are a text, such as a code, and not a number. -/
def isCode (s : String) : Bool :=
  let digits := match s.toList with
    | '-' :: cs | '+' :: cs => cs
    | cs => cs
  1 < digits.length && digits.head? == some '0' && digits.all Char.isDigit

/-- The number that a text spells. The infinities and not-a-number have words of their own. -/
def number? (s : String) : Option Float :=
  if s == ".nan" || s == ".NaN" || s == ".NAN" then some (0.0 / 0.0)
  else if s == "-.inf" || s == "-.Inf" || s == "-.INF" then some (-1.0 / 0.0)
  else
    match s.toList with
    | '+' :: '+' :: _ | '+' :: '-' :: _ => none
    | '+' :: cs => ofUnsigned (String.ofList cs)
    | _ => ofUnsigned s
where
  /-- The number of a text without a plus sign. -/
  ofUnsigned (s : String) : Option Float :=
    if s == ".inf" || s == ".Inf" || s == ".INF" then some (1.0 / 0.0) else Decimal.readFinite? s

/-- The text could be read as something else than a text. -/
def isAmbiguous (s : String) : Bool :=
  s.isEmpty || isNull s || (truth? s).isSome || (integer? s).isSome || isCode s ||
    (number? s).isSome

/-- The value of a scalar whose kind is not known beforehand. -/
inductive Reading where
  | nothing
  | boolean (b : Bool)
  | integer (i : Int)
  | number (x : Float)
  | text (s : String)

/-- The value of a plain scalar. -/
def Reading.ofPlain (s : String) : Reading :=
  if s.isEmpty || isNull s then .nothing
  else match truth? s with
    | some b => .boolean b
    | none => match integer? s with
      | some i => .integer i
      | none =>
        if isCode s then .text s
        else match number? s with
          | some x => .number x
          | none => .text s

/-- The value of a scalar under a tag. A tag that selects an alternative does not fit a bare
value. -/
def Scalar.reading (tag : Option Tag) : Scalar → Except Fault Reading
  | .integer i => .ok (.integer i)
  | .number x => .ok (.number x)
  | .boolean b => .ok (.boolean b)
  | .spelled style s =>
    match tag with
    | some (.named _) => .error (.expected "a value")
    | some (.core "bool") => match truth? s with
      | some b => .ok (.boolean b)
      | none => .error (.expected "a boolean")
    | some (.core "int") => match integer? s with
      | some i => .ok (.integer i)
      | none => .error (.expected "an integer")
    | some (.core "float") => match number? s with
      | some x => .ok (.number x)
      | none => .error (.expected "a float")
    | some (.core "null") => if isNull s then .ok .nothing else .error (.expected "null")
    | some (.core _) | some (.foreign _) => .ok (.text s)
    | some .nameless | none => if style = .plain then .ok (.ofPlain s) else .ok (.text s)

/-- The spelling of a scalar whose kind is prescribed: it stands bare, or in a literal block whose
tag names that kind. -/
def Scalar.bare? (kind : String) (tag : Option Tag) : Scalar → Option String
  | .spelled .plain s => some s
  | .spelled .literal s => if tag = some (.core kind) then some s else none
  | _ => none

end SheetCompiler.Document
