import SheetCompiler.Address.Column
import SheetCompiler.Decimal.Reading
import SheetCompiler.Text.Delimited
import SheetCompiler.Text.Numeric

/-!
# Cell addresses

An address names one cell across all sheets of a workbook: a sheet, a row and a column, both counted
from zero. Addresses are ordered by sheet, then row, then column; that order decides every choice
between cells that nothing else decides.

An address is written `Sheet1!B3`. A sheet name that is not a plain word stands between apostrophes,
and an apostrophe inside it is doubled. Reading also accepts `$` anchors and letters in either case.
-/

namespace SheetCompiler

/-- The address of a cell. -/
structure Address where
  sheet : String
  /-- The row, from zero. -/
  row : Nat
  /-- The column, from zero. -/
  col : Nat
deriving DecidableEq, Inhabited

namespace Address

/-- By sheet, then row, then column. -/
instance : Ord Address where
  compare := compareLex (compareOn sheet) (compareLex (compareOn row) (compareOn col))

instance : Std.TransOrd Address :=
  inferInstanceAs <| Std.TransCmp <|
    compareLex (compareOn sheet) (compareLex (compareOn row) (compareOn col))

instance : Std.LawfulEqOrd Address where
  eq_of_compare {a b} h := by
    have split :
      compareLex (compareOn sheet) (compareLex (compareOn row) (compareOn col)) a b = .eq := h
    simp only [compareLex, compareOn, Ordering.then_eq_eq, Std.LawfulEqCmp.compare_eq_iff_eq]
      at split
    obtain ⟨hs, hr, hc⟩ := split
    cases a; cases b; simp_all

/-- The address `A1`-style, without its sheet. -/
def localText (a : Address) : String :=
  columnLetters a.col ++ String.ofList (Nat.toDigits 10 (a.row + 1))

/-- A sheet name that needs no apostrophes: a word that does not start with a digit. -/
def isPlainSheet (sheet : List Char) : Bool :=
  match sheet with
  | [] => false
  | first :: _ => !first.isDigit && sheet.all fun c => Text.isAlphanumeric c || c == '_'

/-- A sheet name as an address shows it. -/
def sheetText (sheet : String) : String :=
  if isPlainSheet sheet.toList then sheet
  else String.ofList (Text.delimited '\'' sheet.toList)

/-- The full address, such as `Sheet1!B3` or `'My Sheet'!B3`. -/
def text (a : Address) : String :=
  sheetText a.sheet ++ "!" ++ a.localText

/-- The row and column that `B3`, `$B$3` or `b$3` stands for: one to three letters and one to seven
digits, each with an optional `$`, and no row zero. -/
def parseLocal? (text : String) : Option (Nat × Nat) :=
  let unanchored := fun cs => match cs with
    | '$' :: rest => rest
    | rest => rest
  let (letters, rest) := (unanchored text.toList).span Char.isAlpha
  let digits := unanchored rest
  if letters.isEmpty || 3 < letters.length || digits.isEmpty || 7 < digits.length then none
  else if !digits.all Char.isDigit then none
  else
    match columnOfChars? letters, Decimal.digitsValue digits with
    | some col, row + 1 => some (row, col)
    | _, _ => none

/-- Splits at the last `!`. -/
def splitLastBang? (cs : List Char) : Option (List Char × List Char) :=
  match cs with
  | [] => none
  | c :: rest =>
    match splitLastBang? rest with
    | some (before, after) => some (c :: before, after)
    | none => if c = '!' then some ([], rest) else none

/-- The sheet and the local address in `Sheet!A1` or `'My Sheet'!A1`; none without a sheet. -/
def splitSheet? (text : String) : Option (String × String) :=
  match text.toList with
  | '\'' :: quoted =>
    match Text.readDelimited '\'' quoted with
    | some (sheet, '!' :: rest) => some (String.ofList sheet, String.ofList rest)
    | _ => none
  | cs =>
    match splitLastBang? cs with
    | some (c :: sheet, rest) => some (String.ofList (c :: sheet), String.ofList rest)
    | _ => none

/-- Reads an address; one without a sheet lies on `defaultSheet`. -/
def parse? (text defaultSheet : String) : Option Address :=
  let (sheet, rest) := (splitSheet? text).getD (defaultSheet, text)
  (parseLocal? rest).map fun (row, col) => ⟨sheet, row, col⟩

/-- Reads an address that names its sheet. -/
def parseFull? (text : String) : Option Address :=
  match splitSheet? text with
  | some (sheet, rest) => (parseLocal? rest).map fun (row, col) => ⟨sheet, row, col⟩
  | none => none

/-- The natural numbers from `first` to `last`, both included. -/
def span (first last : Nat) : List Nat :=
  List.range' first (last + 1 - first)

/-- The cells of the rectangle between two corners on the sheet of the first, row by row. -/
def rectangle (first last : Address) : List Address :=
  (span first.row last.row).flatMap fun row =>
    (span first.col last.col).map fun col => ⟨first.sheet, row, col⟩

/-- The width of the rectangle between two corners, as a 32-bit word: corners in the wrong order
wrap around. -/
def width (first last : Address) : Nat :=
  if first.col ≤ last.col + 1 then last.col + 1 - first.col
  else last.col + 1 + UInt32.size - first.col

/-- A closed chain of references, its first cell repeated at the end. -/
def chainText (chain : List Address) : String :=
  " → ".intercalate ((chain ++ chain.head?.toList).map text)

end Address

end SheetCompiler
