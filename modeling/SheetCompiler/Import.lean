import SheetCompiler.Entry
import SheetCompiler.Labels

/-!
# Importing spreadsheets

A spreadsheet file holds sheets of stored values and formula texts. Importing it reads every
formula, keeps a stored value beside its formula, and labels the cells from their headers.
-/

namespace SheetCompiler.Import

/-- A value stored in a file. -/
inductive Stored where
  | integer (i : Int64)
  | number (x : Float)
  | text (s : String)
  | boolean (b : Bool)
  /-- A point in time or a duration by its serial number. -/
  | date (serial : Float)
  /-- A point in time in the notation of ISO 8601. -/
  | isoDate (s : String)
  /-- A duration in the notation of ISO 8601. -/
  | isoDuration (s : String)
  /-- An error value, which no cell can hold. -/
  | error

/-- The literal of a stored value. A date stays what it is stored as, a number or a text. -/
def Stored.literal? : Stored → Option Literal
  | integer i => some (.integer i)
  | number x | date x => some (.number x)
  | text s | isoDate s | isoDuration s => some (.text s)
  | boolean b => some (.boolean b)
  | error => none

/-- What a file records for a position. -/
structure Record where
  row : Nat
  col : Nat
  value : Option Stored := none
  formula : String := ""

/-- A sheet of a file. -/
structure Sheet where
  name : String
  records : List Record
  merges : List Labels.Region := []

/-- A spreadsheet file. -/
structure Spreadsheet where
  sheets : List Sheet

/-- What a position holds. -/
structure Position where
  value : Option Stored := none
  formula : String := ""

/-- The position after one more record for it: a value and a formula each replace the one before. -/
def Position.update (p : Position) (r : Record) : Position :=
  { value := r.value.or p.value, formula := if r.formula.isEmpty then p.formula else r.formula }

/-- The positions of a sheet by address. -/
def Sheet.positions (s : Sheet) : OrderedMap Address Position :=
  s.records.foldl (fun found r =>
    let a : Address := ⟨s.name, r.row, r.col⟩
    found.insert a (((found.get? a).getD {}).update r)) .empty

/-- A text of nothing but white space. -/
def isBlankText (s : String) : Bool :=
  s.toList.all Text.isBlank

/-- The formula as a cell keeps it, with exactly one `=` in front. -/
def formulaText (s : String) : String :=
  String.ofList ('=' :: s.toList.dropWhile (· == '='))

/-- The cell at a position, if it holds anything a cell can hold. -/
def Position.cell? (p : Position) (a : Address) : Except CompileError (Option Cell) := do
  let literal := p.value.bind Stored.literal?
  if isBlankText p.formula then
    return literal.map fun l => { content := .value l }
  else
    let expr ← a.readFormula p.formula
    return some { content := .formula (formulaText p.formula) expr, cached := literal }

/-- The workbook with the cells of one more sheet. -/
def addSheet (w : Workbook) (s : Sheet) : Except CompileError Workbook :=
  s.positions.toList.foldlM (fun w (a, p) => do
    match ← p.cell? a with
    | some cell => return w.insert a cell
    | none => return w) (w.addSheet s.name)

/-- The sheets in order. Of sheets with the same name the first one counts each time. -/
def Spreadsheet.effectiveSheets (book : Spreadsheet) : List Sheet :=
  book.sheets.map fun s => (book.sheets.find? (·.name = s.name)).getD s

/-- The workbook of a spreadsheet file. -/
def Spreadsheet.toWorkbook (book : Spreadsheet) (name : String) : Except CompileError Workbook := do
  let w ← book.effectiveSheets.foldlM addSheet { name }
  return Labels.assign w (book.effectiveSheets.flatMap Sheet.merges)

end SheetCompiler.Import
