import SheetCompiler.Text.Blank
import SheetCompiler.Workbook

/-!
# Labels from header texts

A cell that is not a text is described by the nearest text above it in its column and the nearest
text to its left in its row. A position inside a merged region shows the text of the region's first
cell.
-/

namespace SheetCompiler.Labels

/-- A merged region of a sheet, its corners included. -/
structure Region where
  sheet : String
  firstRow : Nat
  firstCol : Nat
  lastRow : Nat
  lastCol : Nat
deriving DecidableEq

/-- The region covers a position. -/
def Region.contains (r : Region) (row col : Nat) : Bool :=
  r.firstRow ≤ row && row ≤ r.lastRow && r.firstCol ≤ col && col ≤ r.lastCol

/-- A text that can describe other cells. -/
structure Header where
  row : Nat
  col : Nat
  text : String

/-- The header text of a cell: its text without blanks around it, if there is any. -/
def headerText? (cell : Cell) : Option String :=
  match cell.literal? with
  | some (.text s) =>
    let trimmed := Text.trim s
    if trimmed.isEmpty then none else some trimmed
  | _ => none

/-- The headers of a sheet. -/
def headers (w : Workbook) (sheet : String) : List Header :=
  w.cells.toList.filterMap fun (a, cell) =>
    if a.sheet = sheet then (headerText? cell).map fun text => ⟨a.row, a.col, text⟩ else none

/-- The header at a position. -/
def headerAt? (known : List Header) (row col : Nat) : Option String :=
  (known.find? fun h => h.row = row && h.col = col).map Header.text

/-- A merged region with the text that it shows. -/
structure Merged where
  region : Region
  text : Option String

/-- The text that a position shows: its own, or that of the first region that covers it. -/
def textAt? (known : List Header) (merged : List Merged) (row col : Nat) : Option String :=
  match headerAt? known row col with
  | some text => some text
  | none => (merged.find? fun m => m.region.contains row col).bind Merged.text

/-- The last text before a place that `read` finds. -/
def nearestBefore (read : Nat → Option String) : Nat → Option String
  | 0 => none
  | place + 1 =>
    match read place with
    | some text => some text
    | none => nearestBefore read place

/-- The texts of one sheet. -/
structure SheetTexts where
  headers : List Header
  merged : List Merged

/-- The texts of a sheet with its merged regions. -/
def SheetTexts.ofWorkbook (w : Workbook) (regions : List Region) (sheet : String) : SheetTexts :=
  let known := Labels.headers w sheet
  ⟨known, (regions.filter (·.sheet = sheet)).map fun r =>
    ⟨r, headerAt? known r.firstRow r.firstCol⟩⟩

/-- The nearest text above a position. Only texts and regions that reach its column count. -/
def SheetTexts.above? (t : SheetTexts) (row col : Nat) : Option String :=
  let known := t.headers.filter (·.col = col)
  let merged := t.merged.filter fun m => m.region.firstCol ≤ col && col ≤ m.region.lastCol
  nearestBefore (fun r => textAt? known merged r col) row

/-- The nearest text to the left of a position. Only texts and regions that reach its row count. -/
def SheetTexts.left? (t : SheetTexts) (row col : Nat) : Option String :=
  let known := t.headers.filter (·.row = row)
  let merged := t.merged.filter fun m => m.region.firstRow ≤ row && row ≤ m.region.lastRow
  nearestBefore (fun c => textAt? known merged row c) col

/-- The label of a position. -/
def SheetTexts.label? (t : SheetTexts) (row col : Nat) : Option String :=
  match t.above? row col, t.left? row col with
  | some above, some left => some (above ++ " " ++ left)
  | some above, none => some above
  | none, left => left

/-- The cell gets a label: it has none and is no text. -/
def wantsLabel (cell : Cell) : Bool :=
  cell.label.isNone && !cell.literal?.any Literal.isText

/-- The workbook with labels for all cells that want one. -/
def assign (w : Workbook) (regions : List Region) : Workbook :=
  { w with cells := w.cells.mapEntries fun a cell =>
      if wantsLabel cell then
        { cell with label := (SheetTexts.ofWorkbook w regions a.sheet).label? a.row a.col }
      else
        cell }

end SheetCompiler.Labels
