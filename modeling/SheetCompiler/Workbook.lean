import SheetCompiler.Formula.Expr
import SheetCompiler.OrderedMap

/-!
# Workbooks

A workbook has a name, its sheets in order, and its cells by address. A cell holds a literal or a
formula; a formula keeps the text it was written as beside its expression.
-/

namespace SheetCompiler

/-- What a cell holds. -/
inductive Content where
  | value (literal : Literal)
  | formula (text : String) (expr : Formula.Expr)
deriving BEq, Inhabited

/-- A cell. -/
structure Cell where
  content : Content
  /-- The header text that describes the cell. -/
  label : Option String := none
  /-- The value that was last computed for the cell, where one was stored. -/
  cached : Option Literal := none
deriving BEq, Inhabited

namespace Cell

/-- The expression of a formula cell. -/
def expr? (c : Cell) : Option Formula.Expr :=
  match c.content with
  | .formula _ expr => some expr
  | .value _ => none

/-- The literal of a value cell. -/
def literal? (c : Cell) : Option Literal :=
  match c.content with
  | .value literal => some literal
  | .formula .. => none

/-- The cell holds a formula. -/
def isFormula (c : Cell) : Bool :=
  c.expr?.isSome

end Cell

/-- A workbook. -/
structure Workbook where
  name : String
  /-- The sheet names in workbook order. -/
  sheets : List String := []
  cells : OrderedMap Address Cell := .empty
deriving BEq, Inhabited

namespace Workbook

/-- The workbook with a sheet of the given name; a present sheet stays where it is. -/
def addSheet (w : Workbook) (sheet : String) : Workbook :=
  if w.sheets.contains sheet then w else { w with sheets := w.sheets ++ [sheet] }

/-- The workbook with a cell at the given address, on a sheet of its own if need be. -/
def insert (w : Workbook) (address : Address) (cell : Cell) : Workbook :=
  let w' := w.addSheet address.sheet
  { w' with cells := w'.cells.insert address cell }

/-- The cell at an address. -/
def cell? (w : Workbook) (address : Address) : Option Cell :=
  w.cells.get? address

/-- The expression of the formula at an address. -/
def formula? (w : Workbook) (address : Address) : Option Formula.Expr :=
  (w.cell? address).bind Cell.expr?

/-- The literal at an address. -/
def literal? (w : Workbook) (address : Address) : Option Literal :=
  (w.cell? address).bind Cell.literal?

/-- The formulas by their addresses. -/
def formulas (w : Workbook) : OrderedMap Address Formula.Expr :=
  w.cells.filterMap fun _ cell => cell.expr?

/-- The number of formulas. -/
def formulaCount (w : Workbook) : Nat :=
  w.formulas.size

/-- The sheet that addresses without a sheet refer to. -/
def defaultSheet (w : Workbook) : String :=
  w.sheets.headD "Sheet1"

end Workbook

end SheetCompiler
