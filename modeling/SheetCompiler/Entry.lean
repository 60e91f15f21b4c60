import SheetCompiler.CompileError
import SheetCompiler.Workbook

/-!
# Entering addresses and formulas

Addresses and formulas typed as text, with the failures that a wrong one gives.
-/

namespace SheetCompiler

/-- The address that a text names; one without a sheet lies on `defaultSheet`. -/
def Address.read (text defaultSheet : String) : Except CompileError Address :=
  match Address.parse? text defaultSheet with
  | some address => .ok address
  | none => .error (.invalidAddress text)

/-- The address that a text names together with its sheet. -/
def Address.readFull (text : String) : Except CompileError Address :=
  match Address.parseFull? text with
  | some address => .ok address
  | none => .error (.invalidAddress text)

/-- The expression of a formula entered at an address. -/
def Address.readFormula (address : Address) (text : String) : Except CompileError Formula.Expr :=
  match Formula.parse text address.sheet with
  | .ok expr => .ok expr
  | .error e => .error (.unparsableFormula address text e.fault)

/-- The cell of a formula entered at an address, which keeps its text. -/
def Cell.ofFormula (address : Address) (text : String) : Except CompileError Cell := do
  return { content := .formula text (← address.readFormula text) }

end SheetCompiler
