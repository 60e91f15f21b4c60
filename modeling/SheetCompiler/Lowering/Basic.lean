import SheetCompiler.Lowering.Call

/-!
# Lowering workbooks

A workbook becomes a list of statements. Each value cell and each missing cell that a formula
references is an input, each formula cell in evaluation order is a formula, and a statement refers
only to cells whose statements come before it.
-/

namespace SheetCompiler.Lowering

open Code (ValueType)
open Formula (Function)

mutual

/-- The typed code of an expression in the formula of `cell`. -/
def lower (scope : Scope) (types : Types) (cell : Address) :
    Formula.Expr → Except CompileError Typed
  | .literal l => .ok (.literal l)
  | .cell target => scope.reference types cell target
  | .range _ _ => .error (.invalidArguments cell .rangeAsValue)
  | .unary op operand => do
    return unary op (← lower scope types cell operand)
  | .binary op left right => do
    let left' ← lower scope types cell left
    let right' ← lower scope types cell right
    binary cell op left' right'
  | .call name args =>
    match Function.ofName? name with
    | none => .error (.unsupportedFunction name cell)
    | some f =>
      let fault := .invalidArguments cell (.arity name f.arity args.length)
      if f.arity.admits args.length then
        call scope types cell fault f (arguments scope types cell args)
      else
        .error fault

/-- The arguments of a call, each with the outcome of lowering it. -/
def arguments (scope : Scope) (types : Types) (cell : Address) : List Formula.Expr → List Argument
  | [] => []
  | e :: rest => ⟨e, lower scope types cell e⟩ :: arguments scope types cell rest

end

/-- What a statement stands for. -/
inductive Kind where
  /-- A value cell, or a missing cell that some formula references. -/
  | input
  | formula
deriving DecidableEq

/-- The assignment of an expression to the raw name of a cell. -/
structure Statement where
  cell : Address
  raw : String
  label : Option String
  type : ValueType
  expr : Code.Expr
  kind : Kind

/-- The input statement of a cell. -/
def Scope.input (scope : Scope) (cell : Address) (label : Option String) (value : Literal) :
    Statement :=
  { cell, raw := rawName scope.prefixes cell, label, type := .ofLiteral value,
    expr := .literal value, kind := .input }

/-- The statements of the value cells, ascending. -/
def Scope.valueInputs (scope : Scope) : List Statement :=
  scope.workbook.cells.toList.filterMap fun (address, cell) =>
    cell.literal?.map (scope.input address cell.label)

/-- The statements of the missing cells that formulas reference, ascending. -/
def Scope.missingInputs (scope : Scope) : List Statement :=
  ((directlyReferenced scope.workbook).filter fun a => (scope.workbook.cell? a).isNone).map fun a =>
    scope.input a none (.integer 0)

/-- The statements of formula cells in the given order, where `types` holds the cells before
them. -/
def Scope.formulas (scope : Scope) (types : Types) : List Address →
    Except CompileError (List Statement)
  | [] => .ok []
  | address :: rest =>
    match scope.workbook.cell? address with
    | none => scope.formulas types rest
    | some cell =>
      match cell.expr? with
      | none => scope.formulas types rest
      | some expr => do
        let typed ← lower scope types address expr
        let later ← scope.formulas (types.insert address typed.type) rest
        return { cell := address, raw := rawName scope.prefixes address, label := cell.label,
                 type := typed.type, expr := typed.expr, kind := .formula } :: later

/-- The types of statements by their cells. -/
def typesOf (statements : List Statement) : Types :=
  .ofList (statements.map fun s => (s.cell, s.type))

/-- The surroundings of a workbook's formulas. -/
def Scope.ofWorkbook (w : Workbook) (inlineValues : Bool) : Scope :=
  ⟨w, inlineValues, sheetPrefixes w⟩

/-- The statements of a workbook, its formulas in the given order. -/
def statements (w : Workbook) (inlineValues : Bool) (order : List Address) :
    Except CompileError (List Statement) := do
  let scope := Scope.ofWorkbook w inlineValues
  let inputs := scope.valueInputs ++ scope.missingInputs
  return inputs ++ (← scope.formulas (typesOf inputs) order)

/-- The raw names of cells that have a statement. -/
def rawNames (statements : List Statement) : OrderedMap Address String :=
  .ofList (statements.map fun s => (s.cell, s.raw))

end SheetCompiler.Lowering
