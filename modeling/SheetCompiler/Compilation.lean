import SheetCompiler.ClassFile.Basic
import SheetCompiler.Dependency.Order
import SheetCompiler.Entry
import SheetCompiler.Evaluation.Basic
import SheetCompiler.Options

/-!
# Compiling a workbook

From a workbook to a class in a fixed sequence of steps: options are checked, formulas ordered,
lowered and named, and the class is laid out. The first failure ends the compilation.
-/

namespace SheetCompiler

/-- What a compilation produces. -/
structure Compilation where
  source : String
  names : Naming.Mapping
  className : String
  /-- The formula cells in evaluation order. -/
  order : List Address
  /-- The cells with accessors. -/
  outputs : List Address
  /-- The value of the cell that was asked for. -/
  evaluation : Option (Address × Value)

/-- The value of the cell that a text names. -/
def Workbook.evaluateText (w : Workbook) (text : String) :
    Except CompileError (Address × Value) := do
  let cell ← Address.read text w.defaultSheet
  return (cell, ← Evaluation.evaluateCell w cell)

/-- The values of the cells that texts name, each evaluation using what earlier ones found. -/
def Workbook.evaluateTexts (w : Workbook) (texts : List String) :
    List (Except CompileError Value) :=
  let one (text : String) : Evaluation.Evaluator Value :=
    match Address.read text w.defaultSheet with
    | .ok cell => Evaluation.evaluate w cell
    | .error e => throw e
  ((texts.mapM fun text => (one text).run).run .empty).1

namespace Compilation

/-- The class name derived from the name of a workbook. -/
def defaultClassName (workbookName : String) : String :=
  let base := Naming.pascalCase (Naming.camelCase workbookName)
  if base.isEmpty then "WorkbookModel" else base ++ "Model"

/-- The name of the class, which has to be usable as one. -/
def checkedClassName (w : Workbook) (options : Options) : Except CompileError String :=
  let name := options.className.getD (defaultClassName w.name)
  if Naming.isUsable name then .ok name else .error (.invalidOption (.className name))

/-- The namespace of the class, if there is one, is a dotted name. -/
def checkNamespace (options : Options) : Except CompileError Unit :=
  match options.namespaceName with
  | none => .ok ()
  | some name =>
    if Naming.isDottedName name then .ok () else .error (.invalidOption (.namespaceName name))

/-- The cells that texts designate as outputs, each once. -/
def designated (w : Workbook) : List Address → List String → Except CompileError (List Address)
  | found, [] => .ok found
  | found, text :: rest => do
    let cell ← Address.read text w.defaultSheet
    if (w.cell? cell).isNone then .error (.noSuchCell text)
    else designated w (if found.contains cell then found else found ++ [cell]) rest

/-- The formulas that no formula reads, in evaluation order. -/
def unread (g : Dependency.Graph) (order : List Address) : List Address :=
  order.filter fun cell => (g.dependents cell).isEmpty

/-- The cells that get accessors. -/
def outputCells (w : Workbook) (g : Dependency.Graph) (order : List Address) (options : Options) :
    Except CompileError (List Address) :=
  if options.outputs.isEmpty then .ok (unread g order) else designated w [] options.outputs

end Compilation

/-- Compiles a workbook. -/
def compile (w : Workbook) (options : Options) : Except CompileError Compilation := do
  let className ← Compilation.checkedClassName w options
  Compilation.checkNamespace options
  let g := Dependency.Graph.ofWorkbook w
  let order ← g.order
  let statements ← Lowering.statements w options.inlineValues order
  let names ← Naming.assign [className] statements
  let outputs ← Compilation.outputCells w g order options
  let layout : ClassFile.Layout :=
    { className, namespaceName := options.namespaceName, source := w.name,
      includeRuntime := options.includeRuntime }
  let source ← ClassFile.source layout names statements outputs
  let evaluation ← options.cell.mapM w.evaluateText
  return { source, names, className, order, outputs, evaluation }

end SheetCompiler
