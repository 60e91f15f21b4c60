import SheetCompiler.ClassFile.Declaration
import SheetCompiler.ClassFile.Line

/-!
# The generated file

One class computes the workbook. Value cells that no formula reads are constants; those that
formulas read are fields set by optional constructor parameters; formulas are fields computed by the
constructor in evaluation order; and each output has a public accessor.
-/

namespace SheetCompiler.ClassFile

open Lowering (Statement)

/-- What surrounds the declarations of a class. -/
structure Layout where
  className : String
  namespaceName : Option String := none
  /-- The name of the workbook. -/
  source : String
  includeRuntime : Bool

/-- The text inside an XML comment. -/
def xmlText (s : String) : String :=
  String.ofList (s.toList.flatMap fun c =>
    if c = '&' then "&amp;".toList
    else if c = '<' then "&lt;".toList
    else if c = '>' then "&gt;".toList
    else [c])

/-- The head of a file. -/
def header (layout : Layout) : List Line :=
  [line "// <auto-generated>",
    line ("//     Generated by cellforge from workbook \"" ++ singleLine layout.source ++ "\"."),
    line "// </auto-generated>"] ++
    (Code.imports.map fun name => line ("using " ++ name ++ ";")) ++ [blank]

/-- The members for a constant. -/
def constantLines (d : Declaration) : List Line :=
  [line d.comment,
    line ("private const " ++ d.valueType ++ " " ++ d.name ++ " = " ++ d.expr.render ++ ";"), blank]

/-- The members for a field. -/
def fieldLines (d : Declaration) : List Line :=
  [line d.comment, line ("private readonly " ++ d.fieldType ++ " " ++ d.name ++ ";"), blank]

/-- The parameters of the constructor, one per input. -/
def parameterLines : List Declaration → List Line
  | [] => []
  | [d] => [line (parameter d ++ ")")]
  | d :: rest => line (parameter d ++ ",") :: parameterLines rest
where
  parameter (d : Declaration) : String := d.valueType ++ " " ++ d.name ++ " = " ++ d.expr.render

/-- The head of the constructor. -/
def constructorHead (className : String) (inputs : List Declaration) : List Line :=
  if inputs.isEmpty then [line ("public " ++ className ++ "()")]
  else line ("public " ++ className ++ "(") :: indented (parameterLines inputs)

/-- The assignment of a formula in the constructor. -/
def formulaLines (d : Declaration) : List Line :=
  let value :=
    if d.deferred then "new " ++ d.fieldType ++ "(() => " ++ d.expr.render ++ ")"
    else d.expr.render
  [line d.comment, line (d.name ++ " = " ++ value ++ ";")]

/-- The body of the constructor: inputs first, then the formulas with blank lines between. -/
def constructorBody (inputs formulas : List Declaration) : List Line :=
  let given := inputs.map fun d => line ("this." ++ d.name ++ " = " ++ d.name ++ ";")
  let computed := formulas.flatMap fun d => blank :: formulaLines d
  if inputs.isEmpty then computed.drop 1 else given ++ computed

/-- The accessors of the outputs, each under a name that no earlier one has. -/
def accessorLines (used : List String) : List Declaration → List Line
  | [] => []
  | d :: rest =>
    let name := Naming.firstFree ("Get" ++ Naming.pascalCase d.name) "" used
    [blank, line d.comment,
      line ("public " ++ d.valueType ++ " " ++ name ++ "() => " ++ d.read ++ ";")]
      ++ accessorLines (name :: used) rest

/-- The class of the declarations, with accessors for the output cells. -/
def classLines (layout : Layout) (declared : List Declaration) (outputs : List Address) :
    List Line :=
  let formulas := declared.filter (·.statement.kind = .formula)
  let read := formulas.flatMap (·.statement.expr.occurrences)
  let (inputs, constants) :=
    (declared.filter (·.statement.kind = .input)).partition (read.contains ·.statement.raw)
  [line ("/// <summary>Computed model of workbook \"" ++ xmlText (singleLine layout.source)
      ++ "\".</summary>"),
    line ("public sealed class " ++ layout.className)] ++
    braced (constants.flatMap constantLines ++ (inputs ++ formulas).flatMap fieldLines ++
      constructorHead layout.className inputs ++ braced (constructorBody inputs formulas) ++
      accessorLines [] (declared.filter (outputs.contains ·.statement.cell)))

/-- The lines of the whole file. -/
def fileLines (layout : Layout) (declared : List Declaration) (outputs : List Address) :
    List Line :=
  let support := if layout.includeRuntime then blank :: Code.supportLines.map line else []
  let body := classLines layout declared outputs ++ support
  header layout ++
    match layout.namespaceName with
    | none => body
    | some name => line ("namespace " ++ name) :: braced body

/-- The text of the file that computes the statements under their final names. -/
def source (layout : Layout) (names : Naming.Mapping) (statements : List Statement)
    (outputs : List Address) : Except CompileError String := do
  return renderLines (fileLines layout (← declarations names statements) outputs)

end SheetCompiler.ClassFile
