import SheetCompiler.Code.Render
import SheetCompiler.Lowering.Basic
import SheetCompiler.Naming.Mapping

/-!
# Declarations

A statement with its final name becomes a member of the class. A formula that can raise a
spreadsheet error is held in a wrapper that raises it when the cell is read, so that an `IFERROR`
further on can still catch it; readers of such a cell go through its `Value`.
-/

namespace SheetCompiler.ClassFile

open Lowering (Statement)

/-- A statement under its final name. -/
structure Declaration where
  statement : Statement
  name : String
  /-- The expression under final names. -/
  expr : Code.Expr
  /-- The value is held back until it is read. -/
  deferred : Bool

/-- The raw names of the formulas that are held back: those that can raise an error themselves or
read a formula before them that is held back. -/
def deferredNames (statements : List Statement) : List String :=
  statements.foldl (fun deferred s =>
    if s.kind = .formula && s.expr.mayRaise deferred then s.raw :: deferred else deferred) []

/-- How the value of a raw name is read. -/
def readAs (names : Naming.Mapping) (deferred : List String) (raw : String) : Option String :=
  (names.get? raw).map fun name => if deferred.contains raw then name ++ ".Value" else name

/-- The declaration of a statement. -/
def declare (names : Naming.Mapping) (deferred : List String) (s : Statement) :
    Except CompileError Declaration :=
  match names.get? s.raw with
  | none => .error (.unmappedIdentifier s.raw)
  | some name => do
    return ⟨s, name, ← s.expr.rename (readAs names deferred), deferred.contains s.raw⟩

/-- The declarations of all statements. -/
def declarations (names : Naming.Mapping) (statements : List Statement) :
    Except CompileError (List Declaration) :=
  statements.mapM (declare names (deferredNames statements))

/-- The text on a single line. -/
def singleLine (s : String) : String :=
  String.ofList (s.toList.map fun c => if c = '\r' || c = '\n' then ' ' else c)

namespace Declaration

/-- The comment that says which cell a declaration stands for. -/
def comment (d : Declaration) : String :=
  let label := match d.statement.label with
    | some label => " (" ++ singleLine label ++ ")"
    | none => ""
  "// " ++ d.statement.cell.text ++ label

/-- The C# type of the value. -/
def valueType (d : Declaration) : String :=
  d.statement.type.codeName

/-- The C# type of the field. -/
def fieldType (d : Declaration) : String :=
  if d.deferred then "XlValue<" ++ d.valueType ++ ">" else d.valueType

/-- The expression that reads the field. -/
def read (d : Declaration) : String :=
  if d.deferred then d.name ++ ".Value" else d.name

end Declaration

end SheetCompiler.ClassFile
