import SheetCompiler.Files.Host
import SheetCompiler.Files.Path
import SheetCompiler.Persistence.Workbook

/-!
# Reading and writing through a host

A path whose extension is `yaml` or `yml` in any case names the document of a workbook; any other
path names a spreadsheet, and the workbook takes its name from the file.
-/

namespace SheetCompiler.Files.Host

variable {m : Type → Type} [Monad m]

/-- The spreadsheet at a path, as a workbook. -/
def importSpreadsheet (host : Host m) (path : String) : ExceptT CompileError m Workbook := do
  match ← host.read path with
  | .ok (.spreadsheet book) => book.toWorkbook ((Path.stem? path).getD "Workbook")
  | .ok _ => throw (.unreadableWorkbook (path ++ ": not a spreadsheet"))
  | .error fault => throw (.unreadableWorkbook (path ++ ": I/O error: " ++ fault.message))

/-- The workbook document at a path. -/
def loadDocument (host : Host m) (path : String) : ExceptT CompileError m Workbook := do
  match ← host.read path with
  | .ok (.text text) => Workbook.ofText text
  | .ok _ => throw (.unreadableWorkbook (path ++ ": " ++ FileFault.notText.message))
  | .error fault => throw (.unreadableWorkbook (path ++ ": " ++ fault.message))

/-- The path names the document of a workbook. -/
def isDocument (path : String) : Bool :=
  match (Path.extension? path).map Text.lower with
  | some extension => extension == "yaml" || extension == "yml"
  | none => false

/-- The workbook at a path. -/
def loadWorkbook (host : Host m) (path : String) : ExceptT CompileError m Workbook :=
  if isDocument path then host.loadDocument path else host.importSpreadsheet path

/-- The options at a path. -/
def loadOptions (host : Host m) (path : String) : ExceptT CompileError m Options := do
  match ← host.read path with
  | .ok (.text text) => Options.ofText text
  | .ok _ => throw (.file .notText)
  | .error fault => throw (.file fault)

/-- Writes a text to a path. -/
def store (host : Host m) (path text : String) : ExceptT CompileError m Unit := do
  match ← host.write path text with
  | .ok () => return ()
  | .error fault => throw (.file fault)

end SheetCompiler.Files.Host
