import SheetCompiler.CompileError
import SheetCompiler.Import

/-!
# The world outside

Commands read and write files and print lines. They do so through a host, so that the same command
runs on a real directory and on one that is kept as a value.
-/

namespace SheetCompiler.Files

/-- What a file holds. -/
inductive File where
  | text (s : String)
  | spreadsheet (book : Import.Spreadsheet)
  /-- Neither a text nor a spreadsheet. -/
  | unknown

/-- What a command can do outside. -/
structure Host (m : Type → Type) where
  read : String → m (Except FileFault File)
  write : String → String → m (Except FileFault Unit)
  /-- There is a file or a directory at the path. -/
  exists? : String → m Bool
  /-- Prints one line. -/
  say : String → m Unit

end SheetCompiler.Files
