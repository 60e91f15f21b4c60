import SheetCompiler.Command.Run

/-!
# The command line

The commands on the real file system. Spreadsheets have to be turned into workbook documents before:
the container of a spreadsheet file is not read here.
-/

namespace SheetCompiler.Main

open Files (File Host)

/-- The fault behind a failure of the system. -/
def faultOf : IO.Error → FileFault
  | .noFileOrDirectory .. => .notFound
  | .alreadyExists .. => .alreadyExists
  | .inappropriateType _ code _ => if code == 20 then .notDirectory else .isDirectory
  | e => .other (toString e)

/-- The file at a path. -/
def readFile (path : String) : IO (Except FileFault File) := do
  try
    let bytes ← IO.FS.readBinFile path
    match String.fromUTF8? bytes with
    | some text => return .ok (.text text)
    | none => return .ok .unknown
  catch e => return .error (faultOf e)

/-- The host that works on the file system and prints to the console. -/
def host : Host IO where
  read := readFile
  write path text := do
    try
      IO.FS.writeFile path text
      return .ok ()
    catch e => return .error (faultOf e)
  exists? path := do
    match ← readFile path with
    | .error .notFound | .error .notDirectory => return false
    | _ => return true
  say := IO.println

/-- The text of a file, where it can be read. -/
def textAt (path : String) : IO (Option String) := do
  match ← readFile path with
  | .ok (.text text) => return some text
  | _ => return none

/-- Compiles again whenever the workbook has changed. -/
partial def keepWatching (args : Command.CompileArguments) (last : Option String) : IO Unit := do
  IO.sleep 200
  let text ← textAt args.input
  if text.isSome && text != last then
    IO.println "\n📝 Change detected, recompiling..."
    Command.rebuild host args
  keepWatching args (text.or last)

/-- What is printed when the arguments give no invocation. -/
def usageText : Command.Usage → String
  | .versionWanted => "cellforge 0.4.0"
  | _ => "Usage: cellforge <" ++ "|".intercalate (Command.Name.all.map (·.text)) ++ "> [ARGUMENTS]"

/-- Runs the program and gives its exit code. -/
def runArguments (args : List String) : IO UInt32 := do
  match Command.Invocation.ofArguments args with
  | .error usage =>
    if usage.exitCode == 0 then IO.println (usageText usage) else IO.eprintln (usageText usage)
    return usage.exitCode.toUInt32
  | .ok invocation =>
    match ← (Command.run host invocation).run with
    | .error e =>
      IO.eprintln ("Error: " ++ e.message)
      return 1
    | .ok () =>
      match invocation with
      | .watch args => keepWatching args (← textAt args.input)
      | _ => pure ()
      return 0

end SheetCompiler.Main

/-- The entry point. -/
def main (args : List String) : IO UInt32 :=
  SheetCompiler.Main.runArguments args
