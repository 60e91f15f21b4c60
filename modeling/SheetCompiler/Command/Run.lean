import SheetCompiler.Command.Arguments
import SheetCompiler.Compilation
import SheetCompiler.Dependency.Tree
import SheetCompiler.Files.Loading

/-!
# Running commands

What each command does through a host. A command prints as it goes, so a failure leaves what was
printed before it. Nothing is written unless everything before has succeeded.
-/

namespace SheetCompiler.Command

open Files (Host)

variable {m : Type → Type} [Monad m]

namespace CompileArguments

/-- Where the class is written: beside the workbook unless said otherwise. -/
def outputPath (args : CompileArguments) : String :=
  args.output.getD (Path.withExtension args.input "cs")

/-- The options of a compilation: those of the options file, under those of the command line. -/
def loadOptions (host : Host m) (args : CompileArguments) : ExceptT CompileError m Options := do
  match args.config with
  | some path => return args.options (← host.loadOptions path)
  | none => return args.options {}

end CompileArguments

/-- The size of a workbook, for the reader. -/
def sizeLine (w : Workbook) : String :=
  "   " ++ toString w.sheets.length ++ " sheets, " ++ toString w.cells.size ++ " cells, "
    ++ toString w.formulaCount ++ " formulas"

/-- The numbered cells of an evaluation order. -/
def orderLines (order : List Address) : List String :=
  order.zipIdx.map fun (cell, i) => "     " ++ toString (i + 1) ++ ". " ++ cell.text

/-- A cell and its value. -/
def valueText (cell : Address) (value : Value) : String :=
  cell.text ++ " = " ++ value.display

/-- Prints several lines. -/
def sayAll (host : Host m) (lines : List String) : ExceptT CompileError m Unit :=
  lines.forM fun line => host.say line

/-- Prints lines only for those who want to know more. -/
def sayIf (host : Host m) (verbose : Bool) (lines : List String) : ExceptT CompileError m Unit :=
  if verbose then sayAll host lines else return ()

/-- Compiles a workbook and writes what comes of it. -/
def build (host : Host m) (args : CompileArguments) : ExceptT CompileError m Compilation := do
  let options ← args.loadOptions host
  sayIf host args.verbose ["📖 Reading workbook..."]
  let w ← host.loadWorkbook args.input
  sayIf host args.verbose [sizeLine w, "", "🧮 Compiling..."]
  let c ← SheetCompiler.compile w options
  sayIf host args.verbose
    (["   Evaluation order:"] ++ orderLines c.order ++ ["", "🏷️  Identifiers:"]
      ++ c.names.toList.map (fun (raw, name) => "   " ++ raw ++ " → " ++ name) ++ [""])
  host.store args.outputPath c.source
  match args.map with
  | some path => host.store path c.names.json.pretty
  | none => pure ()
  return c

/-- Compiles a workbook into a class. -/
def compile (host : Host m) (args : CompileArguments) : ExceptT CompileError m Unit := do
  sayAll host [
    "🔥 CellForge - Compile",
    "   Input:  " ++ args.input,
    "   Output: " ++ args.outputPath,
    ""]
  let c ← build host args
  sayAll host [
    "✅ Compilation Complete!",
    "   Class:      " ++ c.className,
    "   Formulas:   " ++ toString c.order.length,
    "   Identifiers: " ++ toString c.names.size,
    "   Accessors:  " ++ toString c.outputs.length]
  sayAll host (args.map.toList.map ("   Mapping:    " ++ ·))
  sayAll host (c.evaluation.toList.map fun (cell, value) => "   " ++ valueText cell value)
  host.say ""

/-- The sheets of a workbook with the number of their cells. -/
def sheetLines (w : Workbook) : List String :=
  w.sheets.map fun sheet =>
    let count := w.cells.keys.countP (·.sheet == sheet)
    "   " ++ sheet ++ " (" ++ toString count ++ " cells)"

/-- Turns a spreadsheet into the document of a workbook. -/
def extract (host : Host m) (input : String) (output : Option String) (verbose : Bool) :
    ExceptT CompileError m Unit := do
  let path := output.getD (Path.withExtension input "yaml")
  sayAll host [
    "🔥 CellForge - Extract",
    "   Input:  " ++ input,
    "   Output: " ++ path,
    ""]
  sayIf host verbose ["📖 Reading Excel file..."]
  let w ← host.importSpreadsheet input
  sayIf host verbose (sheetLines w ++ [""])
  host.store path w.toText
  sayAll host [
    "✅ Extraction Complete!",
    "   Sheets:   " ++ toString w.sheets.length,
    "   Cells:    " ++ toString w.cells.size,
    "   Formulas: " ++ toString w.formulaCount,
    ""]

/-- Prints the value of a cell. -/
def eval (host : Host m) (input cell : String) : ExceptT CompileError m Unit := do
  let w ← host.loadWorkbook input
  let (address, value) ← w.evaluateText cell
  host.say (valueText address value)

/-- A cell in the dependency tree: its address, its label and what it holds. -/
def describe (w : Workbook) (address : Address) : String :=
  let label := match (w.cell? address).bind Cell.label with
    | some label => " [" ++ label ++ "]"
    | none => ""
  let detail := match (w.cell? address).map Cell.content with
    | some (.formula text _) => text
    | some (.value literal) => literal.display
    | none => "(empty)"
  address.text ++ label ++ " " ++ detail

/-- What is known about a cell without computing it. -/
def informationLines (cell : Cell) : List String :=
  ["📋 Cell Information:"]
    ++ cell.label.toList.map ("   Label: " ++ ·)
    ++ [match cell.content with
      | .value literal => "   Value: " ++ literal.display
      | .formula text _ => "   Formula: " ++ text]
    ++ [""]

/-- The dependency tree of a formula cell. -/
def treeLines (w : Workbook) (address : Address) : List String :=
  ["🌳 Dependency Tree:"]
    ++ (Dependency.Graph.ofWorkbook w).treeLines (describe w) address
    ++ [""]

/-- A stored value agrees with a computed one; numbers may differ a little. -/
def agrees : Value → Value → Bool
  | .number x, .number y => (x - y).abs < 0.0001
  | stored, computed => stored == computed

/-- How a computed value compares with the stored one. -/
def comparisonLines (cached : Option Literal) (value : Value) : List String :=
  match cached.map Value.ofLiteral with
  | none => []
  | some stored =>
    if agrees stored value then ["   ✅ Matches the value stored in the workbook"]
    else [
      "   ⚠️ Value mismatch!",
      "      Stored:     " ++ stored.display,
      "      Calculated: " ++ value.display]

/-- Shows where the value of a cell comes from. -/
def audit (host : Host m) (input text : String) : ExceptT CompileError m Unit := do
  sayAll host [
    "🔍 CellForge - Audit Trail",
    "   File: " ++ input,
    "   Cell: " ++ text,
    ""]
  let w ← host.loadWorkbook input
  let address ← Address.read text w.defaultSheet
  let cell ← match w.cell? address with
    | some cell => pure cell
    | none => throw (.noSuchCell text)
  sayAll host (informationLines cell)
  if cell.isFormula then sayAll host (treeLines w address)
  host.say "🧮 Calculation:"
  let (_, value) ← w.evaluateText text
  host.say ("   Calculated: " ++ value.display)
  sayAll host (comparisonLines cell.cached value)
  host.say ""

/-- Compiles once and tells how it went, as `watch` does at each change. -/
def rebuild (host : Host m) (args : CompileArguments) : m Unit := do
  match ← (build host args).run with
  | .ok c =>
    host.say ("✅ " ++ c.className ++ " written (" ++ toString c.order.length ++ " formulas)")
  | .error e => host.say ("❌ " ++ e.message)

/-- Starts watching a workbook: it has to exist, and it is compiled once. -/
def watch (host : Host m) (args : CompileArguments) : ExceptT CompileError m Unit := do
  sayAll host [
    "👁️  CellForge - Watch Mode",
    "   Input:  " ++ args.input,
    "   Output: " ++ args.outputPath,
    "   Press Ctrl+C to stop",
    ""]
  if !(← host.exists? args.input) then
    throw (.watch ("File not found: " ++ args.input))
  host.say "🔄 Initial compile..."
  ExceptT.lift (rebuild host args)
  sayAll host ["", "👀 Watching for changes..."]

/-- Runs an invocation. -/
def run (host : Host m) : Invocation → ExceptT CompileError m Unit
  | .compile args => compile host args
  | .extract input output verbose => extract host input output verbose
  | .eval input cell => eval host input cell
  | .audit input cell => audit host input cell
  | .watch args => watch host args

end SheetCompiler.Command
