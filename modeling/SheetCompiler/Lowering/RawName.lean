import SheetCompiler.Ascending
import SheetCompiler.Naming.FirstFree
import SheetCompiler.Workbook

/-!
# Raw cell names

Every cell has a raw name of its own: the prefix of its sheet and its local address. Sheet prefixes
are made of letters, digits and underscores, and no two sheets share one.
-/

namespace SheetCompiler.Lowering

open Formula (Expr)

mutual

/-- The cells that an expression references one by one, outside ranges. -/
def directReferences : Expr → List Address
  | .literal _ | .range .. => []
  | .cell address => [address]
  | .binary _ left right => directReferences left ++ directReferences right
  | .unary _ operand => directReferences operand
  | .call _ args => directReferencesOf args

/-- The cells that expressions reference one by one. -/
def directReferencesOf : List Expr → List Address
  | [] => []
  | e :: rest => directReferences e ++ directReferencesOf rest

end

/-- The cells that some formula of the workbook references outside ranges, ascending. -/
def directlyReferenced (w : Workbook) : List Address :=
  distinct (w.formulas.values.flatMap directReferences)

/-- A letter or digit of ASCII. -/
def isWordChar (c : Char) : Bool :=
  c.isAlpha || c.isDigit

/-- A sheet name as the start of an identifier. -/
def sheetWord (sheet : String) : String :=
  let cs := sheet.toList.map fun c => if isWordChar c then c else '_'
  match cs with
  | [] => "Sheet"
  | c :: _ => String.ofList (if c.isDigit then '_' :: cs else cs)

/-- The prefix of each sheet. -/
abbrev Prefixes := OrderedMap String String

/-- Gives each sheet in turn the first free form of its word. -/
def assignPrefixes (sheets : List String) : Prefixes :=
  let step := fun ((prefixes, taken) : Prefixes × List String) sheet =>
    let word := Naming.firstFree (sheetWord sheet) "_" taken
    (prefixes.insert sheet word, word :: taken)
  (sheets.foldl step (.empty, [])).1

/-- The sheets that need a prefix: those of the workbook in order, then those that only occur in
addresses, ascending. -/
def namedSheets (w : Workbook) : List String :=
  let mentioned := (directlyReferenced w ++ w.cells.keys).map Address.sheet
  w.sheets ++ distinct (mentioned.filter fun sheet => !w.sheets.contains sheet)

/-- The prefixes of a workbook's sheets. -/
def sheetPrefixes (w : Workbook) : Prefixes :=
  assignPrefixes (namedSheets w)

/-- The raw name of a cell. -/
def rawName (known : Prefixes) (cell : Address) : String :=
  ((known.get? cell.sheet).getD (sheetWord cell.sheet)) ++ "_" ++ cell.localText

end SheetCompiler.Lowering
