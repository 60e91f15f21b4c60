/-!
# Uses of the command line

What the command line can be asked to do, and why a list of arguments asks for none of it.
-/

namespace SheetCompiler.Command

/-- Why arguments do not give an invocation. -/
inductive Usage where
  /-- There are no arguments at all. -/
  | nothingGiven
  | helpWanted
  | versionWanted
  | unknownCommand
  | missingArgument
  /-- An unknown option, or one argument too many. -/
  | unknownArgument
  /-- An option without its value, or an empty path. -/
  | missingValue
  /-- An option is given twice. -/
  | repeatedOption
  /-- A flag is given a value. -/
  | unexpectedValue
deriving DecidableEq, Inhabited

/-- Asking for help or for the version is no mistake. -/
def Usage.exitCode : Usage → Nat
  | helpWanted | versionWanted => 0
  | _ => 2

/-- The commands. -/
inductive Name where
  | compile
  | extract
  | eval
  | audit
  | watch
deriving DecidableEq, Inhabited

/-- The word for a command. -/
def Name.text : Name → String
  | compile => "compile"
  | extract => "extract"
  | eval => "eval"
  | audit => "audit"
  | watch => "watch"

/-- Every command. -/
def Name.all : List Name :=
  [.compile, .extract, .eval, .audit, .watch]

/-- What a parameter takes. -/
inductive Kind where
  | flag
  | text
  /-- A text each time it is given. -/
  | texts
  /-- A path, which is not empty. -/
  | path
  | help
  | version
deriving DecidableEq

/-- The parameter stands alone, without a value. -/
def Kind.isSwitch : Kind → Bool
  | flag | help | version => true
  | text | texts | path => false

/-- A parameter of a command. -/
structure Parameter where
  name : String
  kind : Kind
  short : Option Char := none

/-- The parameters that are given by name. -/
def Name.options : Name → List Parameter
  | compile | watch => [
    ⟨"output", .path, some 'o'⟩,
    ⟨"map", .path, some 'm'⟩,
    ⟨"config", .path, some 'c'⟩,
    ⟨"class-name", .text, none⟩,
    ⟨"namespace", .text, none⟩,
    ⟨"output-cell", .texts, none⟩,
    ⟨"inline-values", .flag, none⟩,
    ⟨"no-runtime", .flag, none⟩,
    ⟨"cell", .text, none⟩,
    ⟨"verbose", .flag, some 'v'⟩,
    ⟨"help", .help, some 'h'⟩]
  | extract => [
    ⟨"output", .path, some 'o'⟩,
    ⟨"verbose", .flag, some 'v'⟩,
    ⟨"help", .help, some 'h'⟩]
  | eval | audit => [⟨"help", .help, some 'h'⟩]

/-- The parameters that are given by position, all of them required. -/
def Name.positions : Name → List Parameter
  | compile | watch | extract => [⟨"INPUT", .path, none⟩]
  | eval | audit => [⟨"INPUT", .path, none⟩, ⟨"CELL", .text, none⟩]

/-- The options that stand before any command. -/
def generalOptions : List Parameter :=
  [⟨"help", .help, some 'h'⟩, ⟨"version", .version, some 'V'⟩]

end SheetCompiler.Command
