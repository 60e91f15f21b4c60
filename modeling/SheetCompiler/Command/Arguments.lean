import SheetCompiler.Command.Usage
import SheetCompiler.Options

/-!
# Reading arguments

Options are written `--name value`, `--name=value`, `-n value`, `-nvalue` or `-n=value`; flags in
their short form can be joined. A pair of hyphens ends the options. Arguments are checked one after
the other, but a value that stands apart from its option only when the next argument takes effect.
-/

namespace SheetCompiler.Command

/-- The parameters found so far. -/
structure Found where
  /-- The values by parameter, in the order given. -/
  values : List (String × String) := []
  flags : List String := []
  /-- The last parameter and its value, which are not yet checked. -/
  pending : Option (Parameter × Option String) := none
  /-- The number of arguments given by position. -/
  positions : Nat := 0
deriving Inhabited

namespace Found

/-- The values of a parameter. -/
def all (found : Found) (name : String) : List String :=
  found.values.filterMap fun (key, value) => if key == name then some value else none

/-- The value of a parameter. -/
def value? (found : Found) (name : String) : Option String :=
  (found.all name).head?

/-- Takes the value of a parameter. -/
def settle (found : Found) (p : Parameter) (value : String) : Except Usage Found :=
  if p.kind != .texts && (found.value? p.name).isSome then .error .repeatedOption
  else if p.kind == .path && value.isEmpty then .error .missingValue
  else .ok { found with values := found.values ++ [(p.name, value)] }

/-- Checks the pending parameter. -/
def resolve (found : Found) : Except Usage Found :=
  match found.pending with
  | none => .ok found
  | some (_, none) => .error .missingValue
  | some (p, some value) => { found with pending := none }.settle p value

/-- Takes a parameter without a value. -/
def switch (found : Found) (p : Parameter) : Except Usage Found := do
  let found ← found.resolve
  match p.kind with
  | .help => throw .helpWanted
  | .version => throw .versionWanted
  | _ =>
    if found.flags.contains p.name then throw .repeatedOption
    return { found with flags := found.flags ++ [p.name] }

/-- Takes an option whose value is attached, or expects its value. -/
def expect (found : Found) (p : Parameter) (attached : Option String) : Except Usage Found := do
  let found ← found.resolve
  match attached with
  | some value => found.settle p value
  | none => return { found with pending := some (p, none) }

/-- Takes an option by its long name. -/
def long (options : List Parameter) (found : Found) (body : List Char) : Except Usage Found :=
  let (name, rest) := body.span (· != '=')
  let attached := match rest with
    | [] => none
    | _ :: value => some (String.ofList value)
  match options.find? (·.name == String.ofList name) with
  | none => .error .unknownArgument
  | some p =>
    if p.kind.isSwitch then
      if attached.isSome then .error .unexpectedValue else found.switch p
    else found.expect p attached

/-- Takes options by their short names; the first one that has a value takes the rest. -/
def short (options : List Parameter) (found : Found) : List Char → Except Usage Found
  | [] => .ok found
  | c :: rest =>
    match options.find? (·.short == some c) with
    | none => .error .unknownArgument
    | some p =>
      if p.kind.isSwitch then do short options (← found.switch p) rest
      else found.expect p (match rest with
        | [] => none
        | '=' :: value => some (String.ofList value)
        | value => some (String.ofList value))

/-- Takes an argument by its position. -/
def positional (places : List Parameter) (found : Found) (arg : String) : Except Usage Found :=
  match places[found.positions]? with
  | none => .error .unknownArgument
  | some p => do
    let found ← found.resolve
    return { found with pending := some (p, some arg), positions := found.positions + 1 }

/-- Takes an argument while options are possible. -/
def argument (command : Name) (found : Found) (arg : String) : Except Usage Found :=
  match arg.toList with
  | '-' :: '-' :: body => found.long command.options body
  | '-' :: c :: rest => found.short command.options (c :: rest)
  | _ =>
    match found.pending with
    | some (p, none) => .ok { found with pending := some (p, some arg) }
    | _ => found.positional command.positions arg

/-- Takes the arguments of a command. -/
def arguments (command : Name) (found : Found) : List String → Except Usage Found
  | [] => found.resolve
  | "--" :: rest => do (← rest.foldlM (positional command.positions) found).resolve
  | arg :: rest => do arguments command (← found.argument command arg) rest

end Found

/-- The arguments of `compile` and `watch`. -/
structure CompileArguments where
  input : String
  output : Option String := none
  map : Option String := none
  config : Option String := none
  className : Option String := none
  namespaceName : Option String := none
  outputs : List String := []
  inlineValues : Bool := false
  noRuntime : Bool := false
  cell : Option String := none
  verbose : Bool := false

/-- What the command line is asked to do. -/
inductive Invocation where
  | compile (args : CompileArguments)
  | extract (input : String) (output : Option String) (verbose : Bool)
  | eval (input cell : String)
  | audit (input cell : String)
  | watch (args : CompileArguments)

namespace Found

/-- A required argument. -/
def required (found : Found) (name : String) : Except Usage String :=
  match found.value? name with
  | some value => .ok value
  | none => .error .missingArgument

/-- The arguments of `compile` and `watch`. -/
def compileArguments (found : Found) : Except Usage CompileArguments := do
  return {
    input := ← found.required "INPUT"
    output := found.value? "output"
    map := found.value? "map"
    config := found.value? "config"
    className := found.value? "class-name"
    namespaceName := found.value? "namespace"
    outputs := found.all "output-cell"
    inlineValues := found.flags.contains "inline-values"
    noRuntime := found.flags.contains "no-runtime"
    cell := found.value? "cell"
    verbose := found.flags.contains "verbose" }

/-- The invocation of a command. -/
def invocation (found : Found) : Name → Except Usage Invocation
  | .compile => return .compile (← found.compileArguments)
  | .watch => return .watch (← found.compileArguments)
  | .extract =>
    return .extract (← found.required "INPUT") (found.value? "output")
      (found.flags.contains "verbose")
  | .eval => return .eval (← found.required "INPUT") (← found.required "CELL")
  | .audit => return .audit (← found.required "INPUT") (← found.required "CELL")

end Found

namespace Invocation

/-- The command of a word. -/
def command? (word : String) : Option Name :=
  Name.all.find? (·.text == word)

/-- A word that stands for a command or for help about commands. -/
def isCommand (word : String) : Bool :=
  word == "help" || (command? word).isSome

/-- Help about a command. -/
def help : List String → Usage
  | [] => .helpWanted
  | [word] => if isCommand word then .helpWanted else .unknownCommand
  | _ => .unknownCommand

/-- The invocation that arguments give. -/
def ofArguments : List String → Except Usage Invocation
  | [] => .error .nothingGiven
  | "--" :: rest =>
    match rest with
    | [] => .error .nothingGiven
    | word :: _ => .error (if isCommand word then .unknownArgument else .unknownCommand)
  | "help" :: rest => .error (help rest)
  | word :: rest =>
    match command? word with
    | some command => do ((← Found.arguments command {} rest).invocation command)
    | none =>
      match word.toList with
      | '-' :: '-' :: body => do
        let _ ← Found.long generalOptions {} body
        .error .unknownArgument
      | '-' :: c :: body => do
        let _ ← Found.short generalOptions {} (c :: body)
        .error .unknownArgument
      | _ => .error .unknownCommand

end Invocation

namespace CompileArguments

/-- The options under which the arguments compile: what they say, and otherwise what `base` says. -/
def options (args : CompileArguments) (base : Options) : Options where
  className := args.className.or base.className
  namespaceName := args.namespaceName.or base.namespaceName
  outputs := if args.outputs.isEmpty then base.outputs else args.outputs
  inlineValues := args.inlineValues || base.inlineValues
  includeRuntime := !args.noRuntime && base.includeRuntime
  cell := args.cell.or base.cell

end CompileArguments

end SheetCompiler.Command
