import SheetCompiler.Address.Basic
import SheetCompiler.Formula.Function
import SheetCompiler.Formula.Parser

/-!
# Failures

Everything that can stop the compiler, from a file that cannot be read to a formula that cannot be
compiled. A failure is a cause; its wording is the business of `CompileError.message` alone.
-/

namespace SheetCompiler

/-- What is wrong with the arguments of a function or operator. -/
inductive ArgumentFault where
  /-- A range stands where a single value is expected. -/
  | rangeAsValue
  /-- A lookup function is given something other than a range. -/
  | rangeNeeded
  /-- The function called by `name` does not take this many arguments. -/
  | arity (name : String) (expected : Formula.Function.Arity) (count : Nat)
  /-- A cell is read before the cell it depends on has been computed. -/
  | notComputed (cell : Address)
deriving DecidableEq

/-- The fault in words. -/
def ArgumentFault.message : ArgumentFault → String
  | rangeAsValue => "range used where a single value is expected"
  | rangeNeeded => "lookup functions need a range argument"
  | arity name expected count =>
    name ++ " expects " ++ expected.text ++ " arguments, got " ++ toString count
  | notComputed cell => cell.text ++ " is referenced before it is computed"

/-- What is wrong with an option. -/
inductive OptionFault where
  | className (name : String)
  | namespaceName (name : String)
deriving DecidableEq

/-- The fault in words. -/
def OptionFault.message : OptionFault → String
  | className name => "'" ++ name ++ "' is not a valid class name"
  | namespaceName name => "'" ++ name ++ "' is not a valid namespace"

/-- Why a file cannot be read or written. -/
inductive FileFault where
  | notFound
  | isDirectory
  | notDirectory
  | alreadyExists
  | notText
  /-- Any other fault, in the words of the system. -/
  | other (reason : String)
deriving DecidableEq

/-- The fault in words. -/
def FileFault.message : FileFault → String
  | notFound => "No such file or directory (os error 2)"
  | isDirectory => "Is a directory (os error 21)"
  | notDirectory => "Not a directory (os error 20)"
  | alreadyExists => "File exists (os error 17)"
  | notText => "stream did not contain valid UTF-8"
  | other reason => reason

/-- Why a compilation fails. -/
inductive CompileError where
  | unreadableWorkbook (reason : String)
  | unparsableFormula (cell : Address) (text : String) (fault : Formula.Fault)
  /-- The formulas of the chain reference one another in a circle. -/
  | cyclicDependency (chain : List Address)
  | unsupportedFunction (name : String) (cell : Address)
  /-- A division whose operands are both constants, the second one zero. -/
  | divisionByZero (cell : Address)
  | noValidName (raw : String)
  | unmappedIdentifier (raw : String)
  | invalidArguments (cell : Address) (fault : ArgumentFault)
  | invalidAddress (text : String)
  /-- An output that the workbook does not have. -/
  | noSuchCell (text : String)
  /-- A lookup by an index that is not a number falls outside the values it selects from. -/
  | strayIndex (cell : Address)
  | invalidOption (fault : OptionFault)
  | watch (reason : String)
  | file (fault : FileFault)
  | malformedDocument (reason : String)
deriving DecidableEq

namespace CompileError

/-- The failure in words. -/
def message : CompileError → String
  | unreadableWorkbook reason => "Unreadable workbook: " ++ reason
  | unparsableFormula cell text fault =>
    "Cannot parse formula in " ++ cell.text ++ ": '" ++ text ++ "' (" ++ fault.message ++ ")"
  | cyclicDependency chain => "Circular dependency detected: " ++ Address.chainText chain
  | unsupportedFunction name cell => "Unsupported function " ++ name ++ " in " ++ cell.text
  | divisionByZero cell => "Division by zero in " ++ cell.text ++ ": both operands are constants"
  | noValidName raw => "No valid name candidates for " ++ raw
  | unmappedIdentifier raw => "Identifier " ++ raw ++ " has no entry in the name mapping"
  | invalidArguments cell fault => "Invalid arguments in " ++ cell.text ++ ": " ++ fault.message
  | invalidAddress text => "Invalid cell address: " ++ text
  | noSuchCell text => "Invalid cell address: " ++ text ++ " (no such cell in the workbook)"
  | strayIndex cell => "Evaluation error in " ++ cell.text ++ ": index is not a number"
  | invalidOption fault => "Invalid option: " ++ fault.message
  | watch reason => "Watch error: " ++ reason
  | file fault => "IO error: " ++ fault.message
  | malformedDocument reason => "YAML error: " ++ reason

end CompileError

end SheetCompiler
