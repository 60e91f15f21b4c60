import SheetCompiler.Ascending
import SheetCompiler.Code.Support
import SheetCompiler.Code.ValueType
import SheetCompiler.CompileError

/-!
# Generated expressions

The tree of a generated C# expression. Its identifiers are raw cell names until they are renamed,
and only a tree whose identifiers have all been renamed is written to text.
-/

namespace SheetCompiler.Code

/-- An operator on one operand. -/
inductive UnaryOp where
  | negate
  | not
  /-- An operator that no formula needs, by its sign. -/
  | other (text : String)
deriving DecidableEq

/-- The C# sign of an operator on one operand. -/
def UnaryOp.sign : UnaryOp → String
  | negate => "-"
  | not => "!"
  | other text => text

/-- The operator on one operand with a sign. -/
def UnaryOp.ofSign (sign : String) : UnaryOp :=
  ([negate, not].find? (·.sign == sign)).getD (other sign)

/-- An operator between two operands. -/
inductive BinaryOp where
  | add | sub | mul | div | eq | ne | lt | le | gt | ge
  /-- An operator that no formula needs, by its sign. -/
  | other (text : String)
deriving DecidableEq

/-- The C# sign of an operator between two operands. -/
def BinaryOp.sign : BinaryOp → String
  | add => "+"
  | sub => "-"
  | mul => "*"
  | div => "/"
  | eq => "=="
  | ne => "!="
  | lt => "<"
  | le => "<="
  | gt => ">"
  | ge => ">="
  | other text => text

/-- The operator between two operands with a sign. -/
def BinaryOp.ofSign (sign : String) : BinaryOp :=
  ([add, sub, mul, div, eq, ne, lt, le, gt, ge].find? (·.sign == sign)).getD (other sign)

/-- The type of the items of an array. -/
inductive ElementType where
  | of (type : ValueType)
  | object
deriving DecidableEq

/-- The C# name of an element type. -/
def ElementType.codeName : ElementType → String
  | .of type => type.codeName
  | .object => "object"

/-- A generated expression. -/
inductive Expr where
  | literal (value : Literal)
  | null
  /-- A declared cell. -/
  | ident (name : String)
  | cast (type : ValueType) (operand : Expr)
  | unary (op : UnaryOp) (operand : Expr)
  | binary (op : BinaryOp) (left right : Expr)
  | conditional (test yes no : Expr)
  /-- A call of a static function. -/
  | call (target : String) (args : List Expr)
  | array (element : ElementType) (items : List Expr)
  /-- An expression that is evaluated when its value is asked for. -/
  | lambda (body : Expr)
deriving BEq, Inhabited

namespace Expr

/-- The call of a support function. -/
def support (helper : String) (args : List Expr) : Expr :=
  .call (supportName helper) args

/-- The number that an expression denotes by itself: a literal under signs and casts. -/
def constant? : Expr → Option Float
  | .literal (.integer i) => some (.ofInt i.toInt)
  | .literal (.number x) => some x
  | .literal (.boolean b) => some (if b then 1.0 else 0.0)
  | .unary .negate operand => operand.constant?.map fun x => -x
  | .cast _ operand => operand.constant?
  | _ => none

mutual

/-- The identifiers of an expression from left to right, as often as they occur. -/
def occurrences : Expr → List String
  | .literal _ | .null => []
  | .ident name => [name]
  | .cast _ operand | .unary _ operand | .lambda operand => operand.occurrences
  | .binary _ left right => left.occurrences ++ right.occurrences
  | .conditional test yes no => test.occurrences ++ yes.occurrences ++ no.occurrences
  | .call _ items | .array _ items => occurrencesOf items

/-- The identifiers of a list of expressions. -/
def occurrencesOf : List Expr → List String
  | [] => []
  | e :: rest => e.occurrences ++ occurrencesOf rest

end

/-- The identifiers of an expression, ascending, each once. -/
def identifiers (e : Expr) : List String :=
  distinct e.occurrences

mutual

/-- Evaluating the expression can raise a spreadsheet error: it calls a support function that can,
or reads a cell of `deferred`. -/
def mayRaise (deferred : List String) : Expr → Bool
  | .literal _ | .null => false
  | .ident name => deferred.contains name
  | .cast _ operand | .unary _ operand | .lambda operand => operand.mayRaise deferred
  | .binary _ left right => left.mayRaise deferred || right.mayRaise deferred
  | .conditional test yes no =>
    test.mayRaise deferred || yes.mayRaise deferred || no.mayRaise deferred
  | .call target args => isRaising target || anyMayRaise deferred args
  | .array _ items => anyMayRaise deferred items

/-- Evaluating one of the expressions can raise a spreadsheet error. -/
def anyMayRaise (deferred : List String) : List Expr → Bool
  | [] => false
  | e :: rest => e.mayRaise deferred || anyMayRaise deferred rest

end

mutual

/-- The expression with every identifier renamed. The first identifier without a new name, from left
to right, is reported. -/
def rename (names : String → Option String) : Expr → Except CompileError Expr
  | .literal value => .ok (.literal value)
  | .null => .ok .null
  | .ident name =>
    match names name with
    | some name' => .ok (.ident name')
    | none => .error (.unmappedIdentifier name)
  | .cast type operand => do return .cast type (← operand.rename names)
  | .unary op operand => do return .unary op (← operand.rename names)
  | .lambda body => do return .lambda (← body.rename names)
  | .binary op left right => do
    let left' ← left.rename names
    return .binary op left' (← right.rename names)
  | .conditional test yes no => do
    let test' ← test.rename names
    let yes' ← yes.rename names
    return .conditional test' yes' (← no.rename names)
  | .call target args => do return .call target (← renameAll names args)
  | .array element items => do return .array element (← renameAll names items)

/-- The expressions with every identifier renamed. -/
def renameAll (names : String → Option String) : List Expr → Except CompileError (List Expr)
  | [] => .ok []
  | e :: rest => do
    let e' ← e.rename names
    return e' :: (← renameAll names rest)

end

end Expr

end SheetCompiler.Code
