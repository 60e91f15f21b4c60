import SheetCompiler.Lowering.Scope

/-!
# Lowering operators and calls

Each operator and built-in function in terms of C# operators and support functions. Arguments come
with the result of lowering them on their own, which a function that reads ranges does not look at.
-/

namespace SheetCompiler.Lowering

open Code (ValueType)
open Formula (Function)

/-- The code of a comparison. -/
def comparisonOp : Formula.BinaryOp → Code.BinaryOp
  | .eq => .eq
  | .ne => .ne
  | .lt => .lt
  | .le => .le
  | .gt => .gt
  | _ => .ge

/-- An operator on one operand. -/
def unary (op : Formula.UnaryOp) (operand : Typed) : Typed :=
  match op with
  | .plus => operand
  | .neg =>
    if operand.type = .integer then ⟨.unary .negate operand.expr, .integer⟩
    else .number (.unary .negate operand.toNumber)
  | .percent => .number (.binary .div operand.toNumber (.literal (.number 100.0)))

/-- A comparison. Numbers are compared directly, all else through a support function. -/
def comparison (op : Formula.BinaryOp) (left right : Typed) : Typed :=
  if left.type.isNumeric && right.type.isNumeric then
    .boolean (.binary (comparisonOp op) left.expr right.expr)
  else
    .boolean (.binary (comparisonOp op) (.support "Compare" [left.expr, right.expr])
      (.literal (.integer 0)))

/-- A division in the formula of `cell`. A constant divisor is checked at once, any other when it is
known. -/
def division (cell : Address) (left right : Code.Expr) : Except CompileError Code.Expr :=
  match left.constant?, right.constant? with
  | some _, some d => if d == 0.0 then .error (.divisionByZero cell) else .ok (divided d)
  | none, some d => .ok (divided d)
  | _, none => .ok checked
where
  checked := .support "Divide" [left, right]
  divided (d : Float) := if d != 0.0 then .binary .div left right else checked

/-- An operator between two operands in the formula of `cell`. -/
def binary (cell : Address) (op : Formula.BinaryOp) (left right : Typed) :
    Except CompileError Typed :=
  match op with
  | .concat => .ok (.text (.binary .add left.toText right.toText))
  | .add => .ok (.number (.binary .add left.toNumber right.toNumber))
  | .sub => .ok (.number (.binary .sub left.toNumber right.toNumber))
  | .mul => .ok (.number (.binary .mul left.toNumber right.toNumber))
  | .div => (division cell left.toNumber right.toNumber).map .number
  | .pow => .ok (.number (.support "Power" [left.toNumber, right.toNumber]))
  | op => .ok (comparison op left right)

/-- An argument of a call: the expression as written, and the outcome of lowering it. -/
structure Argument where
  expr : Formula.Expr
  typed : Except CompileError Typed

/-- The typed items of arguments in sequence. Cells of ranges are kept apart from other arguments;
cells that do not exist are left out. -/
inductive Item where
  | fromRange (t : Typed)
  | direct (t : Typed)

/-- The item as a number; a cell of a range counts only if its type is numeric. -/
def Item.number? : Item → Option Code.Expr
  | .fromRange t => if t.type.isNumeric then some t.toNumber else none
  | .direct t => some t.toNumber

/-- The item as a truth value; a text in a range is passed over. -/
def Item.boolean? : Item → Option Code.Expr
  | .fromRange t => if t.type ≠ .text then some t.toBoolean else none
  | .direct t => some t.toBoolean

/-- The item counts as a number whatever its value. -/
def Item.isCounted : Item → Bool
  | .fromRange t => t.type.isNumeric
  | .direct t => t.type ≠ .text

/-- What counts only when its value is known: a text given directly. -/
def Item.countCheck? : Item → Option Code.Expr
  | .fromRange _ => none
  | .direct t => if t.type = .text then some (.support "CountNumeric" [t.expr]) else none

/-- The number of items that count. -/
def count (items : List Item) : Typed :=
  let known := Code.Expr.literal (.integer (.ofNat (items.countP Item.isCounted)))
  ⟨(items.filterMap Item.countCheck?).foldl (fun sum check => .binary .add sum check) known,
    .integer⟩

/-- A conditional whose branches are converted to a common type. -/
def conditional (test yes no : Typed) : Typed :=
  let type := yes.type.unify no.type
  ⟨.conditional test.toBoolean (yes.convert type) (no.convert type), type⟩

/-- The texts of expressions joined from the left. -/
def joinTexts : List Code.Expr → Code.Expr
  | [] => .literal (.text "")
  | first :: rest => rest.foldl (fun sofar part => .binary .add sofar part) first

/-- An optional argument converted by `f`. -/
def optional (arg : Option Argument) (absent : Literal) (f : Typed → Code.Expr) :
    Except CompileError Code.Expr :=
  match arg with
  | none => .ok (.literal absent)
  | some arg => arg.typed.map f

/-- A value found in a table, converted from an object. -/
def fromObject (type : ValueType) (e : Code.Expr) : Code.Expr :=
  match type with
  | .text => .support "ToText" [e]
  | .boolean => .support "ToBool" [e]
  | .integer | .number => .support "ToNumber" [e]

section Calls

variable (scope : Scope) (types : Types) (cell : Address)

/-- The items of one argument. -/
def itemsOf (arg : Argument) : Except CompileError (List Item) :=
  match arg.expr with
  | .range first last => do
    return (← scope.rectangle types cell first last).filterMap fun c => c.map .fromRange
  | _ => do return [.direct (← arg.typed)]

/-- The items of all arguments. -/
def items (args : List Argument) : Except CompileError (List Item) := do
  return (← args.mapM (itemsOf scope types cell)).flatten

/-- The rectangle that an argument of a lookup function names. -/
def block (arg : Argument) : Except CompileError Block :=
  match arg.expr.corners? with
  | none => .error (.invalidArguments cell .rangeNeeded)
  | some (first, last) => do
    return ⟨← scope.rectangle types cell first last, Address.width first last⟩

/-- A support function of a sequence of numbers. -/
def aggregate (helper : String) (args : List Argument) : Except CompileError Typed := do
  return .number (.support helper ((← items scope types cell args).filterMap Item.number?))

/-- A support function of a sequence of truth values. -/
def logical (helper : String) (args : List Argument) : Except CompileError Typed := do
  return .boolean (.support helper ((← items scope types cell args).filterMap Item.boolean?))

end Calls

/-- A function of one number. -/
def numeric (target : String) (arg : Argument) : Except CompileError Typed := do
  return .number (.call target [(← arg.typed).toNumber])

/-- A support function of two numbers. -/
def numericPair (helper : String) (left right : Argument) : Except CompileError Typed := do
  let left' := (← left.typed).toNumber
  return .number (.support helper [left', (← right.typed).toNumber])

/-- A support function from text to text. -/
def textual (helper : String) (arg : Argument) : Except CompileError Typed := do
  return .text (.support helper [(← arg.typed).toText])

/-- A call in the formula of `cell`. `fault` reports a number of arguments that the function does
not take. -/
def call (scope : Scope) (types : Types) (cell : Address) (fault : CompileError) (f : Function)
    (args : List Argument) : Except CompileError Typed :=
  match f, args with
  | .sum, args => aggregate scope types cell "Sum" args
  | .average, args => aggregate scope types cell "Average" args
  | .min, args => aggregate scope types cell "Min" args
  | .max, args => aggregate scope types cell "Max" args
  | .product, args => aggregate scope types cell "Product" args
  | .npv, rate :: payments => do
    let rate' := (← rate.typed).toNumber
    return .number (.support "Npv"
      (rate' :: (← items scope types cell payments).filterMap Item.number?))
  | .count, args => do
    return count (← items scope types cell args)
  | .and, args => logical scope types cell "And" args
  | .or, args => logical scope types cell "Or" args
  | .not, [arg] => do
    return .boolean (.unary .not (← arg.typed).toBoolean)
  | .if, [test, yes] => do
    let test' ← test.typed
    return conditional test' (← yes.typed) (.literal (.boolean false))
  | .if, [test, yes, no] => do
    let test' ← test.typed
    let yes' ← yes.typed
    return conditional test' yes' (← no.typed)
  | .ifError, [attempt, otherwise] => do
    let attempt' ← attempt.typed
    let otherwise' ← otherwise.typed
    let type := attempt'.type.unify otherwise'.type
    return ⟨.support "IfError"
      [.lambda (attempt'.convert type), .lambda (otherwise'.convert type)], type⟩
  | .choose, index :: options => do
    let index' := (← index.typed).toNumber
    let options' ← options.mapM Argument.typed
    let type := ValueType.unifyAll (options'.map Typed.type)
    return ⟨.support "Choose" (index' :: options'.map fun o => .lambda (o.convert type)), type⟩
  | .abs, [arg] => numeric "Math.Abs" arg
  | .int, [arg] => numeric "Math.Floor" arg
  | .sqrt, [arg] => numeric (Code.supportName "Sqrt") arg
  | .power, [left, right] => numericPair "Power" left right
  | .mod, [left, right] => numericPair "Mod" left right
  | .round, [left, right] => numericPair "Round" left right
  | .roundUp, [left, right] => numericPair "RoundUp" left right
  | .roundDown, [left, right] => numericPair "RoundDown" left right
  | .concatenate, args => do
    return .text (joinTexts (← args.mapM fun arg => arg.typed.map Typed.toText))
  | .len, [arg] => do
    return ⟨.support "Len" [(← arg.typed).toText], .integer⟩
  | .upper, [arg] => textual "Upper" arg
  | .lower, [arg] => textual "Lower" arg
  | .trim, [arg] => textual "Trim" arg
  | .index, range :: row :: col => do
    let b ← block scope types cell range
    let type := b.elementType 0
    let col' ← optional col.head? (.number 0.0) Typed.toNumber
    let row' := (← row.typed).toNumber
    return ⟨.support "Index" [b.typed type, b.widthLiteral, row', col'], type⟩
  | .match, key :: range :: kind => do
    let key' ← key.typed
    let b ← block scope types cell range
    let kind' ← optional kind.head? (.number 1.0) Typed.toNumber
    return ⟨.support "Match" [key'.expr, b.objects, kind'], .integer⟩
  | .vlookup, key :: range :: col :: approximate => do
    let key' ← key.typed
    let b ← block scope types cell range
    let type := match b.elementType 1 with
      | .integer => .number
      | type => type
    let approximate' ← optional approximate.head? (.boolean true) Typed.toBoolean
    let col' := (← col.typed).toNumber
    return ⟨fromObject type (.support "VLookup"
      [key'.expr, b.objects, b.widthLiteral, col', approximate']), type⟩
  | _, _ => .error fault

end SheetCompiler.Lowering
