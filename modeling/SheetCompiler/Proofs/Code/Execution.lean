import SheetCompiler.Evaluation.Call
import SheetCompiler.Lowering.Basic

/-!
# Running generated statements

What generated statements compute, as far as they compute with numbers. An expression is run from
left to right and the first error raised is its outcome. A name gives what its statement left
behind: a value, or an error that was held back and is raised again whenever the name is read.

Integers and floating point numbers are kept apart, as the generated types keep them apart. A
support function is run as the spreadsheet's function of the same name. Whatever needs another kind
of value, and whatever does not fit together, is stuck.
-/

namespace SheetCompiler.Code

open Formula (Function)

/-- Why an expression has no value. -/
inductive Halt where
  /-- It raised a spreadsheet error. -/
  | raised (e : ErrorValue)
  /-- A name without a statement, or an operand that an operation does not take. -/
  | stuck

/-- What running an expression gives. -/
abbrev Outcome := Except Halt Literal

/-- What statements left behind under their raw names, errors included. -/
abbrev Store := OrderedMap String (Coerced Literal)

/-- Raises the error that is held in place of a value. -/
def raise {α : Type} : Coerced α → Except Halt α
  | .ok a => .ok a
  | .error e => .error (.raised e)

/-- The result of a support function, an error being raised. -/
def Outcome.ofValue : Value → Outcome
  | .number x => .ok (.number x)
  | .error e => .error (.raised e)
  | _ => .error .stuck

/-- A conversion. Only an integer is ever converted, to the nearest number. -/
def castTo : ValueType → Literal → Outcome
  | .number, .integer i => .ok (.number (.ofInt i.toInt))
  | _, _ => .error .stuck

/-- An operator on one operand. The negative of an integer is an integer again. -/
def UnaryOp.apply : UnaryOp → Literal → Outcome
  | .negate, .number x => .ok (.number (-x))
  | .negate, .integer i => .ok (.integer (-i))
  | _, _ => .error .stuck

/-- An operator between two floating point numbers. Division by zero gives an infinity or no number,
and raises nothing. -/
def BinaryOp.apply : BinaryOp → Literal → Literal → Outcome
  | .add, .number x, .number y => .ok (.number (x + y))
  | .sub, .number x, .number y => .ok (.number (x - y))
  | .mul, .number x, .number y => .ok (.number (x * y))
  | .div, .number x, .number y => .ok (.number (x / y))
  | _, _, _ => .error .stuck

/-- A function that takes one number. -/
def ofOne (f : Float → Value) : List Float → Option Value
  | [x] => some (f x)
  | _ => none

/-- A function that takes two numbers. -/
def ofTwo (f : Float → Float → Value) : List Float → Option Value
  | [x, y] => some (f x y)
  | _ => none

/-- A function that takes a number, and then as many as there are. -/
def ofFirst (f : Float → List Float → Value) : List Float → Option Value
  | [] => none
  | x :: xs => some (f x xs)

/-- The functions of numbers that generated code calls. -/
def numericTargets : List (String × (List Float → Option Value)) :=
  [("Math.Abs", ofOne (Evaluation.numeric .abs)),
    ("Math.Floor", ofOne (Evaluation.numeric .int)),
    (supportName "Sqrt", ofOne (Evaluation.numeric .sqrt)),
    (supportName "Divide", ofTwo Evaluation.divide),
    (supportName "Power", ofTwo (Evaluation.numericPair .power)),
    (supportName "Mod", ofTwo (Evaluation.numericPair .mod)),
    (supportName "Round", ofTwo (Evaluation.numericPair .round)),
    (supportName "RoundUp", ofTwo (Evaluation.numericPair .roundUp)),
    (supportName "RoundDown", ofTwo (Evaluation.numericPair .roundDown)),
    (supportName "Sum", fun xs => some (Evaluation.aggregate .sum xs)),
    (supportName "Average", fun xs => some (Evaluation.aggregate .average xs)),
    (supportName "Min", fun xs => some (Evaluation.aggregate .min xs)),
    (supportName "Max", fun xs => some (Evaluation.aggregate .max xs)),
    (supportName "Product", fun xs => some (Evaluation.aggregate .product xs)),
    (supportName "Npv", ofFirst fun rate xs => .number (Evaluation.netPresentValue rate xs))]

/-- An argument of a call, run: a lambda is run only if its value is asked for. -/
structure Argument where
  delayed : Bool
  outcome : Outcome

/-- The numbers that arguments give, from left to right. -/
def numbersOf : List Argument → Except Halt (List Float)
  | [] => .ok []
  | ⟨false, outcome⟩ :: rest => do
    match ← outcome with
    | .number x => return x :: (← numbersOf rest)
    | _ => .error .stuck
  | ⟨true, _⟩ :: _ => .error .stuck

/-- The first of two delayed values, or the second if the first raises an error. -/
def ifError : List Argument → Outcome
  | [⟨true, attempt⟩, ⟨true, otherwise⟩] =>
    match attempt with
    | .error (.raised _) => otherwise
    | outcome => outcome
  | _ => .error .stuck

/-- The outcome of a call. -/
def callOutcome (target : String) (args : List Argument) : Outcome :=
  if target = supportName "IfError" then ifError args
  else
    match numericTargets.lookup target with
    | none => .error .stuck
    | some f => do
      match f (← numbersOf args) with
      | some v => Outcome.ofValue v
      | none => .error .stuck

mutual

/-- Runs an expression after the statements whose results the store holds. -/
def Expr.run (store : Store) : Expr → Outcome
  | .literal l => .ok l
  | .ident name =>
    match store.get? name with
    | some held => raise held
    | none => .error .stuck
  | .cast type operand => do castTo type (← operand.run store)
  | .unary op operand => do op.apply (← operand.run store)
  | .binary op left right => do
    let x ← left.run store
    let y ← right.run store
    op.apply x y
  | .call target args => callOutcome target (runArguments store args)
  | .null | .conditional .. | .array .. | .lambda _ => .error .stuck

/-- Runs the arguments of a call. -/
def runArguments (store : Store) : List Expr → List Argument
  | [] => []
  | .lambda body :: rest => ⟨true, body.run store⟩ :: runArguments store rest
  | e :: rest => ⟨false, e.run store⟩ :: runArguments store rest

end

end SheetCompiler.Code

namespace SheetCompiler.Lowering

open Code (Store)

/-- Runs a statement: its value, which has to be of the declared type, or the error it raised is
left behind under its raw name. Nothing is left if the expression is stuck. -/
def Statement.run (store : Store) (s : Statement) : Option Store :=
  match s.expr.run store with
  | .ok l => if .ofLiteral l = s.type then some (store.insert s.raw (.ok l)) else none
  | .error (.raised e) => some (store.insert s.raw (.error e))
  | .error .stuck => none

/-- Runs statements one after the other. -/
def runAll (store : Store) : List Statement → Option Store
  | [] => some store
  | s :: rest => (s.run store).bind fun store' => runAll store' rest

/-- The spreadsheet's value that a result stands for. An integer stands for the nearest number. -/
def heldValue (held : Coerced Literal) : Value :=
  Evaluation.fromCoerced held .ofLiteral

end SheetCompiler.Lowering
