import SheetCompiler.Evaluation.Arithmetic
import SheetCompiler.Formula.Expr

/-!
# Operators on cell values

An operator whose operand is an error value gives that error value, the left one first.
-/

namespace SheetCompiler.Evaluation

open Formula (BinaryOp UnaryOp)

/-- A value computed from a coerced one; an error stays what it is. -/
def fromCoerced {α : Type} (c : Coerced α) (f : α → Value) : Value :=
  match c with
  | .ok a => f a
  | .error e => .error e

/-- The value of an operator on one operand. -/
def unary (op : UnaryOp) (v : Value) : Value :=
  match op with
  | .plus => v
  | .neg => fromCoerced v.toNumber fun x => .number (-x)
  | .percent => fromCoerced v.toNumber fun x => .number (x / 100.0)

/-- The outcome of a comparison. -/
def compares (op : BinaryOp) (order : Ordering) : Bool :=
  match op with
  | .eq => order == .eq
  | .ne => order != .eq
  | .lt => order == .lt
  | .le => order != .gt
  | .gt => order == .gt
  | _ => order != .lt

/-- The value of an arithmetic operator. -/
def arithmetic (op : BinaryOp) (x y : Float) : Value :=
  match op with
  | .add => .number (x + y)
  | .sub => .number (x - y)
  | .mul => .number (x * y)
  | .div => divide x y
  | _ => power x y

/-- The value of an operator between two operands. -/
def binary (op : BinaryOp) (left right : Value) : Value :=
  match left, right with
  | .error e, _ => .error e
  | _, .error e => .error e
  | left, right =>
    if op = .concat then
      .text (left.display ++ right.display)
    else if op.isComparison then
      .boolean (compares op (left.compare right))
    else
      fromCoerced left.toNumber fun x => fromCoerced right.toNumber fun y => arithmetic op x y

end SheetCompiler.Evaluation
