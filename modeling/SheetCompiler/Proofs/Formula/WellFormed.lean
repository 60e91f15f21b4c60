import SheetCompiler.Proofs.Lowering.Fragment

/-!
# Well-formed formulas

What can be wrong with a formula whatever its cells hold: a function that does not exist, a number
of arguments that the function does not take, a range in place of one value, or one value in place
of a range. Which arguments may be ranges and which must be is a matter of the function and the
position of the argument, said once in `Function.role`; both evaluation and lowering are measured
against it.
-/

namespace SheetCompiler.Formula

/-- What a function makes of an argument. -/
inductive Role where
  /-- It reads one value. -/
  | single
  /-- It reads one value, or all values of a range. -/
  | sequence
  /-- It reads the cells between two corners. -/
  | block
deriving DecidableEq

/-- What a function makes of the argument at a position, from zero. -/
def Function.role : Function → Nat → Role
  | .sum, _ | .average, _ | .min, _ | .max, _ | .product, _ | .count, _ | .and, _
  | .or, _ => .sequence
  | .npv, 0 => .single
  | .npv, _ => .sequence
  | .index, 0 | .match, 1 | .vlookup, 1 => .block
  | _, _ => .single

/-- The position of the argument whose number selects what the function gives. -/
def Function.selector? : Function → Option Nat
  | .choose => some 0
  | .vlookup => some 2
  | _ => none

mutual

/-- Nothing is wrong with the expression as one value. -/
def Expr.wellFormed : Expr → Bool
  | .literal _ | .cell _ => true
  | .range .. => false
  | .unary _ operand => operand.wellFormed
  | .binary _ left right => left.wellFormed && right.wellFormed
  | .call name args =>
    match Function.ofName? name with
    | none => false
    | some f => f.arity.admits args.length && argumentsFit f 0 args

/-- The arguments, the first of them at the given position, fit what the function makes of them. -/
def argumentsFit (f : Function) (position : Nat) : List Expr → Bool
  | [] => true
  | e :: rest =>
    (match f.role position with
      | .single => e.wellFormed
      | .sequence => e.isRange || e.wellFormed
      | .block => e.corners?.isSome) && argumentsFit f (position + 1) rest

end

mutual

/-- The expressions inside an expression whose numbers select among others. -/
def Expr.selectors : Expr → List Expr
  | .literal _ | .cell _ | .range .. => []
  | .unary _ operand => operand.selectors
  | .binary _ left right => left.selectors ++ right.selectors
  | .call name args =>
    (((Function.ofName? name).bind Function.selector?).bind (args[·]?)).toList ++ selectorsOf args

/-- The selecting expressions inside a list of expressions. -/
def selectorsOf : List Expr → List Expr
  | [] => []
  | e :: rest => e.selectors ++ selectorsOf rest

end

end SheetCompiler.Formula
