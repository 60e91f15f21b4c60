import SheetCompiler.Code.ValueType
import SheetCompiler.Formula.Function
import SheetCompiler.Workbook

/-!
# The numeric fragment

Formulas that compute with numbers only, each with its static type. Computed numbers are floating
point numbers; an integer is only ever written down, passed on or replaced by another. A formula may
read every cell through a range, also one that is not there, but one by one only cells that are
there and hold numbers.
-/

namespace SheetCompiler

open Code (ValueType)

/-- The common type of two numeric types is one of them or a floating point number. -/
theorem Code.ValueType.unify_eq {a b : ValueType} (ha : a.isNumeric) (hb : b.isNumeric) :
    (a.unify b = a ∨ a.unify b = .number) ∧ (a.unify b = b ∨ a.unify b = .number) := by
  cases a <;> cases b <;> first | decide | contradiction

theorem Code.ValueType.isNumeric_unify {a b : ValueType} (ha : a.isNumeric) (hb : b.isNumeric) :
    (a.unify b).isNumeric := by
  obtain same | number := (unify_eq ha hb).1
  · rw [same]
    exact ha
  · rw [number]
    rfl

namespace Formula

/-- The expression is a range. -/
def Expr.isRange : Expr → Bool
  | .range .. => true
  | _ => false

/-- An expression of the numeric fragment and its static type. A call with a number of arguments
that the function does not take belongs to no fragment. -/
inductive Expr.Numeric (w : Workbook) : Expr → ValueType → Prop
  | integer (i : Int64) : Numeric w (.literal (.integer i)) .integer
  | number (x : Float) : Numeric w (.literal (.number x)) .number
  | value {a : Address} {l : Literal} : w.literal? a = some l → (ValueType.ofLiteral l).isNumeric →
      Numeric w (.cell a) (.ofLiteral l)
  | formula {a : Address} {e : Expr} {type : ValueType} : w.formula? a = some e → Numeric w e type →
      Numeric w (.cell a) type
  | plus {e : Expr} {type : ValueType} : Numeric w e type → Numeric w (.unary .plus e) type
  /-- The negative of an integer is left out: an integer has no negative zero. -/
  | negative {e : Expr} : Numeric w e .number → Numeric w (.unary .neg e) .number
  | percent {e : Expr} {type : ValueType} : Numeric w e type → Numeric w (.unary .percent e) .number
  | arithmetic {op : BinaryOp} {left right : Expr} {l r : ValueType} :
      op ∈ [.add, .sub, .mul, .div, .pow] → Numeric w left l → Numeric w right r →
      Numeric w (.binary op left right) .number
  | one {name : String} {f : Function} {arg : Expr} {type : ValueType} :
      Function.ofName? name = some f → f ∈ [.abs, .int, .sqrt] → Numeric w arg type →
      Numeric w (.call name [arg]) .number
  | two {name : String} {f : Function} {left right : Expr} {l r : ValueType} :
      Function.ofName? name = some f → f ∈ [.power, .mod, .round, .roundUp, .roundDown] →
      Numeric w left l → Numeric w right r → Numeric w (.call name [left, right]) .number
  | ifError {name : String} {attempt otherwise : Expr} {first second : ValueType} :
      Function.ofName? name = some .ifError → Numeric w attempt first → Numeric w otherwise second →
      Numeric w (.call name [attempt, otherwise]) (first.unify second)
  /-- The arguments are ranges or numbers, of whatever type. -/
  | sequence {name : String} {f : Function} {args : List Expr} (type : Expr → ValueType) :
      Function.ofName? name = some f → f ∈ [.sum, .average, .min, .max, .product, .npv] →
      (∀ arg ∈ args, arg.isRange = false → Numeric w arg (type arg)) →
      Numeric w (.call name args) .number

/-- The type of an expression of numbers is numeric. -/
theorem Expr.Numeric.isNumeric {w : Workbook} {e : Expr} {type : ValueType} (h : e.Numeric w type) :
    type.isNumeric := by
  induction h with
  | integer | number | negative | percent | arithmetic | one | two | sequence => rfl
  | value _ numeric => exact numeric
  | formula _ _ ih => exact ih
  | plus _ ih => exact ih
  | ifError _ _ _ first second => exact ValueType.isNumeric_unify first second

end Formula

/-- All formulas of the workbook belong to the numeric fragment. -/
def Workbook.Numeric (w : Workbook) : Prop :=
  ∀ a e, w.formula? a = some e → ∃ type, e.Numeric w type

end SheetCompiler
