import SheetCompiler.Proofs.Code.Execution
import SheetCompiler.Proofs.Lowering.Fragment

/-!
# Generated expressions and the values they compute

A generated expression computes a value of the spreadsheet if running it gives a literal of its
static type that stands for the value, or raises the error that the value is. Each operator and each
function of the numeric fragment is generated so that the expression computes what the spreadsheet's
operator or function gives for the values of the operands.
-/

namespace SheetCompiler.Lowering

open Code (ValueType Store Outcome Halt raise)
open Evaluation (fromCoerced)
open Formula (Function)

/-- An outcome of the given type stands for a value. -/
inductive Represents (type : ValueType) : Outcome → Value → Prop
  | value (l : Literal) : .ofLiteral l = type → Represents type (.ok l) (.ofLiteral l)
  | error (e : ErrorValue) : Represents type (.error (.raised e)) (.error e)

/-- Running a typed expression gives a value. If lowering takes the expression for a constant, the
constant is that value. -/
structure Computes (store : Store) (t : Typed) (v : Value) : Prop where
  represents : Represents t.type (t.expr.run store) v
  constant : ∀ {d : Float}, t.expr.constant? = some d → v = .number d

/-- A number or an error. -/
inductive IsNumeric : Value → Prop
  | number (x : Float) : IsNumeric (.number x)
  | error (e : ErrorValue) : IsNumeric (.error e)

section Numbers

theorem isNumeric_fromCoerced {α : Type} {c : Coerced α} {f : α → Value}
    (h : ∀ a, IsNumeric (f a)) : IsNumeric (fromCoerced c f) := by
  cases c with
  | ok a => exact h a
  | error e => exact .error e

theorem isNumeric_ite {p : Prop} [Decidable p] {v u : Value} (hv : IsNumeric v) (hu : IsNumeric u) :
    IsNumeric (if p then v else u) := by
  split
  · exact hv
  · exact hu

theorem isNumeric_divide (x y : Float) : IsNumeric (Evaluation.divide x y) :=
  isNumeric_ite (.error _) (.number _)

theorem isNumeric_numeric (f : Function) (x : Float) : IsNumeric (Evaluation.numeric f x) := by
  cases f
  case abs | int => exact .number _
  all_goals exact isNumeric_ite (.error _) (.number _)

theorem isNumeric_numericPair (f : Function) (x y : Float) :
    IsNumeric (Evaluation.numericPair f x y) := by
  cases f
  case power => exact isNumeric_ite (.number _) (.error _)
  case mod => exact isNumeric_ite (.error _) (.number _)
  all_goals exact .number _

theorem isNumeric_aggregate (f : Function) (xs : List Float) :
    IsNumeric (Evaluation.aggregate f xs) := by
  cases f
  case average => exact isNumeric_ite (.error _) (.number _)
  case sum | min | max => exact .number _
  all_goals exact isNumeric_ite (.number _) (.number _)

/-- Between numbers and errors an arithmetic operator is its function of two numbers, the error of
the left operand first. -/
theorem binary_eq_arithmetic {op : Formula.BinaryOp} (h : op ∈ [.add, .sub, .mul, .div, .pow])
    {v u : Value} (hv : IsNumeric v) (hu : IsNumeric u) :
    Evaluation.binary op v u =
      fromCoerced v.toNumber fun x => fromCoerced u.toNumber (Evaluation.arithmetic op x) := by
  have plain : op ≠ .concat ∧ op.isComparison = false := by
    simp only [List.mem_cons, List.not_mem_nil, or_false] at h
    rcases h with rfl | rfl | rfl | rfl | rfl <;> exact ⟨by decide, rfl⟩
  cases hv with
  | error e => rfl
  | number x =>
      cases hu with
      | error e => rfl
      | number y =>
          simp only [Evaluation.binary, if_neg plain.1, plain.2]
          rfl

end Numbers

variable {store : Store} {t s : Typed} {e left right : Code.Expr} {v u : Value}

theorem Computes.cases (h : Computes store t v) :
    (∃ l, t.expr.run store = .ok l ∧ .ofLiteral l = t.type ∧ v = .ofLiteral l) ∨
      ∃ error, t.expr.run store = .error (.raised error) ∧ v = .error error := by
  have represents := h.represents
  generalize t.expr.run store = outcome at represents ⊢
  cases represents with
  | value l type => exact .inl ⟨l, rfl, type, rfl⟩
  | error error => exact .inr ⟨error, rfl, rfl⟩

theorem Computes.integer_cases (h : Computes store ⟨e, .integer⟩ v) :
    (∃ i, e.run store = .ok (.integer i) ∧ v = .number (.ofInt i.toInt)) ∨
      ∃ error, e.run store = .error (.raised error) ∧ v = .error error := by
  refine h.cases.imp_left fun ⟨l, run, type, value⟩ => ?_
  cases l with
  | integer i => exact ⟨i, run, value⟩
  | number | text | boolean => cases type

theorem Computes.number_cases (h : Computes store (.number e) v) :
    (∃ x, e.run store = .ok (.number x) ∧ v = .number x) ∨
      ∃ error, e.run store = .error (.raised error) ∧ v = .error error := by
  refine h.cases.imp_left fun ⟨l, run, type, value⟩ => ?_
  cases l with
  | number x => exact ⟨x, run, value⟩
  | integer | text | boolean => cases type

theorem Computes.isNumeric (h : Computes store (.number e) v) : IsNumeric v := by
  obtain ⟨x, -, rfl⟩ | ⟨error, -, rfl⟩ := h.number_cases
  · exact .number x
  · exact .error error

/-- An expression that is not taken for a constant computes a number when its outcome stands for
it. -/
theorem computes_number (represents : Represents .number (e.run store) v)
    (computed : e.constant? = none) : Computes store (.number e) v := by
  refine ⟨represents, fun {d} constant => ?_⟩
  cases computed.symm.trans constant

section Conversions

theorem Computes.cast (h : Computes store ⟨e, .integer⟩ v) :
    Computes store (.number (.cast .number e)) v := by
  refine ⟨?_, h.constant⟩
  simp only [Typed.number, Code.Expr.run]
  obtain ⟨i, run, rfl⟩ | ⟨error, run, rfl⟩ := h.integer_cases
  · rw [run]
    exact .value (.number (.ofInt i.toInt)) rfl
  · rw [run]
    exact .error error

/-- Conversion to a number keeps what is computed. -/
theorem Computes.toNumber (h : Computes store t v) (numeric : t.type.isNumeric) :
    Computes store (.number t.toNumber) v := by
  obtain ⟨expr, type⟩ := t
  cases type with
  | number => exact h
  | text | boolean => cases numeric
  | integer =>
      cases expr with
      | literal l =>
          obtain ⟨i, run, rfl⟩ | ⟨error, run, rfl⟩ := h.integer_cases
          · cases run
            exact ⟨.value (.number (.ofInt i.toInt)) rfl, fun constant => h.constant constant⟩
          · cases run
      | null | ident | cast | unary | binary | conditional | call | array | lambda => exact h.cast

/-- So does conversion to the common type of numbers. -/
theorem Computes.convert (h : Computes store t v) (numeric : t.type.isNumeric) {type : ValueType}
    (common : type = t.type ∨ type = .number) : Computes store ⟨t.convert type, type⟩ v := by
  by_cases same : t.type = type
  · subst same
    rw [show t.convert t.type = t.expr from if_pos rfl]
    exact h
  · have number := common.resolve_left fun equal => same equal.symm
    subst number
    show Computes store ⟨if t.type = .number then t.expr else t.toNumber, .number⟩ v
    rw [if_neg same]
    exact h.toNumber numeric

end Conversions

section Operators

theorem Computes.negate (h : Computes store (.number e) v) :
    Computes store (.number (.unary .negate e)) (Evaluation.unary .neg v) := by
  constructor
  · simp only [Typed.number, Code.Expr.run]
    obtain ⟨x, run, rfl⟩ | ⟨error, run, rfl⟩ := h.number_cases
    · rw [run]
      exact .value (.number (-x)) rfl
    · rw [run]
      exact .error error
  · intro d constant
    obtain ⟨x, found, rfl⟩ := Option.map_eq_some_iff.mp constant
    rw [h.constant found]
    rfl

/-- An operator between numbers that cannot raise an error. -/
theorem Computes.binary (hl : Computes store (.number left) v)
    (hr : Computes store (.number right) u) (op : Code.BinaryOp) {f : Float → Float → Float}
    (apply : ∀ x y, op.apply (.number x) (.number y) = .ok (.number (f x y))) :
    Computes store (.number (.binary op left right))
      (fromCoerced v.toNumber fun x => fromCoerced u.toNumber fun y => .number (f x y)) := by
  refine computes_number ?_ rfl
  simp only [Code.Expr.run]
  obtain ⟨x, run, rfl⟩ | ⟨error, run, rfl⟩ := hl.number_cases
  · obtain ⟨y, run', rfl⟩ | ⟨error, run', rfl⟩ := hr.number_cases
    · rw [run, run']
      show Represents .number (op.apply (.number x) (.number y)) _
      rw [apply]
      exact .value (.number (f x y)) rfl
    · rw [run, run']
      exact .error error
  · rw [run]
    exact .error error

theorem Computes.percent (h : Computes store (.number e) v) :
    Computes store (.number (.binary .div e (.literal (.number 100.0))))
      (Evaluation.unary .percent v) := by
  have hundred : Computes store (.number (.literal (.number 100.0))) (.number 100.0) :=
    ⟨.value (.number 100.0) rfl, fun constant => congrArg Value.number (Option.some.inj constant)⟩
  exact h.binary hundred .div fun x y => rfl

end Operators

section Calls

/-- The arguments of a generated call beside the items of the spreadsheet's: what is taken is
computed by an argument, what is passed over comes from a range and is neither a number nor an
error. -/
inductive Counts (store : Store) : List Code.Expr → List Evaluation.Item → Prop
  | nil : Counts store [] []
  | taken {e : Code.Expr} {v : Value} {es : List Code.Expr} {items : List Evaluation.Item}
      (fromRange : Bool) : Computes store (.number e) v → Counts store es items →
      Counts store (e :: es) (⟨v, fromRange⟩ :: items)
  | passed {v : Value} {es : List Code.Expr} {items : List Evaluation.Item} : ¬ IsNumeric v →
      Counts store es items → Counts store es (⟨v, true⟩ :: items)

variable {es es' : List Code.Expr} {items items' : List Evaluation.Item}

theorem Counts.append (h : Counts store es items) (h' : Counts store es' items') :
    Counts store (es ++ es') (items ++ items') := by
  induction h with
  | nil => exact h'
  | taken fromRange first _ ih => exact .taken fromRange first ih
  | passed other _ ih => exact .passed other ih

/-- A delayed expression computes nothing by itself. -/
theorem Computes.runArguments (h : Computes store (.number e) v) (es : List Code.Expr) :
    Code.runArguments store (e :: es) = ⟨false, e.run store⟩ :: Code.runArguments store es := by
  cases e with
  | lambda body =>
      obtain ⟨x, run, -⟩ | ⟨error, run, -⟩ := h.number_cases
      · cases run
      · cases run
  | literal | null | ident | cast | unary | binary | conditional | call | array => rfl

/-- The arguments give the numbers that the spreadsheet finds among its items, or raise the error
that it finds first. -/
theorem Counts.numbersOf_eq (h : Counts store es items) :
    Code.numbersOf (Code.runArguments store es) = raise (Evaluation.numbers items) := by
  induction h with
  | nil => rfl
  | @taken e v es items fromRange first _ ih =>
      rw [first.runArguments, Code.numbersOf, ih]
      obtain ⟨x, run, rfl⟩ | ⟨error, run, rfl⟩ := first.number_cases
      · rw [run, Evaluation.numbers]
        cases Evaluation.numbers items <;> rfl
      · rw [run, Evaluation.numbers]
        rfl
  | @passed v es items other _ ih =>
      rw [ih]
      cases v with
      | number x => exact absurd (.number x) other
      | error error => exact absurd (.error error) other
      | text | boolean | blank => rfl

/-- A function of numbers has the value `v`, or its arguments have the error `v`. -/
def Applied (f : List Float → Option Value) (xs : Coerced (List Float)) (v : Value) : Prop :=
  match xs with
  | .ok xs => f xs = some v
  | .error e => v = .error e

/-- A call computes what the spreadsheet's function gives. -/
theorem Counts.call (h : Counts store es items) {target : String} {f : List Float → Option Value}
    (found : Code.numericTargets.lookup target = some f)
    (applied : Applied f (Evaluation.numbers items) v) (numeric : IsNumeric v) :
    Computes store (.number (.call target es)) v := by
  refine computes_number ?_ rfl
  have other : target ≠ Code.supportName "IfError" := by
    rintro rfl
    cases found
  simp only [Code.Expr.run, Code.callOutcome, if_neg other, found, h.numbersOf_eq]
  cases numbers : Evaluation.numbers items with
  | error error =>
      rw [numbers] at applied
      rw [show v = .error error from applied]
      exact .error error
  | ok xs =>
      rw [numbers] at applied
      simp only [raise, bind, Except.bind, show f xs = some v from applied]
      cases numeric with
      | number x => exact .value (.number x) rfl
      | error error => exact .error error

theorem Computes.one (h : Computes store (.number e) v) {target : String} {f : Float → Value}
    (found : Code.numericTargets.lookup target = some (Code.ofOne f))
    (numeric : ∀ x, IsNumeric (f x)) :
    Computes store (.number (.call target [e])) (fromCoerced v.toNumber f) := by
  refine Counts.call (.taken false h .nil) found ?_ (isNumeric_fromCoerced numeric)
  cases h.isNumeric with
  | number x => rfl
  | error error => rfl

theorem Computes.two (hl : Computes store (.number left) v) (hr : Computes store (.number right) u)
    {target : String} {f : Float → Float → Value}
    (found : Code.numericTargets.lookup target = some (Code.ofTwo f))
    (numeric : ∀ x y, IsNumeric (f x y)) :
    Computes store (.number (.call target [left, right]))
      (fromCoerced v.toNumber fun x => fromCoerced u.toNumber (f x)) := by
  refine Counts.call (.taken false hl (.taken false hr .nil)) found ?_
    (isNumeric_fromCoerced fun x => isNumeric_fromCoerced (numeric x))
  cases hl.isNumeric with
  | error error => rfl
  | number x =>
      cases hr.isNumeric with
      | error error => rfl
      | number y => rfl

/-- A division is left unchecked only if the divisor is a constant other than zero. -/
theorem division_cases {cell : Address} (h : division cell left right = .ok e) :
    e = .support "Divide" [left, right] ∨
      ∃ d, right.constant? = some d ∧ (d == 0.0) = false ∧ e = .binary .div left right := by
  have divided (d : Float) : division.divided left right d = .support "Divide" [left, right] ∨
      (d == 0.0) = false ∧ division.divided left right d = .binary .div left right := by
    rw [division.divided, bne]
    cases d == 0.0 with
    | true => exact .inl rfl
    | false => exact .inr ⟨rfl, rfl⟩
  rw [division] at h
  split at h
  case h_1 d _ constant =>
    split at h
    case isTrue => cases h
    case isFalse =>
      cases h
      exact (divided d).imp_right fun unchecked => ⟨d, constant, unchecked⟩
  case h_2 d _ constant =>
    cases h
    exact (divided d).imp_right fun unchecked => ⟨d, constant, unchecked⟩
  case h_3 =>
    cases h
    exact .inl rfl

/-- A division fails only if a constant is divided by the constant zero. -/
theorem division_eq_error_iff {cell : Address} {err : CompileError} :
    division cell left right = .error err ↔
      err = .divisionByZero cell ∧ left.constant?.isSome ∧
        ∃ d, right.constant? = some d ∧ d == 0.0 := by
  rw [division]
  cases left.constant? with
  | none => cases right.constant? <;> simp
  | some x =>
      cases right.constant? with
      | none => simp
      | some d =>
          simp only [Option.isSome_some, Option.some.injEq, exists_eq_left', true_and]
          split
          case isTrue zero => rw [Except.error.injEq, eq_comm, and_iff_left zero]
          case isFalse nonzero => simp [nonzero]

theorem Computes.divide (hl : Computes store (.number left) v)
    (hr : Computes store (.number right) u) {cell : Address}
    (h : division cell left right = .ok e) :
    Computes store (.number e)
      (fromCoerced v.toNumber fun x => fromCoerced u.toNumber (Evaluation.divide x)) := by
  obtain rfl | ⟨d, constant, nonzero, rfl⟩ := division_cases h
  · exact hl.two hr rfl isNumeric_divide
  · have value := hr.constant constant
    subst value
    have exact (x : Float) : Evaluation.divide x d = .number (x / d) := by
      rw [Evaluation.divide, nonzero]
      rfl
    have unchecked := hl.binary hr .div (f := (· / ·)) fun x y => rfl
    rw [show (fun x => fromCoerced (Value.number d).toNumber (Evaluation.divide x)) =
      fun x => .number (x / d) from funext exact]
    exact unchecked

/-- The spreadsheet's choice between a value and what replaces an error. -/
def orElse (v u : Value) : Value :=
  match v with
  | .error _ => u
  | v => v

theorem Computes.ifError (ht : Computes store t v) (hs : Computes store s u)
    (numeric : t.type.isNumeric) (numeric' : s.type.isNumeric) :
    Computes store ⟨.support "IfError" [.lambda (t.convert (t.type.unify s.type)),
      .lambda (s.convert (t.type.unify s.type))], t.type.unify s.type⟩ (orElse v u) := by
  obtain ⟨first, second⟩ := ValueType.unify_eq numeric numeric'
  have attempt := (ht.convert numeric first).cases
  have otherwise := (hs.convert numeric' second).represents
  refine ⟨?_, fun constant => nomatch constant⟩
  show Represents _
    (Code.ifError [⟨true, (t.convert _).run store⟩, ⟨true, (s.convert _).run store⟩]) _
  obtain ⟨l, run, type, rfl⟩ | ⟨error, run, rfl⟩ := attempt
  · simp only at run
    rw [run]
    cases l <;> exact .value _ type
  · simp only at run
    rw [run]
    exact otherwise

end Calls

end SheetCompiler.Lowering
