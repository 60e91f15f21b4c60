import SheetCompiler.Proofs.Decimal.Zero
import SheetCompiler.Proofs.Except
import SheetCompiler.Proofs.Lowering.Computes

/-!
# Code that fits a value

Code is quiet if it calls no support function that can raise an error and reads no name that is held
back. Quiet code stands for a value that is no error. If it is a constant, the value need not be the
same constant, but it is one wherever the constant is used: a divisor that is a constant other than
zero is not zero.
-/

namespace SheetCompiler.Lowering

open Code (ValueType)
open Evaluation (fromCoerced)

section Values

/-- The value is no error, and a text only if texts are expected. -/
def Conforms (type : ValueType) : Value → Prop
  | .error _ => False
  | .text _ => type = .text
  | .number _ | .boolean _ | .blank => True

variable {type other : ValueType} {v : Value}

theorem Conforms.ne_error (h : Conforms type v) (e : ErrorValue) : v ≠ .error e := by
  rintro rfl
  exact h

theorem conforms_literal (l : Literal) : Conforms (.ofLiteral l) (.ofLiteral l) := by
  cases l with
  | text s => rfl
  | integer | number | boolean => trivial

/-- A common type stands for the values of both types. -/
theorem Conforms.unify_left (h : Conforms type v) : Conforms (type.unify other) v := by
  cases v with
  | error e => exact h
  | text s =>
      rw [show type = .text from h]
      cases other <;> rfl
  | number | boolean | blank => trivial

theorem Conforms.unify_right (h : Conforms other v) : Conforms (type.unify other) v := by
  cases v with
  | error e => exact h
  | text s =>
      rw [show other = .text from h]
      cases type <;> rfl
  | number | boolean | blank => trivial

theorem Conforms.toNumber (h : Conforms type v) (noText : type ≠ .text) :
    ∃ x, v.toNumber = .ok x := by
  cases v with
  | error e => exact h.elim
  | text s => exact absurd h noText
  | number | boolean | blank => exact ⟨_, rfl⟩

theorem Conforms.toBoolean (h : Conforms type v) (noText : type ≠ .text) :
    ∃ b, v.toBoolean = .ok b := by
  cases v with
  | error e => exact h.elim
  | text s => exact absurd h noText
  | number | boolean | blank => exact ⟨_, rfl⟩

theorem Conforms.toText (h : Conforms type v) : v.toText = .ok v.display := by
  cases v with
  | error e => exact h.elim
  | text | number | boolean | blank => rfl

end Values

section Code

variable {held : List String}

/-- Quiet code calls no support function that can raise an error. -/
theorem notMem_raisingHelpers {helper : String} {args : List Code.Expr}
    (quiet : (Code.Expr.support helper args).mayRaise held = false) :
    helper ∉ Code.raisingHelpers := by
  intro raising
  have target : Code.isRaising (Code.supportName helper) :=
    List.any_eq_true.mpr ⟨helper, raising, beq_self_eq_true _⟩
  rw [Code.Expr.support, Code.Expr.mayRaise, target, Bool.true_or] at quiet
  cases quiet

theorem anyMayRaise_eq_false_iff {items : List Code.Expr} :
    Code.Expr.anyMayRaise held items = false ↔ ∀ e ∈ items, e.mayRaise held = false := by
  induction items with
  | nil => simp [Code.Expr.anyMayRaise]
  | cons e rest ih => simp [Code.Expr.anyMayRaise, ih]

theorem quiet_arguments {target : String} {args : List Code.Expr}
    (quiet : (Code.Expr.call target args).mayRaise held = false) :
    ∀ e ∈ args, e.mayRaise held = false := by
  rw [Code.Expr.mayRaise, Bool.or_eq_false_iff] at quiet
  exact anyMayRaise_eq_false_iff.mp quiet.2

/-- A value found in a table raises what the lookup raises. -/
theorem quiet_of_fromObject {type : ValueType} {e : Code.Expr}
    (quiet : (fromObject type e).mayRaise held = false) : e.mayRaise held = false := by
  cases type with
  | text | boolean | integer | number => exact quiet_arguments quiet e List.mem_cons_self

variable {t : Typed}

/-- Converting raises what the converted code raises. -/
theorem quiet_of_toNumber (quiet : t.toNumber.mayRaise held = false) :
    t.expr.mayRaise held = false := by
  obtain ⟨e, type⟩ := t
  simp only [Typed.toNumber] at quiet
  split at quiet
  case h_1 => exact quiet
  case h_2 | h_3 | h_4 => rfl
  case h_5 => exact quiet
  case h_6 => exact absurd (by simp [Code.raisingHelpers]) (notMem_raisingHelpers quiet)

theorem quiet_of_toText (quiet : t.toText.mayRaise held = false) :
    t.expr.mayRaise held = false := by
  obtain ⟨e, type⟩ := t
  simp only [Typed.toText] at quiet
  split at quiet
  case h_1 => exact quiet
  case h_2 | h_3 | h_4 => rfl
  case h_5 => exact quiet_arguments quiet e List.mem_cons_self

theorem quiet_of_toBoolean (quiet : t.toBoolean.mayRaise held = false) :
    t.expr.mayRaise held = false := by
  obtain ⟨e, type⟩ := t
  simp only [Typed.toBoolean] at quiet
  split at quiet
  case h_1 => exact quiet
  case h_2 | h_3 | h_4 => rfl
  case h_5 => exact absurd (by simp [Code.raisingHelpers]) (notMem_raisingHelpers quiet)

theorem quiet_of_convert {target : ValueType} (quiet : (t.convert target).mayRaise held = false) :
    t.expr.mayRaise held = false := by
  unfold Typed.convert at quiet
  split at quiet
  case isTrue => exact quiet
  case isFalse =>
    cases target with
    | integer | number => exact quiet_of_toNumber quiet
    | text => exact quiet_of_toText quiet
    | boolean => exact quiet_of_toBoolean quiet

end Code

section Fits

/-- A constant can stand for a number that is zero only if the constant is. -/
def KeepsZero (d x : Float) : Prop :=
  (x == 0.0) = true → (d == 0.0) = true

/-- A literal can stand for a value that is read as a number and as a truth value where the literal
is. -/
structure Stands (l : Literal) (v : Value) : Prop where
  number : ∀ d, (Value.ofLiteral l).toNumber = .ok d → ∃ x, v.toNumber = .ok x ∧ KeepsZero d x
  boolean : ∀ b, (Value.ofLiteral l).toBoolean = .ok b → ∃ b, v.toBoolean = .ok b

/-- A value that code can stand for without raising anything. -/
structure Fits (t : Typed) (v : Value) : Prop where
  conforms : Conforms t.type v
  literal : ∀ l, t.expr = .literal l → Stands l v
  constant : ∀ d, t.expr.constant? = some d → ∃ x, v.toNumber = .ok x ∧ KeepsZero d x
  /-- No text is a constant number. -/
  text : t.type = .text → t.expr.constant? = none

variable {held : List String} {t : Typed} {v : Value}

theorem stands_ofLiteral (l : Literal) : Stands l (.ofLiteral l) where
  number d number := ⟨d, number, id⟩
  boolean b boolean := ⟨b, boolean⟩

theorem KeepsZero.neg {d x : Float} (h : KeepsZero d x) : KeepsZero (-d) (-x) := by
  rw [KeepsZero, Decimal.neg_beq_zero, Decimal.neg_beq_zero]
  exact h

/-- The code is neither a literal nor made from one that is a number. -/
def isComputed : Code.Expr → Bool
  | .literal _ => false
  | e => e.constant?.isNone

theorem constant?_of_isComputed {e : Code.Expr} (computed : isComputed e) : e.constant? = none := by
  cases e with
  | literal l => cases computed
  | null | ident | cast | unary | binary | conditional | call | array | lambda =>
      exact Option.isNone_iff_eq_none.mp computed

/-- Code that is computed stands for any value of its type. -/
theorem fits_of_isComputed {e : Code.Expr} {type : ValueType} (h : Conforms type v)
    (computed : isComputed e) : Fits ⟨e, type⟩ v where
  conforms := h
  literal l same := by
    rw [show e = .literal l from same] at computed
    cases computed
  constant d some := by
    rw [show e.constant? = none from constant?_of_isComputed computed] at some
    cases some
  text _ := constant?_of_isComputed computed

theorem fits_literal (l : Literal) : Fits (.literal l) (.ofLiteral l) where
  conforms := conforms_literal l
  literal l' same := by
    cases same
    exact stands_ofLiteral l
  constant d some := by
    cases l with
    | text s => cases some
    | integer | number | boolean =>
        cases some
        exact ⟨_, rfl, id⟩
  text type := by
    cases l with
    | text s => rfl
    | integer | number | boolean => cases type

/-- Quiet conversion to a number finds one, for which a constant can stand. -/
theorem Fits.toNumber (h : Fits t v) (quiet : t.toNumber.mayRaise held = false) :
    ∃ x, v.toNumber = .ok x ∧ ∀ d, t.toNumber.constant? = some d → KeepsZero d x := by
  obtain ⟨e, type⟩ := t
  have numeric (noText : type ≠ .text) :
      ∃ x, v.toNumber = .ok x ∧ ∀ d, e.constant? = some d → KeepsZero d x := by
    obtain ⟨x, number⟩ := h.conforms.toNumber noText
    refine ⟨x, number, fun d constant => ?_⟩
    obtain ⟨y, same, keeps⟩ := h.constant d constant
    obtain rfl := Except.ok.inj (same.symm.trans number)
    exact keeps
  have folded (l : Literal) (same : e = .literal l) (d : Float)
      (number : (Value.ofLiteral l).toNumber = .ok d) :
      ∃ x, v.toNumber = .ok x ∧ ∀ d', some d = some d' → KeepsZero d' x := by
    obtain ⟨x, found, keeps⟩ := (h.literal l same).number d number
    exact ⟨x, found, fun d' same => Option.some.inj same ▸ keeps⟩
  simp only [Typed.toNumber] at quiet ⊢
  split at quiet
  case h_1 => exact numeric (by decide)
  case h_2 i _ => exact folded (.integer i) rfl _ rfl
  case h_3 b _ => exact folded (.boolean b) rfl _ rfl
  case h_4 s _ =>
    cases read : numberOfText? s with
    | some x => exact folded (.text s) rfl x (by simp [Value.ofLiteral, Value.toNumber, read])
    | none =>
        rw [read] at quiet
        exact absurd (by simp [Code.raisingHelpers]) (notMem_raisingHelpers quiet)
  case h_5 => exact numeric (by decide)
  case h_6 => exact absurd (by simp [Code.raisingHelpers]) (notMem_raisingHelpers quiet)

theorem Fits.toBoolean (h : Fits t v) (quiet : t.toBoolean.mayRaise held = false) :
    ∃ b, v.toBoolean = .ok b := by
  obtain ⟨e, type⟩ := t
  simp only [Typed.toBoolean] at quiet
  split at quiet
  case h_1 => exact h.conforms.toBoolean (show ValueType.boolean ≠ .text by decide)
  case h_2 i _ => exact (h.literal (.integer i) rfl).boolean _ rfl
  case h_3 => exact (h.literal (.number _) rfl).boolean _ rfl
  case h_4 s _ =>
    cases read : booleanOfText? s with
    | some b =>
        refine (h.literal (.text s) rfl).boolean b ?_
        simp [Value.ofLiteral, Value.toBoolean, read]
    | none =>
        rw [read] at quiet
        exact absurd (by simp [Code.raisingHelpers]) (notMem_raisingHelpers quiet)
  case h_5 => exact absurd (by simp [Code.raisingHelpers]) (notMem_raisingHelpers quiet)

/-- Text is never a constant number. -/
theorem Fits.constant?_toText (h : Fits t v) : t.toText.constant? = none := by
  obtain ⟨e, type⟩ := t
  simp only [Typed.toText]
  split
  case h_1 => exact h.text rfl
  case h_2 | h_3 | h_4 | h_5 => rfl

end Fits

section Operators

variable {held : List String} {t l r : Typed} {u v : Value} {op : Formula.BinaryOp} {cell : Address}

theorem fits_number {e : Code.Expr} (x : Float) (computed : isComputed e) :
    Fits (.number e) (.number x) :=
  fits_of_isComputed trivial computed

theorem fits_unary {op : Formula.UnaryOp} (operand : t.expr.mayRaise held = false → Fits t v)
    (quiet : (unary op t).expr.mayRaise held = false) :
    Fits (unary op t) (Evaluation.unary op v) := by
  cases op with
  | plus => exact operand quiet
  | neg =>
      -- The negative of a constant is the constant with the other sign.
      have negative {e : Code.Expr} {type : ValueType} {x : Float} (noText : type ≠ .text)
          (number : v.toNumber = .ok x) (constant : ∀ d, e.constant? = some d → KeepsZero d x) :
          Fits ⟨.unary .negate e, type⟩ (Evaluation.unary .neg v) := by
        rw [Evaluation.unary, number]
        refine ⟨trivial, fun l same => ?_, fun d some => ?_, fun same => absurd same noText⟩
        · cases same
        · obtain ⟨d', found, rfl⟩ := Option.map_eq_some_iff.mp some
          exact ⟨-x, rfl, (constant d' found).neg⟩
      simp only [unary] at quiet ⊢
      split at quiet
      case isTrue integer =>
        have fits := operand quiet
        obtain ⟨x, number⟩ := fits.conforms.toNumber (by rw [integer]; decide)
        rw [if_pos integer]
        refine negative (by decide) number fun d some => ?_
        obtain ⟨y, same, keeps⟩ := fits.constant d some
        obtain rfl := Except.ok.inj (same.symm.trans number)
        exact keeps
      case isFalse other =>
        obtain ⟨x, number, constant⟩ := (operand (quiet_of_toNumber quiet)).toNumber quiet
        rw [if_neg other]
        exact negative (by decide) number constant
  | percent =>
      have converted : t.toNumber.mayRaise held = false := (Bool.or_eq_false_iff.mp quiet).1
      obtain ⟨x, number, -⟩ := (operand (quiet_of_toNumber converted)).toNumber converted
      rw [Evaluation.unary, number]
      exact fits_number _ rfl

/-- Between values that are no errors an operator looks at what they are. -/
theorem binary_of_conforms {a b : ValueType} (left : Conforms a u) (right : Conforms b v) :
    Evaluation.binary op u v =
      if op = .concat then .text (u.display ++ v.display)
      else if op.isComparison then .boolean (Evaluation.compares op (u.compare v))
      else fromCoerced u.toNumber fun x => fromCoerced v.toNumber fun y =>
        Evaluation.arithmetic op x y := by
  cases u with
  | error e => exact left.elim
  | number | text | boolean | blank =>
      cases v with
      | error e => exact right.elim
      | number | text | boolean | blank => rfl

/-- An operator between numbers, its divisor not a constant zero. -/
theorem fits_arithmetic (arithmetic : op ≠ .concat ∧ op.isComparison = false) {e : Code.Expr}
    (left : l.expr.mayRaise held = false → Fits l u)
    (right : r.expr.mayRaise held = false → Fits r v) (first : l.toNumber.mayRaise held = false)
    (second : r.toNumber.mayRaise held = false) (computed : isComputed e)
    (value : ∀ x y, (∀ d, r.toNumber.constant? = some d → KeepsZero d y) →
      ∃ z, Evaluation.arithmetic op x y = .number z) :
    Fits (.number e) (Evaluation.binary op u v) := by
  have fl := left (quiet_of_toNumber first)
  have fr := right (quiet_of_toNumber second)
  obtain ⟨x, hx, -⟩ := fl.toNumber first
  obtain ⟨y, hy, constant⟩ := fr.toNumber second
  obtain ⟨z, hz⟩ := value x y constant
  rw [binary_of_conforms fl.conforms fr.conforms, if_neg arithmetic.1, arithmetic.2, hx, hy]
  simp only [fromCoerced, hz]
  exact fits_number z computed

theorem fits_comparison (comparison : op.isComparison) (noConcat : op ≠ .concat)
    (left : l.expr.mayRaise held = false → Fits l u)
    (right : r.expr.mayRaise held = false → Fits r v)
    (quiet : (Lowering.comparison op l r).expr.mayRaise held = false) :
    Fits (Lowering.comparison op l r) (Evaluation.binary op u v) := by
  have operands : l.expr.mayRaise held = false ∧ r.expr.mayRaise held = false := by
    rw [Lowering.comparison] at quiet
    split at quiet
    case isTrue => exact Bool.or_eq_false_iff.mp quiet
    case isFalse =>
      have args := quiet_arguments (Bool.or_eq_false_iff.mp quiet).1
      exact ⟨args _ List.mem_cons_self, args _ (List.mem_cons_of_mem _ List.mem_cons_self)⟩
  have value : ∃ b, Evaluation.binary op u v = .boolean b := by
    rw [binary_of_conforms (left operands.1).conforms (right operands.2).conforms, if_neg noConcat,
      if_pos comparison]
    exact ⟨_, rfl⟩
  obtain ⟨b, value⟩ := value
  rw [value, Lowering.comparison]
  split
  case isTrue => exact fits_of_isComputed trivial rfl
  case isFalse => exact fits_of_isComputed trivial rfl

theorem fits_binary (left : l.expr.mayRaise held = false → Fits l u)
    (right : r.expr.mayRaise held = false → Fits r v) (h : binary cell op l r = .ok t)
    (quiet : t.expr.mayRaise held = false) : Fits t (Evaluation.binary op u v) := by
  cases op with
  | concat =>
      cases h
      have parts := Bool.or_eq_false_iff.mp quiet
      rw [binary_of_conforms (left (quiet_of_toText parts.1)).conforms
        (right (quiet_of_toText parts.2)).conforms]
      exact fits_of_isComputed rfl rfl
  | add | sub | mul =>
      cases h
      have parts := Bool.or_eq_false_iff.mp quiet
      exact fits_arithmetic (by decide) left right parts.1 parts.2 rfl fun x y _ => ⟨_, rfl⟩
  | div =>
      obtain ⟨e, divided, rfl⟩ := map_eq_ok.mp h
      obtain rfl | ⟨d, constant, nonzero, rfl⟩ := division_cases divided
      · exact absurd (by simp [Code.raisingHelpers]) (notMem_raisingHelpers quiet)
      · have parts := Bool.or_eq_false_iff.mp quiet
        refine fits_arithmetic (by decide) left right parts.1 parts.2 rfl fun x y keeps => ?_
        have divisor : (y == 0.0) = false := by
          by_contra zero
          rw [keeps d constant (by simpa using zero)] at nonzero
          cases nonzero
        exact ⟨x / y, by rw [Evaluation.arithmetic, Evaluation.divide, divisor]; rfl⟩
  | pow =>
      cases h
      exact absurd (by simp [Code.raisingHelpers]) (notMem_raisingHelpers quiet)
  | eq | ne | lt | le | gt | ge =>
      cases h
      exact fits_comparison rfl (by decide) left right quiet

end Operators

end SheetCompiler.Lowering
