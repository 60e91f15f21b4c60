import SheetCompiler.Proofs.Evaluation.Failure
import SheetCompiler.Proofs.Lowering.CallCode
import SheetCompiler.Proofs.Lowering.Expressions
import SheetCompiler.Proofs.Lowering.Fits

/-!
# Formulas with quiet code

Lowering and evaluation walk through a formula side by side once more, now for errors: if the code
of a formula is quiet, its value is no error. The argument is one case for each function, and then
an induction on the formula.

There are two gaps, and both are named here. A function of the numbers in a range passes over the
cells whose static type is not numeric, though their values can be errors. And a call of `COUNT` or
`CONCATENATE` can be folded to a literal that its value is no match for, since cells are counted by
their types and integers are spelled in full. Everything else is closed.
-/

namespace SheetCompiler

namespace Formula

mutual

/-- The calls in an expression, each with its name and its arguments. -/
def Expr.calls : Expr → List (String × List Expr)
  | .literal _ | .cell _ | .range .. => []
  | .binary _ left right => left.calls ++ right.calls
  | .unary _ operand => operand.calls
  | .call name args => (name, args) :: callsOf args

/-- The calls in a list of expressions. -/
def callsOf : List Expr → List (String × List Expr)
  | [] => []
  | e :: rest => e.calls ++ callsOf rest

end

end Formula

namespace Lowering

open Code (ValueType)
open Evaluation (eval fromCoerced)
open Formula (Expr Function callsOf referencesOf)

section Sequences

variable {scope : Scope} {types : Types} {cell : Address} {held : List String}
variable {read : Address → Except CompileError Value}

/-- A sequence without errors, its direct members being numbers, is a sequence of numbers. -/
theorem exists_numbers {items : List Evaluation.Item}
    (noError : ∀ item ∈ items, ∀ e, item.value ≠ .error e)
    (direct : ∀ item ∈ items, item.fromRange = false → ∃ x, item.value.toNumber = .ok x) :
    ∃ xs, Evaluation.numbers items = .ok xs := by
  induction items with
  | nil => exact ⟨[], rfl⟩
  | cons item rest ih =>
      rw [List.forall_mem_cons] at noError direct
      obtain ⟨xs, others⟩ := ih noError.2 direct.2
      obtain ⟨value, fromRange⟩ := item
      cases value with
      | error e => exact absurd rfl (noError.1 e)
      | number x => exact ⟨x :: xs, by simp only [Evaluation.numbers, others]; rfl⟩
      | text | boolean | blank =>
          cases fromRange with
          | true => exact ⟨xs, others⟩
          | false =>
              obtain ⟨x, number⟩ := direct.1 rfl
              exact ⟨x :: xs, by simp only [Evaluation.numbers, number, others]; rfl⟩

/-- Where a member of a sequence comes from: a cell of a range, or an argument that is none. -/
inductive Origin (read : Address → Except CompileError Value)
    (args : List (Evaluation.Argument (Except CompileError))) (item : Evaluation.Item) : Prop
  | range {arg : Evaluation.Argument (Except CompileError)} {first last a : Address}
      (member : arg ∈ args) (range : arg.expr = .range first last)
      (within : a ∈ Address.rectangle first last) (value : read a = .ok item.value)
      (fromRange : item.fromRange = true)
  | direct {arg : Evaluation.Argument (Except CompileError)} (member : arg ∈ args)
      (single : arg.expr.isRange = false) (value : arg.value = .ok item.value)

theorem Origin.cons {args : List (Evaluation.Argument (Except CompileError))}
    {item : Evaluation.Item} (first : Evaluation.Argument (Except CompileError))
    (h : Origin read args item) :
    Origin read (first :: args) item := by
  cases h with
  | range member range within value fromRange =>
      exact .range (List.mem_cons_of_mem _ member) range within value fromRange
  | direct member single value => exact .direct (List.mem_cons_of_mem _ member) single value

theorem origin_of_mem_sequence {args : List (Evaluation.Argument (Except CompileError))}
    {items : List Evaluation.Item} (h : Evaluation.sequence read args = .ok items)
    {item : Evaluation.Item} (member : item ∈ items) : Origin read args item := by
  induction args generalizing items with
  | nil =>
      cases h
      cases member
  | cons arg rest ih =>
      obtain ⟨expr, value⟩ := arg
      cases expr with
      | range first last =>
          simp only [Evaluation.sequence, bind_eq_ok, pure_eq_ok] at h
          obtain ⟨values, all, _, rfl, others, later, rfl⟩ := h
          rcases List.mem_append.mp member with inside | after
          · obtain ⟨v, listed, rfl⟩ := List.mem_map.mp inside
            obtain ⟨a, within, found⟩ := exists_left_of_forall₂ (mapM_eq_ok.mp all) listed
            exact .range List.mem_cons_self rfl within found rfl
          · exact (ih later after).cons _
      | literal | cell | binary | unary | call =>
          simp only [Evaluation.sequence, bind_eq_ok, pure_eq_ok] at h
          obtain ⟨v, found, _, rfl, others, later, rfl⟩ := h
          rcases List.mem_append.mp member with inside | after
          · obtain rfl := List.mem_singleton.mp inside
            exact .direct List.mem_cons_self rfl found
          · exact (ih later after).cons _

variable {args : List Argument} {its : List Item} {arg : Argument}

/-- The items of an argument are among those of all. -/
theorem exists_itemsOf (h : items scope types cell args = .ok its) (member : arg ∈ args) :
    ∃ part, itemsOf scope types cell arg = .ok part ∧ ∀ item ∈ part, item ∈ its := by
  obtain ⟨parts, each, same⟩ := bind_eq_ok.mp h
  obtain rfl := pure_eq_ok.mp same
  obtain ⟨part, listed, found⟩ := exists_right_of_forall₂ (mapM_eq_ok.mp each) member
  exact ⟨part, found, fun item inside => List.mem_flatten.mpr ⟨part, listed, inside⟩⟩

theorem exists_fromRange {first last a : Address} (h : items scope types cell args = .ok its)
    (member : arg ∈ args) (range : arg.expr = .range first last)
    (within : a ∈ Address.rectangle first last) (present : (scope.workbook.cell? a).isSome) :
    ∃ t, scope.reference types cell a = .ok t ∧ .fromRange t ∈ its := by
  obtain ⟨part, found, inside⟩ := exists_itemsOf h member
  rw [itemsOf, range] at found
  obtain ⟨cells, all, same⟩ := bind_eq_ok.mp found
  obtain rfl := pure_eq_ok.mp same
  obtain ⟨c, listed, reference⟩ := exists_right_of_forall₂ (mapM_eq_ok.mp all) within
  rw [if_pos present] at reference
  obtain ⟨t, found, rfl⟩ := map_eq_ok.mp reference
  exact ⟨t, found, inside _ (List.mem_filterMap.mpr ⟨some t, listed, rfl⟩)⟩

theorem exists_direct (h : items scope types cell args = .ok its) (member : arg ∈ args)
    (single : arg.expr.isRange = false) : ∃ t, arg.typed = .ok t ∧ .direct t ∈ its := by
  obtain ⟨part, found, inside⟩ := exists_itemsOf h member
  obtain ⟨t, typed, rfl⟩ := itemsOf_direct single found
  exact ⟨t, typed, inside _ List.mem_cons_self⟩

end Sequences

section Slips

variable (scope : Scope) (types : Types) (cell : Address)
variable (read : Address → Except CompileError Value)

/-- The functions of the numbers in a sequence that raise no error of their own. -/
def totals : List Function :=
  [.sum, .min, .max, .product, .npv]

/-- There is a range among the arguments in which the value of a cell is an error, though its static
type is not numeric. -/
def HidesError (args : List Expr) : Prop :=
  ∃ first last, .range first last ∈ args ∧ ∃ a ∈ Address.rectangle first last, ∃ t e,
    scope.reference types cell a = .ok t ∧ t.type.isNumeric = false ∧ read a = .ok (.error e)

/-- The call takes the numbers of such a range. -/
def PassesOver (name : String) (args : List Expr) : Prop :=
  ∃ f ∈ totals, Function.ofName? name = some f ∧ HidesError scope types cell read args

/-- The call counts or joins, and is lowered to a literal that is not its value. -/
def Misjudges (name : String) (args : List Expr) : Prop :=
  ∃ f ∈ [Function.count, .concatenate], Function.ofName? name = some f ∧ ∃ l type v,
    lower scope types cell (.call name args) = .ok ⟨.literal l, type⟩ ∧
      eval read cell (.call name args) = .ok v ∧ ¬ Stands l v

/-- An error can get past the code of the call. -/
def Slips (name : String) (args : List Expr) : Prop :=
  PassesOver scope types cell read name args ∨ Misjudges scope types cell read name args

/-- What is to be shown of an expression: if its code is quiet, the code stands for the value. -/
def Settled (held : List String) (e : Expr) : Prop :=
  ∀ t v, lower scope types cell e = .ok t → t.expr.mayRaise held = false →
    eval read cell e = .ok v → Fits t v

/-- What quiet code may rely on: names that are not held back stand for what is read, and no call
lets an error slip. -/
structure Calm (held : List String) (references : List Address)
    (calls : List (String × List Expr)) : Prop where
  missing : ∀ a, scope.workbook.cell? a = none → read a = .ok .blank
  reads : ∀ a ∈ references, ∀ t v, scope.reference types cell a = .ok t →
    t.expr.mayRaise held = false → read a = .ok v → Fits t v
  tight : ∀ name args, (name, args) ∈ calls → ¬ Slips scope types cell read name args

end Slips

section Calls

variable {scope : Scope} {types : Types} {cell : Address} {held : List String}
variable {read : Address → Except CompileError Value}
variable {references : List Address} {calls : List (String × List Expr)}

theorem Calm.mono (h : Calm scope types cell read held references calls)
    {references' : List Address} {calls' : List (String × List Expr)}
    (fewer : references' ⊆ references) (less : calls' ⊆ calls) :
    Calm scope types cell read held references' calls' where
  missing := h.missing
  reads a member := h.reads a (fewer member)
  tight name args member := h.tight name args (less member)

theorem references_subset {args : List Expr} {e : Expr} (member : e ∈ args) :
    e.references ⊆ referencesOf args := by
  induction args with
  | nil => cases member
  | cons first rest ih =>
      rcases List.mem_cons.mp member with rfl | later
      · exact List.subset_append_left _ _
      · exact List.Subset.trans (ih later) (List.subset_append_right _ _)

/-- If the code of a sequence of numbers is quiet, the sequence is one of numbers. -/
theorem Calm.exists_numbers {args : List Expr}
    (calm : Calm scope types cell read held (referencesOf args) calls)
    (each : ∀ e ∈ args, Settled scope types cell read held e)
    (shown : ¬ HidesError scope types cell read args)
    {its : List Item} {items : List Evaluation.Item}
    (static : Lowering.items scope types cell (args.map fun e => ⟨e, lower scope types cell e⟩) =
      .ok its)
    (dynamic : Evaluation.sequence read (args.map fun e => ⟨e, eval read cell e⟩) = .ok items)
    (quiet : ∀ e ∈ its.filterMap Item.number?, e.mayRaise held = false) :
    ∃ xs, Evaluation.numbers items = .ok xs := by
  have direct {e : Expr} {v : Value} (member : e ∈ args) (single : e.isRange = false)
      (value : eval read cell e = .ok v) : ∃ t, Fits t v ∧ t.toNumber.mayRaise held = false := by
    obtain ⟨t, typed, item⟩ := exists_direct static (List.mem_map.mpr ⟨e, member, rfl⟩) single
    have converted := quiet t.toNumber (List.mem_filterMap.mpr ⟨_, item, rfl⟩)
    exact ⟨t, each e member t v typed (quiet_of_toNumber converted) value, converted⟩
  apply Lowering.exists_numbers
  case noError =>
    intro item member e same
    cases origin_of_mem_sequence dynamic member with
    | direct inside single value =>
        obtain ⟨e', argument, rfl⟩ := List.mem_map.mp inside
        obtain ⟨t, fits, -⟩ := direct argument single value
        exact fits.conforms.ne_error e same
    | range inside range within value fromRange =>
        rename_i arg first last a
        obtain ⟨e', argument, rfl⟩ := List.mem_map.mp inside
        obtain rfl : e' = .range first last := range
        rw [same] at value
        cases present : scope.workbook.cell? a with
        | none =>
            rw [calm.missing a present] at value
            cases value
        | some c =>
            obtain ⟨t, reference, item⟩ := exists_fromRange static
              (List.mem_map.mpr ⟨_, argument, rfl⟩) rfl within (by rw [present]; rfl)
            cases numeric : t.type.isNumeric with
            | false =>
                exact shown ⟨first, last, argument, a, within, t, e, reference, numeric, value⟩
            | true =>
                have converted := quiet t.toNumber
                  (List.mem_filterMap.mpr ⟨_, item, by simp only [Item.number?, numeric, if_true]⟩)
                have fits := calm.reads a (references_subset argument within) t _ reference
                  (quiet_of_toNumber converted) value
                exact fits.conforms.ne_error e rfl
  case direct =>
    intro item member alone
    cases origin_of_mem_sequence dynamic member with
    | direct inside single value =>
        obtain ⟨e, argument, rfl⟩ := List.mem_map.mp inside
        obtain ⟨t, fits, converted⟩ := direct argument single value
        obtain ⟨x, number, -⟩ := fits.toNumber converted
        exact ⟨x, number⟩
    | range inside range within value fromRange =>
        rw [fromRange] at alone
        cases alone

/-- A sum of one member is the member, and any other is an addition. -/
theorem foldl_add_cases (first : Code.Expr) (rest : List Code.Expr) :
    rest.foldl (fun sum e => .binary .add sum e) first = first ∨
      ∃ l r, rest.foldl (fun sum e => .binary .add sum e) first = .binary .add l r := by
  induction rest using List.reverseRecOn with
  | nil => exact .inl rfl
  | append_singleton rest last ih => exact .inr ⟨_, last, by rw [List.foldl_append]; rfl⟩

theorem quiet_foldl_add {first : Code.Expr} {rest : List Code.Expr}
    (quiet : (rest.foldl (fun sum e => .binary .add sum e) first).mayRaise held = false) :
    ∀ e ∈ first :: rest, e.mayRaise held = false := by
  induction rest generalizing first with
  | nil => simpa using quiet
  | cons next rest ih =>
      have all := ih quiet
      rw [List.forall_mem_cons, Code.Expr.mayRaise, Bool.or_eq_false_iff] at all
      rw [List.forall_mem_cons, List.forall_mem_cons]
      exact ⟨all.1.1, all.1.2, all.2⟩

theorem quiet_joinTexts {parts : List Code.Expr} (quiet : (joinTexts parts).mayRaise held = false) :
    ∀ e ∈ parts, e.mayRaise held = false := by
  cases parts with
  | nil => simp
  | cons first rest => exact quiet_foldl_add quiet

theorem constant?_joinTexts {parts : List Code.Expr} (h : ∀ e ∈ parts, e.constant? = none) :
    (joinTexts parts).constant? = none := by
  cases parts with
  | nil => rfl
  | cons first rest =>
      rw [joinTexts]
      obtain same | ⟨l, r, same⟩ := foldl_add_cases first rest
      · rw [same]
        exact h first List.mem_cons_self
      · rw [same]
        rfl

/-- Joining values that are no errors gives a text, for which all of them are found. -/
theorem exists_text_of_concatenation {args : List (Evaluation.Argument (Except CompileError))}
    (h : ∀ arg ∈ args, ∀ u, arg.value = .ok u → ∃ s, u.toText = .ok s) {sofar : String} {v : Value}
    (joined : Evaluation.concatenation sofar args = .ok v) :
    (∃ s, v = .text s) ∧ ∀ arg ∈ args, ∃ u, arg.value = .ok u := by
  induction args generalizing sofar with
  | nil => exact ⟨⟨sofar, (Except.ok.inj joined).symm⟩, nofun⟩
  | cons arg rest ih =>
      rw [List.forall_mem_cons] at h ⊢
      obtain ⟨u, value, others⟩ := bind_eq_ok.mp joined
      obtain ⟨s, text⟩ := h.1 u value
      rw [text] at others
      obtain ⟨result, found⟩ := ih h.2 others
      exact ⟨result, ⟨u, value⟩, found⟩

/-- What a call that can be lowered is made of, and what evaluates it. -/
theorem callCode_of_lower (read : Address → Except CompileError Value) {name : String}
    {args : List Expr} {t : Typed} (h : lower scope types cell (.call name args) = .ok t) :
    ∃ f fault,
      Function.ofName? name = some f ∧
      CallCode scope types cell f (args.map fun e => ⟨e, lower scope types cell e⟩) t ∧
      eval read cell (.call name args) =
        Evaluation.call read cell fault f (args.map fun e => ⟨e, eval read cell e⟩) := by
  cases named : Function.ofName? name with
  | none =>
      rw [lower, named] at h
      cases h
  | some f =>
      obtain ⟨fault, code, evaluated⟩ := lower_call read named h
      refine ⟨f, fault, rfl, ?_, ?_⟩
      · rw [← arguments_eq_map]
        refine callCode_of_call ?_ code
        rw [lower, named] at h
        simp only at h
        split at h
        case isTrue admitted => simpa [arguments_eq_map] using admitted
        case isFalse => cases h
      · rw [evaluated, Evaluation.arguments_eq_map]

section Functions

variable {f : Function} {fault : CompileError}

/-- Of the functions of a sequence of numbers, only the average raises an error. -/
theorem mem_totals_of_quiet {helper : String} (known : (f, helper) ∈ aggregates)
    {code : List Code.Expr} (quiet : (Code.Expr.support helper code).mayRaise held = false) :
    f ∈ totals := by
  simp only [aggregates, List.mem_cons, Prod.mk.injEq, List.not_mem_nil, or_false] at known
  rcases known with ⟨rfl, rfl⟩ | ⟨rfl, rfl⟩ | ⟨rfl, rfl⟩ | ⟨rfl, rfl⟩ | ⟨rfl, rfl⟩
  · decide
  · exact absurd (by simp [Code.raisingHelpers]) (notMem_raisingHelpers quiet)
  · decide
  · decide
  · decide

theorem exists_aggregate (total : f ∈ totals) (xs : List Float) :
    ∃ x, Evaluation.aggregate f xs = .number x := by
  simp only [totals, List.mem_cons, List.not_mem_nil, or_false] at total
  rcases total with rfl | rfl | rfl | rfl | rfl
  · exact ⟨_, rfl⟩
  · exact ⟨_, rfl⟩
  · exact ⟨_, rfl⟩
  all_goals
    simp only [Evaluation.aggregate]
    split
    case isTrue => exact ⟨_, rfl⟩
    case isFalse => exact ⟨_, rfl⟩

theorem fits_numeric {target : String} (known : (f, target) ∈ numerics) {code : List Code.Expr}
    (quiet : (Code.Expr.call target code).mayRaise held = false) (x : Float) :
    Fits (.number (.call target code)) (Evaluation.numeric f x) := by
  simp only [numerics, List.mem_cons, Prod.mk.injEq, List.not_mem_nil, or_false] at known
  rcases known with ⟨rfl, rfl⟩ | ⟨rfl, rfl⟩ | ⟨rfl, rfl⟩
  · exact fits_number _ rfl
  · exact fits_number _ rfl
  · exact absurd (by simp [Code.raisingHelpers]) (notMem_raisingHelpers quiet)

theorem fits_numericPair {helper : String} (known : (f, helper) ∈ numericPairs)
    {code : List Code.Expr} (quiet : (Code.Expr.support helper code).mayRaise held = false)
    (x y : Float) : Fits (.number (.support helper code)) (Evaluation.numericPair f x y) := by
  simp only [numericPairs, List.mem_cons, Prod.mk.injEq, List.not_mem_nil, or_false] at known
  rcases known with ⟨rfl, rfl⟩ | ⟨rfl, rfl⟩ | ⟨rfl, rfl⟩ | ⟨rfl, rfl⟩ | ⟨rfl, rfl⟩
  · exact absurd (by simp [Code.raisingHelpers]) (notMem_raisingHelpers quiet)
  · exact absurd (by simp [Code.raisingHelpers]) (notMem_raisingHelpers quiet)
  · exact fits_number _ rfl
  · exact fits_number _ rfl
  · exact fits_number _ rfl

theorem fits_textual {helper : String} (known : (f, helper) ∈ textuals) (code : List Code.Expr)
    (s : String) : Fits (.text (.support helper code)) (Evaluation.textual f s) := by
  simp only [textuals, List.mem_cons, Prod.mk.injEq, List.not_mem_nil, or_false] at known
  rcases known with ⟨rfl, rfl⟩ | ⟨rfl, rfl⟩ | ⟨rfl, rfl⟩ <;>
    exact fits_of_isComputed rfl rfl

theorem call_aggregate {helper : String} (known : (f, helper) ∈ aggregates)
    (args : List (Evaluation.Argument (Except CompileError))) :
    Evaluation.call read cell fault f args = (do
      return fromCoerced (Evaluation.numbers (← Evaluation.sequence read args))
        (Evaluation.aggregate f)) := by
  simp only [aggregates, List.mem_cons, Prod.mk.injEq, List.not_mem_nil, or_false] at known
  rcases known with ⟨rfl, rfl⟩ | ⟨rfl, rfl⟩ | ⟨rfl, rfl⟩ | ⟨rfl, rfl⟩ | ⟨rfl, rfl⟩ <;> rfl

theorem call_numeric {target : String} (known : (f, target) ∈ numerics)
    (arg : Evaluation.Argument (Except CompileError)) :
    Evaluation.call read cell fault f [arg] = (do
      return fromCoerced (← arg.value).toNumber (Evaluation.numeric f)) := by
  simp only [numerics, List.mem_cons, Prod.mk.injEq, List.not_mem_nil, or_false] at known
  rcases known with ⟨rfl, rfl⟩ | ⟨rfl, rfl⟩ | ⟨rfl, rfl⟩ <;> rfl

theorem call_numericPair {helper : String} (known : (f, helper) ∈ numericPairs)
    (left right : Evaluation.Argument (Except CompileError)) :
    Evaluation.call read cell fault f [left, right] = (do
      Evaluation.withCoerced (← left.value).toNumber fun x => do
        return fromCoerced (← right.value).toNumber (Evaluation.numericPair f x)) := by
  simp only [numericPairs, List.mem_cons, Prod.mk.injEq, List.not_mem_nil, or_false] at known
  rcases known with ⟨rfl, rfl⟩ | ⟨rfl, rfl⟩ | ⟨rfl, rfl⟩ | ⟨rfl, rfl⟩ | ⟨rfl, rfl⟩ <;> rfl

theorem call_textual {helper : String} (known : (f, helper) ∈ textuals)
    (arg : Evaluation.Argument (Except CompileError)) :
    Evaluation.call read cell fault f [arg] = (do
      return fromCoerced (← arg.value).toText (Evaluation.textual f)) := by
  simp only [textuals, List.mem_cons, Prod.mk.injEq, List.not_mem_nil, or_false] at known
  rcases known with ⟨rfl, rfl⟩ | ⟨rfl, rfl⟩ | ⟨rfl, rfl⟩ <;> rfl

end Functions

section Arguments

variable {f : Function} {fault : CompileError} {e : Expr} {t : Typed} {u v : Value}

theorem Settled.toNumber (h : Settled scope types cell read held e)
    (lowered : lower scope types cell e = .ok t) (quiet : t.toNumber.mayRaise held = false)
    (value : eval read cell e = .ok u) : ∃ x, u.toNumber = .ok x := by
  obtain ⟨x, number, -⟩ := (h t u lowered (quiet_of_toNumber quiet) value).toNumber quiet
  exact ⟨x, number⟩

theorem Settled.toBoolean (h : Settled scope types cell read held e)
    (lowered : lower scope types cell e = .ok t) (quiet : t.toBoolean.mayRaise held = false)
    (value : eval read cell e = .ok u) : ∃ b, u.toBoolean = .ok b :=
  (h t u lowered (quiet_of_toBoolean quiet) value).toBoolean quiet

theorem Settled.toText (h : Settled scope types cell read held e)
    (lowered : lower scope types cell e = .ok t) (quiet : t.toText.mayRaise held = false)
    (value : eval read cell e = .ok u) : u.toText = .ok u.display :=
  (h t u lowered (quiet_of_toText quiet) value).conforms.toText

/-- The numbers in the arguments of a function that takes a sequence of them. -/
theorem Calm.fits_aggregate {args : List Expr} {helper : String} {its : List Item}
    (calm : Calm scope types cell read held (referencesOf args) calls)
    (each : ∀ e ∈ args, Settled scope types cell read held e)
    (shown : f ∈ totals → ¬ HidesError scope types cell read args)
    (known : (f, helper) ∈ aggregates)
    (static : items scope types cell (args.map fun e => ⟨e, lower scope types cell e⟩) = .ok its)
    (quiet : (Code.Expr.support helper (its.filterMap Item.number?)).mayRaise held = false)
    (value : Evaluation.call read cell fault f (args.map fun e => ⟨e, eval read cell e⟩) = .ok v) :
    Fits (.number (.support helper (its.filterMap Item.number?))) v := by
  rw [call_aggregate known] at value
  obtain ⟨items, dynamic, same⟩ := bind_eq_ok.mp value
  obtain rfl := pure_eq_ok.mp same
  have total := mem_totals_of_quiet known quiet
  obtain ⟨xs, numbers⟩ :=
    calm.exists_numbers each (shown total) static dynamic (quiet_arguments quiet)
  obtain ⟨x, result⟩ := exists_aggregate total xs
  rw [numbers]
  simp only [fromCoerced, result]
  exact fits_number x rfl

theorem Calm.fits_npv {rate : Expr} {payments : List Expr} {its : List Item}
    (calm : Calm scope types cell read held (referencesOf payments) calls)
    (rated : Settled scope types cell read held rate)
    (each : ∀ e ∈ payments, Settled scope types cell read held e)
    (shown : ¬ HidesError scope types cell read payments)
    (lowered : lower scope types cell rate = .ok t)
    (static : items scope types cell (payments.map fun e => ⟨e, lower scope types cell e⟩) =
      .ok its)
    (quiet : (Code.Expr.support "Npv" (t.toNumber :: its.filterMap Item.number?)).mayRaise held =
      false)
    (value : Evaluation.call read cell fault .npv
      ((rate :: payments).map fun e => ⟨e, eval read cell e⟩) = .ok v) :
    Fits (.number (.support "Npv" (t.toNumber :: its.filterMap Item.number?))) v := by
  have parts := List.forall_mem_cons.mp (quiet_arguments quiet)
  obtain ⟨u, found, value⟩ := bind_eq_ok.mp value
  obtain ⟨x, number⟩ := rated.toNumber lowered parts.1 found
  rw [number] at value
  obtain ⟨items, dynamic, same⟩ := bind_eq_ok.mp value
  obtain rfl := pure_eq_ok.mp same
  obtain ⟨xs, numbers⟩ := calm.exists_numbers each shown static dynamic parts.2
  rw [numbers]
  exact fits_number _ rfl

/-- A count is a constant if no argument waits for its value. -/
theorem fits_count {args : List (Evaluation.Argument (Except CompileError))} {its : List Item}
    (folded : ∀ l, (count its).expr = .literal l → Stands l v)
    (value : Evaluation.call read cell fault .count args = .ok v) : Fits (count its) v := by
  obtain ⟨items, dynamic, same⟩ := bind_eq_ok.mp value
  obtain rfl := pure_eq_ok.mp same
  refine ⟨trivial, folded, fun d some => ?_, fun text => by cases text⟩
  rw [count] at folded some
  obtain alone | ⟨l, r, added⟩ := foldl_add_cases _ _
  · rw [alone] at folded some
    cases some
    exact (folded _ rfl).number _ rfl
  · rw [added] at some
    cases some

theorem fits_not (h : Settled scope types cell read held e)
    (lowered : lower scope types cell e = .ok t) (quiet : t.toBoolean.mayRaise held = false)
    (value : Evaluation.call read cell fault .not [⟨e, eval read cell e⟩] = .ok v) :
    Fits (.boolean (.unary .not t.toBoolean)) v := by
  obtain ⟨u, found, same⟩ := bind_eq_ok.mp value
  obtain rfl := pure_eq_ok.mp same
  obtain ⟨b, truth⟩ := h.toBoolean lowered quiet found
  rw [truth]
  exact fits_of_isComputed trivial rfl

/-- A quiet choice takes one of its branches. -/
theorem fits_conditional {yes no : Typed} {first second : Except CompileError Value}
    (h : Settled scope types cell read held e) (lowered : lower scope types cell e = .ok t)
    (quiet : (conditional t yes no).expr.mayRaise held = false)
    (left : ∀ v, yes.expr.mayRaise held = false → first = .ok v → Fits yes v)
    (right : ∀ v, no.expr.mayRaise held = false → second = .ok v → Fits no v)
    (value : (eval read cell e >>= fun u => Evaluation.withCoerced u.toBoolean fun b =>
      if b then first else second) = .ok v) : Fits (conditional t yes no) v := by
  simp only [conditional, Code.Expr.mayRaise, Bool.or_eq_false_iff] at quiet
  obtain ⟨⟨quietTest, quietYes⟩, quietNo⟩ := quiet
  obtain ⟨u, found, chosen⟩ := bind_eq_ok.mp value
  obtain ⟨b, truth⟩ := h.toBoolean lowered quietTest found
  rw [truth] at chosen
  refine fits_of_isComputed ?_ rfl
  cases b with
  | true => exact (left v (quiet_of_convert quietYes) chosen).conforms.unify_left
  | false => exact (right v (quiet_of_convert quietNo) chosen).conforms.unify_right

/-- What is attempted raises no error, so nothing else is used. -/
theorem fits_ifError {attempt otherwise : Expr} {a o : Typed}
    (h : Settled scope types cell read held attempt)
    (lowered : lower scope types cell attempt = .ok a)
    (quiet : (a.convert (a.type.unify o.type)).mayRaise held = false) {code : List Code.Expr}
    (value : Evaluation.call read cell fault .ifError
      [⟨attempt, eval read cell attempt⟩, ⟨otherwise, eval read cell otherwise⟩] = .ok v) :
    Fits ⟨.support "IfError" code, a.type.unify o.type⟩ v := by
  obtain ⟨u, found, chosen⟩ := bind_eq_ok.mp value
  have fits := h a u lowered (quiet_of_convert quiet) found
  have same : u = v := by
    cases u with
    | error e => exact absurd rfl (fits.conforms.ne_error e)
    | number | text | boolean | blank => exact pure_eq_ok.mp chosen
  rw [← same]
  exact fits_of_isComputed fits.conforms.unify_left rfl

theorem fits_numericCall {target : String} (h : Settled scope types cell read held e)
    (known : (f, target) ∈ numerics) (lowered : lower scope types cell e = .ok t)
    (quiet : (Code.Expr.call target [t.toNumber]).mayRaise held = false)
    (value : Evaluation.call read cell fault f [⟨e, eval read cell e⟩] = .ok v) :
    Fits (.number (.call target [t.toNumber])) v := by
  rw [call_numeric known] at value
  obtain ⟨u, found, same⟩ := bind_eq_ok.mp value
  obtain rfl := pure_eq_ok.mp same
  obtain ⟨x, number⟩ := h.toNumber lowered (quiet_arguments quiet _ List.mem_cons_self) found
  rw [number]
  exact fits_numeric known quiet x

theorem fits_numericPairCall {left right : Expr} {l r : Typed} {helper : String}
    (first : Settled scope types cell read held left)
    (second : Settled scope types cell read held right) (known : (f, helper) ∈ numericPairs)
    (loweredLeft : lower scope types cell left = .ok l)
    (loweredRight : lower scope types cell right = .ok r)
    (quiet : (Code.Expr.support helper [l.toNumber, r.toNumber]).mayRaise held = false)
    (value : Evaluation.call read cell fault f
      [⟨left, eval read cell left⟩, ⟨right, eval read cell right⟩] = .ok v) :
    Fits (.number (.support helper [l.toNumber, r.toNumber])) v := by
  have parts := quiet_arguments quiet
  simp only [List.forall_mem_cons] at parts
  rw [call_numericPair known] at value
  obtain ⟨u, found, value⟩ := bind_eq_ok.mp value
  obtain ⟨x, number⟩ := first.toNumber loweredLeft parts.1 found
  rw [number] at value
  obtain ⟨u', found', same⟩ := bind_eq_ok.mp value
  obtain rfl := pure_eq_ok.mp same
  obtain ⟨y, number'⟩ := second.toNumber loweredRight parts.2.1 found'
  rw [number']
  exact fits_numericPair known quiet x y

/-- A text joined from others is a constant only if it is folded. -/
theorem fits_concatenate {args : List Expr} {parts : List Code.Expr}
    (each : ∀ e ∈ args, Settled scope types cell read held e)
    (lowered : List.Forall₂ (fun (arg : Argument) part => arg.typed.map Typed.toText = .ok part)
      (args.map fun e => ⟨e, lower scope types cell e⟩) parts)
    (quiet : (joinTexts parts).mayRaise held = false)
    (folded : ∀ l, joinTexts parts = .literal l → Stands l v)
    (value : Evaluation.concatenation "" (args.map fun e => ⟨e, eval read cell e⟩) = .ok v) :
    Fits (.text (joinTexts parts)) v := by
  have quietParts := quiet_joinTexts quiet
  have texts : ∀ arg ∈ args.map fun e => (⟨e, eval read cell e⟩ : Evaluation.Argument _), ∀ u,
      arg.value = .ok u → ∃ s, u.toText = .ok s := by
    intro arg member u found
    obtain ⟨e, inside, rfl⟩ := List.mem_map.mp member
    obtain ⟨part, listed, text⟩ :=
      exists_right_of_forall₂ lowered (List.mem_map.mpr ⟨e, inside, rfl⟩)
    obtain ⟨t, typed, rfl⟩ := map_eq_ok.mp text
    exact ⟨_, (each e inside).toText typed (quietParts _ listed) found⟩
  obtain ⟨⟨s, rfl⟩, found⟩ := exists_text_of_concatenation texts value
  have none : (joinTexts parts).constant? = none := by
    refine constant?_joinTexts fun part listed => ?_
    obtain ⟨arg, member, text⟩ := exists_left_of_forall₂ lowered listed
    obtain ⟨e, inside, rfl⟩ := List.mem_map.mp member
    obtain ⟨t, typed, rfl⟩ := map_eq_ok.mp text
    obtain ⟨u, value⟩ := found _ (List.mem_map.mpr ⟨e, inside, rfl⟩)
    have fits := each e inside t u typed (quiet_of_toText (quietParts _ listed)) value
    exact fits.constant?_toText
  refine ⟨rfl, folded, fun d some => ?_, fun _ => none⟩
  rw [Typed.text, none] at some
  cases some

theorem fits_textualCall {helper : String} (h : Settled scope types cell read held e)
    (known : (f, helper) ∈ textuals) (lowered : lower scope types cell e = .ok t)
    (quiet : t.toText.mayRaise held = false)
    (value : Evaluation.call read cell fault f [⟨e, eval read cell e⟩] = .ok v) :
    Fits (.text (.support helper [t.toText])) v := by
  rw [call_textual known] at value
  obtain ⟨u, found, same⟩ := bind_eq_ok.mp value
  obtain rfl := pure_eq_ok.mp same
  rw [h.toText lowered quiet found]
  exact fits_textual known _ _

theorem fits_len (h : Settled scope types cell read held e)
    (lowered : lower scope types cell e = .ok t) (quiet : t.toText.mayRaise held = false)
    (value : Evaluation.call read cell fault .len [⟨e, eval read cell e⟩] = .ok v) :
    Fits ⟨.support "Len" [t.toText], .integer⟩ v := by
  obtain ⟨u, found, same⟩ := bind_eq_ok.mp value
  obtain rfl := pure_eq_ok.mp same
  rw [h.toText lowered quiet found]
  exact fits_of_isComputed trivial rfl

end Arguments

/-- A call with settled arguments is settled, if it lets no error slip. -/
theorem Calm.settled_call {name : String} {args : List Expr}
    (calm : Calm scope types cell read held (referencesOf args) ((name, args) :: callsOf args))
    (each : ∀ e ∈ args, Settled scope types cell read held e) :
    Settled scope types cell read held (.call name args) := by
  intro t v lowered quiet value
  obtain ⟨f, fault, named, code, evaluated⟩ := callCode_of_lower read lowered
  have tight := calm.tight name args List.mem_cons_self
  rw [Slips, not_or] at tight
  have shown (total : f ∈ totals) : ¬ HidesError scope types cell read args :=
    fun hides => tight.1 ⟨f, total, named, hides⟩
  have folded : f ∈ [Function.count, .concatenate] → ∀ l, t.expr = .literal l → Stands l v := by
    intro folds l same
    by_contra differs
    obtain ⟨expr, type⟩ := t
    obtain rfl : expr = .literal l := same
    exact tight.2 ⟨f, folds, named, l, type, v, lowered, value, differs⟩
  rw [evaluated] at value
  generalize listed : args.map (fun e => (⟨e, lower scope types cell e⟩ : Argument)) = found at code
  cases code with
  | aggregate known static =>
      subst listed
      exact calm.fits_aggregate each shown known static quiet value
  | npv first static =>
      obtain ⟨rate, payments, rfl, rfl, rfl⟩ := List.map_eq_cons_iff.mp listed
      rw [List.forall_mem_cons] at each
      have fewer : referencesOf payments ⊆ referencesOf (rate :: payments) :=
        List.subset_append_right _ _
      refine (calm.mono fewer (List.Subset.refl _)).fits_npv each.1 each.2 ?_ first static
        quiet value
      rintro ⟨first, last, range, hidden⟩
      exact shown (by decide) ⟨first, last, List.mem_cons_of_mem _ range, hidden⟩
  | count static => exact fits_count (folded (by decide)) value
  | logical known static =>
      have raising : ∀ p ∈ logicals, p.2 ∈ Code.raisingHelpers := by
        simp [logicals, Code.raisingHelpers]
      exact absurd (raising _ known) (notMem_raisingHelpers quiet)
  | not first =>
      obtain ⟨e, rfl, rfl⟩ := List.map_eq_singleton_iff.mp listed
      exact fits_not (each e List.mem_cons_self) first quiet value
  | ifThen first second =>
      obtain ⟨test, rest, rfl, rfl, single⟩ := List.map_eq_cons_iff.mp listed
      obtain ⟨yes, rfl, rfl⟩ := List.map_eq_singleton_iff.mp single
      simp only [List.forall_mem_cons] at each
      refine fits_conditional each.1 first quiet (fun v quiet => each.2.1 _ v second quiet) ?_ value
      rintro v - same
      rw [← pure_eq_ok.mp same]
      exact fits_literal (.boolean false)
  | ifThenElse first second third =>
      obtain ⟨test, rest, rfl, rfl, pair⟩ := List.map_eq_cons_iff.mp listed
      obtain ⟨yes, rest, rfl, rfl, single⟩ := List.map_eq_cons_iff.mp pair
      obtain ⟨no, rfl, rfl⟩ := List.map_eq_singleton_iff.mp single
      simp only [List.forall_mem_cons] at each
      exact fits_conditional each.1 first quiet (fun v quiet => each.2.1 _ v second quiet)
        (fun v quiet => each.2.2.1 _ v third quiet) value
  | ifError first second =>
      obtain ⟨attempt, rest, rfl, rfl, single⟩ := List.map_eq_cons_iff.mp listed
      obtain ⟨otherwise, rfl, rfl⟩ := List.map_eq_singleton_iff.mp single
      have attempted := quiet_arguments quiet _ List.mem_cons_self
      exact fits_ifError (each attempt List.mem_cons_self) first attempted value
  | choose first others =>
      exact absurd (by simp [Code.raisingHelpers]) (notMem_raisingHelpers quiet)
  | numeric known first =>
      obtain ⟨e, rfl, rfl⟩ := List.map_eq_singleton_iff.mp listed
      exact fits_numericCall (each e List.mem_cons_self) known first quiet value
  | numericPair known first second =>
      obtain ⟨left, rest, rfl, rfl, single⟩ := List.map_eq_cons_iff.mp listed
      obtain ⟨right, rfl, rfl⟩ := List.map_eq_singleton_iff.mp single
      simp only [List.forall_mem_cons] at each
      exact fits_numericPairCall each.1 each.2.1 known first second quiet value
  | concatenate lowered =>
      subst listed
      exact fits_concatenate each lowered quiet (folded (by decide)) value
  | len first =>
      obtain ⟨e, rfl, rfl⟩ := List.map_eq_singleton_iff.mp listed
      have argument := quiet_arguments quiet _ List.mem_cons_self
      exact fits_len (each e List.mem_cons_self) first argument value
  | textual known first =>
      obtain ⟨e, rfl, rfl⟩ := List.map_eq_singleton_iff.mp listed
      have argument := quiet_arguments quiet _ List.mem_cons_self
      exact fits_textualCall (each e List.mem_cons_self) known first argument value
  | index read second third =>
      exact absurd (by simp [Code.raisingHelpers]) (notMem_raisingHelpers quiet)
  | «match» first read third =>
      exact absurd (by simp [Code.raisingHelpers]) (notMem_raisingHelpers quiet)
  | vlookup first read third fourth =>
      exact absurd (by simp [Code.raisingHelpers])
        (notMem_raisingHelpers (quiet_of_fromObject quiet))

mutual

/-- Quiet code stands for the value of its formula. -/
theorem Calm.settled : (e : Expr) → Calm scope types cell read held e.references e.calls →
    Settled scope types cell read held e
  | .literal l, _ => by
      intro t v lowered quiet value
      cases lowered
      cases value
      exact fits_literal l
  | .cell target, calm => fun t v => calm.reads target (by simp [Expr.references]) t v
  | .range .., _ => fun t v lowered => nomatch lowered
  | .unary op operand, calm => by
      intro t v lowered quiet value
      obtain ⟨t, found, same⟩ := bind_eq_ok.mp lowered
      obtain rfl := pure_eq_ok.mp same
      obtain ⟨u, computed, same⟩ := bind_eq_ok.mp value
      obtain rfl := pure_eq_ok.mp same
      exact fits_unary (fun quiet => calm.settled operand t u found quiet computed) quiet
  | .binary op left right, calm => by
      intro t v lowered quiet value
      simp only [lower, bind_eq_ok] at lowered
      obtain ⟨l, first, r, second, joined⟩ := lowered
      simp only [eval, bind_eq_ok, pure_eq_ok] at value
      obtain ⟨u, computed, u', computed', rfl⟩ := value
      have settledLeft := (calm.mono (List.subset_append_left _ _)
        (List.subset_append_left _ _)).settled left
      have settledRight := (calm.mono (List.subset_append_right _ _)
        (List.subset_append_right _ _)).settled right
      exact fits_binary (fun quiet => settledLeft l u first quiet computed)
        (fun quiet => settledRight r u' second quiet computed') joined quiet
  | .call name args, calm =>
      calm.settled_call
        (Calm.settledAll args (calm.mono (List.Subset.refl _) (List.subset_cons_self _ _)))

theorem Calm.settledAll : (args : List Expr) →
    Calm scope types cell read held (referencesOf args) (callsOf args) →
      ∀ e ∈ args, Settled scope types cell read held e
  | [], _ => nofun
  | e :: rest, calm => List.forall_mem_cons.mpr
      ⟨Calm.settled e (calm.mono (List.subset_append_left _ _) (List.subset_append_left _ _)),
        Calm.settledAll rest
          (calm.mono (List.subset_append_right _ _) (List.subset_append_right _ _))⟩

end

end Calls

end Lowering

end SheetCompiler
