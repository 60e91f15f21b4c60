import SheetCompiler.Proofs.Dependency.Order
import SheetCompiler.Proofs.Evaluation.Memory
import SheetCompiler.Proofs.Lowering.Expressions
import SheetCompiler.Proofs.Lowering.Statements

/-!
# Generated programs compute the workbook

The statements of a workbook of the numeric fragment, run one after the other, leave behind what its
formula cells show. Between two statements the store holds the literals of all value cells and the
results of the formulas so far, under names that no two cells share; that is what makes references
agree with the values read, and so carries the next formula over.
-/

namespace SheetCompiler.Lowering

open Code (ValueType Store)
open Dependency (Graph)
open Evaluation (valueWithin HasValue valueWithin_literal valueWithin_formula)
open Formula (Expr)

section Runs

variable {store store' : Store} {name : String}

theorem runAll_append (store : Store) (first second : List Statement) :
    runAll store (first ++ second) = (runAll store first).bind fun store' =>
      runAll store' second := by
  induction first generalizing store with
  | nil => rfl
  | cons s rest ih =>
      rw [List.cons_append, runAll, runAll]
      cases s.run store with
      | none => rfl
      | some store' => exact ih store'

/-- A statement leaves the results of the others alone. -/
theorem Statement.get?_of_run {s : Statement} (h : s.run store = some store')
    (other : s.raw ≠ name) :
    store'.get? name = store.get? name := by
  have unchanged (held : Coerced Literal) :
      (store.insert s.raw held).get? name = store.get? name := by
    rw [OrderedMap.get?_insert, if_neg other.symm]
  rw [Statement.run] at h
  split at h
  · split at h
    · cases h
      exact unchanged _
    · cases h
  · cases h
    exact unchanged _
  · cases h

theorem get?_of_runAll {program : List Statement} (h : runAll store program = some store')
    (others : ∀ s ∈ program, s.raw ≠ name) : store'.get? name = store.get? name := by
  induction program generalizing store with
  | nil =>
      cases h
      rfl
  | cons s rest ih =>
      obtain ⟨next, first, later⟩ := Option.bind_eq_some_iff.mp h
      rw [ih later fun s member => others s (List.mem_cons_of_mem _ member)]
      exact Statement.get?_of_run first (others s List.mem_cons_self)

/-- Literals are left behind as they are, as long as a name has one literal only. -/
theorem runAll_literals {inputs : List Statement} (store : Store)
    (literal : ∀ s ∈ inputs, ∃ l, s.expr = .literal l ∧ s.type = .ofLiteral l)
    (single : ∀ s ∈ inputs, ∀ other ∈ inputs, s.raw = other.raw → s.expr = other.expr) :
    ∃ store', runAll store inputs = some store' ∧
      ∀ s ∈ inputs, ∀ l, s.expr = .literal l → store'.get? s.raw = some (.ok l) := by
  induction inputs generalizing store with
  | nil => exact ⟨store, rfl, by simp⟩
  | cons s rest ih =>
      obtain ⟨l, expr, type⟩ := literal s List.mem_cons_self
      have first : s.run store = some (store.insert s.raw (.ok l)) := by
        simp [Statement.run, expr, type, Code.Expr.run]
      obtain ⟨store', later, found⟩ := ih (store.insert s.raw (.ok l))
        (fun s member => literal s (List.mem_cons_of_mem _ member))
        (fun s member other member' =>
          single s (List.mem_cons_of_mem _ member) other (List.mem_cons_of_mem _ member'))
      refine ⟨store', Option.bind_eq_some_iff.mpr ⟨_, first, later⟩, ?_⟩
      intro other member l' expr'
      rcases List.mem_cons.mp member with rfl | member
      · by_cases again : ∃ repeated ∈ rest, repeated.raw = other.raw
        · obtain ⟨repeated, member, same⟩ := again
          rw [← same]
          refine found repeated member l' ?_
          rw [← expr']
          exact single repeated (List.mem_cons_of_mem _ member) other List.mem_cons_self same
        · rw [get?_of_runAll later fun s member same => again ⟨s, member, same⟩,
            OrderedMap.get?_insert_self]
          rw [expr] at expr'
          cases expr'
          rfl
      · exact found other member l' expr'

end Runs

variable {w : Workbook} {a : Address} {e : Expr}

/-- Running the inputs leaves every literal of the workbook behind. -/
theorem runAll_inputs (w : Workbook) : ∃ store,
    runAll .empty (Scope.ofWorkbook w false).inputs = some store ∧
      ∀ a l, w.literal? a = some l → store.get? (rawName (sheetPrefixes w) a) = some (.ok l) := by
  have literal : ∀ s ∈ (Scope.ofWorkbook w false).inputs,
      ∃ l, s.expr = .literal l ∧ s.type = .ofLiteral l := by
    intro s member
    obtain ⟨a, label, rfl, -⟩ := mem_inputs member
    exact ⟨_, rfl, rfl⟩
  obtain ⟨store, ran, found⟩ := runAll_literals .empty literal fun s member other member' same => by
    obtain ⟨a, label, rfl, -, named⟩ := mem_inputs member
    obtain ⟨b, label', rfl, -, named'⟩ := mem_inputs member'
    rw [eq_of_rawName named named' same]
    rfl
  refine ⟨store, ran, fun a l found' => ?_⟩
  obtain ⟨label, member⟩ := input_mem_inputs (Scope.ofWorkbook w false) found'
  exact found _ member l rfl

section Results

variable {store : Store}

/-- A result of the given type: errors have every type. -/
def HeldAs (type : ValueType) (held : Coerced Literal) : Prop :=
  ∀ l, held = .ok l → .ofLiteral l = type

/-- A name computes the result that was left behind under it. -/
theorem computes_ident {name : String} {held : Coerced Literal} {type : ValueType}
    (found : store.get? name = some held) (typed : HeldAs type held) :
    Computes store ⟨.ident name, type⟩ (heldValue held) := by
  refine ⟨?_, fun constant => nomatch constant⟩
  simp only [Code.Expr.run, found]
  cases held with
  | ok l => exact .value l (typed l rfl)
  | error error => exact .error error

/-- A statement leaves behind what its expression computes. -/
theorem Computes.run {s : Statement} {v : Value} (h : Computes store ⟨s.expr, s.type⟩ v) :
    ∃ held, s.run store = some (store.insert s.raw held) ∧ v = heldValue held ∧
      HeldAs s.type held := by
  obtain ⟨l, run, type, rfl⟩ | ⟨error, run, rfl⟩ := h.cases
  · simp only at run type
    refine ⟨.ok l, ?_, rfl, fun l' same => Except.ok.inj same ▸ type⟩
    simp only [Statement.run, run, if_pos type]
  · simp only at run
    refine ⟨.error error, by simp only [Statement.run, run], rfl, ?_⟩
    intro l' same
    cases same

end Results

section Formulas

/-- The state between two statements: literals are found under the names of value cells, and the
results of the formulas so far, which follow references no deeper than `depth`, under theirs. -/
structure Ready (w : Workbook) (types : Types) (store : Store) (depth : Nat) : Prop where
  value : ∀ {a l}, w.literal? a = some l → store.get? (rawName (sheetPrefixes w) a) = some (.ok l)
  /-- The type that lowering chose is the only one that the fragment gives the formula. -/
  typed : ∀ {a e type other}, w.formula? a = some e → types.get? a = some type →
    e.Numeric w other → type = other
  formula : ∀ {a type}, (w.formula? a).isSome → types.get? a = some type →
    ∃ held, store.get? (rawName (sheetPrefixes w) a) = some held ∧ HeldAs type held ∧
      valueWithin w (depth + 1) a = .ok (heldValue held)

variable {types : Types} {store : Store} {depth : Nat}

/-- What a ready store holds is what references read. -/
theorem Ready.agreement (ready : Ready w types store depth) :
    Agreement (.ofWorkbook w false) types store (valueWithin w (depth + 1)) := by
  constructor
  · intro cell a l t literal lowered
    rw [Scope.reference, show (Scope.ofWorkbook w false).workbook.literal? a = some l from literal]
      at lowered
    cases lowered
    refine ⟨rfl, valueWithin_literal literal depth, computes_ident (ready.value literal) ?_⟩
    exact fun l' same => congrArg _ (Except.ok.inj same).symm
  · intro cell a e type t found belongs lowered
    rw [Scope.reference, show (Scope.ofWorkbook w false).workbook.literal? a = none from
      Workbook.literal?_eq_none_of_formula found] at lowered
    cases known : types.get? a with
    | none =>
        simp only [known, show ((Scope.ofWorkbook w false).workbook.cell? a).isSome from
          Workbook.isSome_cell?_of_formula found] at lowered
        cases lowered
    | some type' =>
        simp only [known] at lowered
        cases lowered
        obtain ⟨held, stored, typed, value⟩ :=
          ready.formula (Option.isSome_iff_exists.mpr ⟨e, found⟩) known
        exact ⟨ready.typed found known belongs, _, value, computes_ident stored typed⟩
  · intro a absent
    simp only [valueWithin, show w.cell? a = none from absent]

/-- Running the statement of a formula makes the store ready for formulas that read it. -/
theorem Ready.step (ready : Ready w types store depth) (fragment : w.Numeric)
    (found : w.formula? a = some e) {typed : Typed} {s : Statement}
    (lowered : lower (.ofWorkbook w false) types a e = .ok typed)
    (code : (⟨s.expr, s.type⟩ : Typed) = typed) (raw : s.raw = rawName (sheetPrefixes w) a) :
    ∃ store', s.run store = some store' ∧
      Ready w (types.insert a typed.type) store' (depth + 1) := by
  subst code
  have agrees {type : ValueType} (belongs : e.Numeric w type) :=
    ready.agreement.agrees fragment belongs _ lowered
  obtain ⟨type, belongs⟩ := fragment a e found
  obtain ⟨rfl, v, value, computes⟩ := agrees belongs
  obtain ⟨held, run, rfl, typed⟩ := computes.run
  -- Only the name of the formula cell itself is written to.
  have other {b : Address} (different : b ≠ a) (present : (w.cell? b).isSome) :
      (store.insert s.raw held).get? (rawName (sheetPrefixes w) b) =
        store.get? (rawName (sheetPrefixes w) b) := by
    rw [OrderedMap.get?_insert, if_neg]
    intro same
    exact different (eq_of_rawName (mem_namedSheets_of_isSome present)
      (mem_namedSheets_of_isSome (Workbook.isSome_cell?_of_formula found)) (same.trans raw))
  refine ⟨_, run, ?_, ?_, ?_⟩
  · intro b l literal
    have different : b ≠ a := by
      rintro rfl
      rw [Workbook.literal?_eq_none_of_formula found] at literal
      cases literal
    rw [other different (Workbook.isSome_cell?_of_literal literal)]
    exact ready.value literal
  · intro b e' type type' found' known belongs'
    rw [OrderedMap.get?_insert] at known
    split at known
    case isTrue same =>
      subst same
      cases found.symm.trans found'
      rw [← Option.some.inj known]
      exact (agrees belongs').1
    case isFalse => exact ready.typed found' known belongs'
  · intro b type isFormula known
    rw [OrderedMap.get?_insert] at known
    split at known
    case isTrue same =>
      subst same
      refine ⟨held, ?_, Option.some.inj known ▸ typed, ?_⟩
      · rw [← raw, OrderedMap.get?_insert_self]
      · rw [valueWithin_formula found, value]
    case isFalse different =>
      obtain ⟨e', found'⟩ := Option.isSome_iff_exists.mp isFormula
      obtain ⟨before, stored, typed, value⟩ := ready.formula isFormula known
      refine ⟨before, ?_, typed, Evaluation.valueWithin_succ value⟩
      rw [other different (Workbook.isSome_cell?_of_formula found'), stored]

/-- Running the statements of formulas, each reading only cells whose statements ran. -/
theorem Ready.run (ready : Ready w types store depth) (fragment : w.Numeric) {order : List Address}
    {later : List Statement} (isFormula : ∀ a ∈ order, (w.formula? a).isSome)
    (h : (Scope.ofWorkbook w false).formulas types order = .ok later) :
    ∃ types' store' depth', runAll store later = some store' ∧ Ready w types' store' depth' ∧
      ∀ a, a ∈ order ∨ (types.get? a).isSome → (types'.get? a).isSome := by
  induction order generalizing types store depth later with
  | nil =>
      cases h
      exact ⟨types, store, depth, rfl, ready, by simp⟩
  | cons a rest ih =>
      obtain ⟨e, found⟩ := Option.isSome_iff_exists.mp (isFormula a List.mem_cons_self)
      obtain ⟨typed, s, others, lowered, rfl, h, -, raw, -, code⟩ := formulas_cons found h
      obtain ⟨next, first, ready⟩ := ready.step fragment found lowered code raw
      obtain ⟨types', store', depth', later, ready, known⟩ :=
        ih ready (fun a member => isFormula a (List.mem_cons_of_mem _ member)) h
      refine ⟨types', store', depth', Option.bind_eq_some_iff.mpr ⟨next, first, later⟩, ready, ?_⟩
      intro b member
      refine known b ?_
      rw [List.mem_cons] at member
      rw [OrderedMap.get?_insert]
      split
      case isTrue => exact .inr rfl
      case isFalse different => exact member.imp_left fun inside => inside.resolve_left different

end Formulas

theorem shown_heldValue (w : Workbook) (cell : Address) (held : Coerced Literal) :
    Evaluation.shown w cell (heldValue held) = heldValue held := by
  cases held with
  | error error => rfl
  | ok l => cases l <;> rfl

/-- Run one after the other, the statements of a workbook of the numeric fragment give, for every
formula cell, exactly the value or the error that the cell shows. -/
theorem runAll_statements_evaluateCell {w : Workbook} {order : List Address}
    {program : List Statement} (ordered : (Graph.ofWorkbook w).order = .ok order)
    (lowered : statements w false order = .ok program) (fragment : w.Numeric) :
    ∃ store, runAll .empty program = some store ∧
      (∀ cell, (w.formula? cell).isSome → ∃ s ∈ program, s.kind = .formula ∧ s.cell = cell) ∧
      ∀ s ∈ program, s.kind = .formula → ∃ held, store.get? s.raw = some held ∧
        Evaluation.evaluateCell w s.cell = .ok (heldValue held) := by
  have isFormula := (Graph.evaluationOrder_of_order_eq_ok ordered).mem_iff
  obtain ⟨later, formulas, rfl⟩ := statements_eq_ok.mp lowered
  obtain ⟨cells, each⟩ := formulas_spec (fun a member => (isFormula a).mp member) formulas
  obtain ⟨start, inputs, literals⟩ := runAll_inputs w
  have ready : Ready w (typesOf (Scope.ofWorkbook w false).inputs) start 0 := by
    refine ⟨literals _ _, fun found known => ?_, fun found known => ?_⟩
    · rw [get?_typesOf_inputs (Option.isSome_iff_exists.mpr ⟨_, found⟩)] at known
      cases known
    · rw [get?_typesOf_inputs found] at known
      cases known
  obtain ⟨types, store, depth, ran, ready, known⟩ :=
    ready.run fragment (fun a member => (isFormula a).mp member) formulas
  refine ⟨store, ?_, ?_, ?_⟩
  · rw [runAll_append, inputs]
    exact ran
  · intro cell found
    rw [← isFormula, ← cells] at found
    obtain ⟨s, member, rfl⟩ := List.mem_map.mp found
    exact ⟨s, List.mem_append_right _ member, (each s member).1, rfl⟩
  · intro s member kind
    have member : s ∈ later := by
      refine (List.mem_append.mp member).resolve_left fun input => ?_
      obtain ⟨a, label, rfl, -⟩ := mem_inputs input
      cases kind
    have placed : s.cell ∈ order := cells ▸ List.mem_map_of_mem member
    obtain ⟨type, typed⟩ := Option.isSome_iff_exists.mp (known s.cell (.inl placed))
    obtain ⟨held, stored, -, value⟩ := ready.formula ((isFormula s.cell).mp placed) typed
    refine ⟨held, ?_, ?_⟩
    · rw [(each s member).2]
      exact stored
    · rw [Evaluation.evaluateCell_eq_ok ⟨depth + 1, value⟩, shown_heldValue]

/-- The sum of the cells from `A1` to `A3`, over `A1 - 2`. -/
def quotient : Expr :=
  .binary .div (.call "SUM" [.range ⟨"S", 0, 0⟩ ⟨"S", 2, 0⟩])
    (.binary .sub (.cell ⟨"S", 0, 0⟩) (.literal (.integer 2)))

/-- What is shown instead of `B1` where that is an error. -/
def replacement : Expr :=
  .call "IFERROR" [.cell ⟨"S", 0, 1⟩, .cell ⟨"S", 0, 0⟩]

/-- A division by zero in `B1`, of a sum over a number, a text and a missing cell, and its
replacement in `B2`. -/
def guardedQuotient : Workbook where
  name := "Quotient"
  sheets := ["S"]
  cells := .ofList [(⟨"S", 0, 0⟩, ⟨.value (.integer 2), none, none⟩),
    (⟨"S", 1, 0⟩, ⟨.value (.text "none"), none, none⟩),
    (⟨"S", 0, 1⟩, ⟨.formula "SUM(A1:A3)/(A1-2)" quotient, none, none⟩),
    (⟨"S", 1, 1⟩, ⟨.formula "IFERROR(B1,A1)" replacement, none, none⟩)]

theorem guardedQuotient_numeric : guardedQuotient.Numeric := by
  have value : Expr.Numeric guardedQuotient (.cell ⟨"S", 0, 0⟩) .integer :=
    .value (l := .integer 2) rfl rfl
  have quotient : quotient.Numeric guardedQuotient .number := by
    refine .arithmetic (by decide) (.sequence (fun _ => .number) rfl (by decide) ?_)
      (.arithmetic (by decide) value (.integer 2))
    simp [Expr.isRange]
  have replacement : replacement.Numeric guardedQuotient .number :=
    .ifError rfl (.formula (a := ⟨"S", 0, 1⟩) rfl quotient) value
  intro a e found
  have listed : (a, e) ∈ guardedQuotient.formulas.toList := by
    rw [← OrderedMap.get?_eq_some_iff]
    simpa using found
  have formulas : guardedQuotient.formulas.toList =
      [(⟨"S", 0, 1⟩, Lowering.quotient), (⟨"S", 1, 1⟩, Lowering.replacement)] := rfl
  simp only [formulas, List.mem_cons, Prod.mk.injEq, List.not_mem_nil, or_false] at listed
  obtain ⟨rfl, rfl⟩ | ⟨rfl, rfl⟩ := listed
  · exact ⟨_, quotient⟩
  · exact ⟨_, replacement⟩

/-- The error of `B1` is held back, and `B2` replaces it. -/
theorem guardedQuotient_runs :
    (Graph.ofWorkbook guardedQuotient).order = .ok [⟨"S", 0, 1⟩, ⟨"S", 1, 1⟩] ∧
      guardedQuotient.Numeric ∧
      ∃ program, statements guardedQuotient false [⟨"S", 0, 1⟩, ⟨"S", 1, 1⟩] = .ok program ∧
        ∃ store, runAll .empty program = some store ∧
          (∀ cell, (guardedQuotient.formula? cell).isSome →
            ∃ s ∈ program, s.kind = .formula ∧ s.cell = cell) ∧
          ∀ s ∈ program, s.kind = .formula → ∃ held, store.get? s.raw = some held ∧
            Evaluation.evaluateCell guardedQuotient s.cell = .ok (heldValue held) := by
  have ordered : (Graph.ofWorkbook guardedQuotient).order = .ok [⟨"S", 0, 1⟩, ⟨"S", 1, 1⟩] := by cbv
  have referenced : directlyReferenced guardedQuotient = [⟨"S", 0, 0⟩, ⟨"S", 0, 1⟩] := by cbv
  have types : typesOf (Scope.ofWorkbook guardedQuotient false).inputs =
      .ofList [(⟨"S", 0, 0⟩, .integer), (⟨"S", 1, 0⟩, .text)] := by
    rw [typesOf_inputs, referenced]
    rfl
  obtain ⟨later, formulas⟩ : ∃ later, (Scope.ofWorkbook guardedQuotient false).formulas
      (.ofList [(⟨"S", 0, 0⟩, .integer), (⟨"S", 1, 0⟩, .text)]) [⟨"S", 0, 1⟩, ⟨"S", 1, 1⟩] =
        .ok later :=
    ⟨_, rfl⟩
  rw [← types] at formulas
  obtain ⟨program, lowered⟩ : ∃ program,
      statements guardedQuotient false [⟨"S", 0, 1⟩, ⟨"S", 1, 1⟩] = .ok program :=
    ⟨_, statements_eq_ok.mpr ⟨later, formulas, rfl⟩⟩
  exact ⟨ordered, guardedQuotient_numeric, program, lowered,
    runAll_statements_evaluateCell ordered lowered guardedQuotient_numeric⟩

end SheetCompiler.Lowering
