import SheetCompiler.Proofs.Dependency.Order
import SheetCompiler.Proofs.Lowering.Statements

/-!
# Statements by position

What stands at a position of a program. A statement is an input, or it is the lowered formula of its
cell, and then the types that the formula was lowered with are those of the statements before it:
the types that lowering hands on are never anything else. With that the list that lowering builds
can be cut anywhere, and no later proof goes through the loop again.
-/

namespace SheetCompiler.Lowering

open Dependency (EvaluationOrder)
open Formula (Expr)

variable {w : Workbook} {scope : Scope} {types : Types} {order : List Address}
variable {inlineValues : Bool} {program before after : List Statement} {s : Statement} {a : Address}

/-- An address without a formula is passed over. -/
theorem formulas_cons_of_none (absent : scope.workbook.formula? a = none) (rest : List Address) :
    scope.formulas types (a :: rest) = scope.formulas types rest := by
  cases found : scope.workbook.cell? a with
  | none => simp only [Scope.formulas, found]
  | some c =>
      have expr : c.expr? = none := by simpa [Workbook.formula?, found] using absent
      simp only [Scope.formulas, found, expr]

/-- Formulas are lowered one after the other. -/
theorem exists_formulas_cons {e : Expr} {t : Typed} {rest : List Address} {later : List Statement}
    (found : scope.workbook.formula? a = some e) (first : lower scope types a e = .ok t)
    (others : scope.formulas (types.insert a t.type) rest = .ok later) :
    ∃ s, scope.formulas types (a :: rest) = .ok (s :: later) := by
  obtain ⟨c, present, expr⟩ := Option.bind_eq_some_iff.mp found
  simp only [Scope.formulas, present, expr]
  exact ⟨_, bind_eq_ok.mpr ⟨t, first, bind_eq_ok.mpr ⟨later, others, rfl⟩⟩⟩

theorem typesOf_append (before after : List Statement) :
    typesOf (before ++ after) =
      after.foldl (fun types s => types.insert s.cell s.type) (typesOf before) := by
  simp only [typesOf, OrderedMap.ofList, List.map_append, List.foldl_append, List.foldl_map]

/-- The statement at a position of the formulas, with the types that were known there. -/
theorem formulas_at (h : scope.formulas types order = .ok (before ++ s :: after)) :
    s.kind = .formula ∧ s.raw = rawName scope.prefixes s.cell ∧
      ∃ e, scope.workbook.formula? s.cell = some e ∧
        lower scope (before.foldl (fun types s => types.insert s.cell s.type) types) s.cell e =
          .ok ⟨s.expr, s.type⟩ := by
  induction order generalizing types before with
  | nil =>
      have empty := Except.ok.inj h
      simp at empty
  | cons a rest ih =>
      cases found : scope.workbook.formula? a with
      | none => exact ih (formulas_cons_of_none found rest ▸ h)
      | some e =>
          obtain ⟨typed, first, others, lowered, listed, h, rfl, raw, kind, rfl⟩ :=
            formulas_cons found h
          cases before with
          | nil =>
              obtain ⟨rfl, rfl⟩ := List.cons.inj listed
              exact ⟨kind, raw, e, found, lowered⟩
          | cons b before =>
              obtain ⟨rfl, rfl⟩ := List.cons.inj listed
              rw [List.foldl_cons]
              exact ih h

/-- Where the formulas fail, one of them does, and those before it have their statements. -/
theorem formulas_eq_error {err : CompileError} (failed : scope.formulas types order = .error err) :
    ∃ done a rest later e, order = done ++ a :: rest ∧ scope.formulas types done = .ok later ∧
      scope.workbook.formula? a = some e ∧
      lower scope (later.foldl (fun types s => types.insert s.cell s.type) types) a e =
        .error err := by
  induction order generalizing types with
  | nil => cases failed
  | cons a rest ih =>
      cases found : scope.workbook.formula? a with
      | none =>
          rw [formulas_cons_of_none found] at failed
          obtain ⟨done, b, rest, later, e, rfl, before, here⟩ := ih failed
          refine ⟨a :: done, b, rest, later, e, rfl, ?_, here⟩
          rw [formulas_cons_of_none found, before]
      | some e =>
          obtain ⟨c, present, expr⟩ := Option.bind_eq_some_iff.mp found
          simp only [Scope.formulas, present, expr] at failed
          rcases bind_eq_error.mp failed with first | ⟨t, first, failed⟩
          · exact ⟨[], a, rest, [], e, rfl, rfl, found, first⟩
          rcases bind_eq_error.mp failed with others | ⟨later, -, done⟩
          · obtain ⟨done, b, rest, later, e', rfl, before, here⟩ := ih others
            obtain ⟨s, whole⟩ := exists_formulas_cons found first before
            obtain ⟨t', s', later', lowered, listed, -, cell, -, -, same⟩ :=
              formulas_cons found whole
            obtain ⟨rfl, rfl⟩ := List.cons.inj listed
            obtain rfl := Except.ok.inj (first.symm.trans lowered)
            refine ⟨a :: done, b, rest, s :: later, e', rfl, whole, ?_⟩
            rw [List.foldl_cons, cell, show s.type = t.type from congrArg Typed.type same]
            exact here
          · cases done

/-- A statement is an input, or the lowered formula of its cell with the types of the statements
before it, all inputs among them. -/
theorem statement_cases (lowered : statements w inlineValues order = .ok program)
    (split : program = before ++ s :: after) :
    s ∈ (Scope.ofWorkbook w inlineValues).inputs ∨
      (s.kind = .formula ∧ s.raw = rawName (sheetPrefixes w) s.cell ∧
        (∀ i ∈ (Scope.ofWorkbook w inlineValues).inputs, i ∈ before) ∧
        ∃ e, w.formula? s.cell = some e ∧
          lower (Scope.ofWorkbook w inlineValues) (typesOf before) s.cell e =
            .ok ⟨s.expr, s.type⟩) := by
  obtain ⟨later, formulas, rfl⟩ := statements_eq_ok.mp lowered
  -- The cut lies behind the inputs, or an input stands at it.
  rcases List.append_eq_append_iff.mp split with ⟨middle, rfl, rfl⟩ | ⟨middle, inputs, rest⟩
  · obtain ⟨kind, raw, e, found, lowered⟩ := formulas_at formulas
    rw [← typesOf_append] at lowered
    exact .inr ⟨kind, raw, fun i member => List.mem_append_left _ member, e, found, lowered⟩
  · cases middle with
    | cons first middle =>
        obtain ⟨rfl, -⟩ := List.cons.inj rest
        exact .inl (inputs ▸ List.mem_append_right _ List.mem_cons_self)
    | nil =>
        rw [List.append_nil] at inputs
        rw [List.nil_append] at rest
        have whole : (Scope.ofWorkbook w inlineValues).formulas (typesOf before) order =
            .ok ([] ++ s :: after) := by
          rw [← inputs, List.nil_append, rest]
          exact formulas
        obtain ⟨kind, raw, e, found, lowered⟩ := formulas_at whole
        exact .inr ⟨kind, raw, fun i member => inputs ▸ member, e, found, lowered⟩

/-- A workbook that cannot be lowered has a formula that cannot be, behind statements that were
made. -/
theorem statements_eq_error {err : CompileError}
    (failed : statements w inlineValues order = .error err) :
    ∃ done a rest before e, order = done ++ a :: rest ∧
      statements w inlineValues done = .ok before ∧ w.formula? a = some e ∧
      lower (Scope.ofWorkbook w inlineValues) (typesOf before) a e = .error err := by
  have formulas : (Scope.ofWorkbook w inlineValues).formulas
      (typesOf (Scope.ofWorkbook w inlineValues).inputs) order = .error err := by
    rcases bind_eq_error.mp failed with formulas | ⟨later, -, done⟩
    · exact formulas
    · cases done
  obtain ⟨done, a, rest, later, e, split, before, found, here⟩ := formulas_eq_error formulas
  rw [← typesOf_append] at here
  exact ⟨done, a, rest, _, e, split, statements_eq_ok.mpr ⟨later, before, rfl⟩, found, here⟩

/-- Every formula cell has a statement. -/
theorem exists_formula_statement (ordered : EvaluationOrder w order)
    (lowered : statements w inlineValues order = .ok program) (formula : (w.formula? a).isSome) :
    ∃ s ∈ program, s.cell = a ∧ s.kind = .formula := by
  have isFormula : ∀ b ∈ order, (w.formula? b).isSome := fun b => (ordered.mem_iff b).mp
  obtain ⟨later, formulas, rfl⟩ := statements_eq_ok.mp lowered
  obtain ⟨cells, each⟩ := formulas_spec isFormula formulas
  have listed : a ∈ later.map Statement.cell := by
    rw [cells]
    exact (ordered.mem_iff a).mpr formula
  obtain ⟨s, member, rfl⟩ := List.mem_map.mp listed
  exact ⟨s, List.mem_append_right _ member, rfl, (each s member).1⟩

/-- A statement of the formula kind is a lowered formula. -/
theorem exists_lower_of_kind (lowered : statements w inlineValues order = .ok program)
    (member : s ∈ program) (kind : s.kind = .formula) : ∃ types e, w.formula? s.cell = some e ∧
      lower (Scope.ofWorkbook w inlineValues) types s.cell e = .ok ⟨s.expr, s.type⟩ := by
  obtain ⟨before, after, split⟩ := List.append_of_mem member
  rcases statement_cases lowered split with input | ⟨-, -, -, e, found, code⟩
  · obtain ⟨b, label, rfl, -, -⟩ := mem_inputs input
    cases kind
  · exact ⟨_, e, found, code⟩

end SheetCompiler.Lowering
