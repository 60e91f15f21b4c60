import SheetCompiler.Lowering.Basic
import SheetCompiler.Proofs.Except
import SheetCompiler.Proofs.Lowering.RawName
import SheetCompiler.Proofs.Workbook

/-!
# The statements of a workbook

Which statements there are: an input for each value cell and each missing cell that is referenced,
and a formula for each formula cell, in the given order.
-/

namespace SheetCompiler.Lowering

open Formula (Expr)

variable {w : Workbook} {scope : Scope} {types : Types} {a : Address} {e : Expr}

theorem mem_namedSheets_of_isSome (h : (w.cell? a).isSome) :
    a.sheet ∈ namedSheets w :=
  mem_namedSheets_of_mentioned (.inr (OrderedMap.mem_keys_iff.mpr h))

section Inputs

/-- The inputs stand before the formulas. -/
def Scope.inputs (scope : Scope) : List Statement :=
  scope.valueInputs ++ scope.missingInputs

/-- What the input of a cell is set to. -/
def inputLiteral (w : Workbook) (a : Address) : Literal :=
  (w.literal? a).getD (.integer 0)

/-- The inputs are the literals of value cells, and zeros for missing cells. -/
theorem mem_inputs {s : Statement} (h : s ∈ scope.inputs) :
    ∃ a label, s = scope.input a label (inputLiteral scope.workbook a) ∧
      scope.workbook.formula? a = none ∧ a.sheet ∈ namedSheets scope.workbook := by
  rcases List.mem_append.mp h with value | missing
  · obtain ⟨⟨a, c⟩, entry, found⟩ := List.mem_filterMap.mp value
    obtain ⟨l, literal, rfl⟩ := Option.map_eq_some_iff.mp found
    have present : scope.workbook.cell? a = some c := OrderedMap.get?_eq_some_iff.mpr entry
    have found : scope.workbook.literal? a = some l :=
      Option.bind_eq_some_iff.mpr ⟨c, present, literal⟩
    refine ⟨a, c.label, ?_, ?_, mem_namedSheets_of_isSome (Workbook.isSome_cell?_of_literal found)⟩
    · rw [inputLiteral, found]
      rfl
    · by_contra other
      obtain ⟨e, formula⟩ := Option.ne_none_iff_exists'.mp other
      rw [Workbook.literal?_eq_none_of_formula formula] at found
      cases found
  · obtain ⟨a, member, rfl⟩ := List.mem_map.mp missing
    obtain ⟨referenced, absent⟩ := List.mem_filter.mp member
    rw [Option.isNone_iff_eq_none] at absent
    refine ⟨a, none, ?_, ?_, mem_namedSheets_of_mentioned (.inl referenced)⟩
    · simp [inputLiteral, Workbook.literal?, absent]
    · simp [Workbook.formula?, absent]

/-- No formula cell has a type before its statement. -/
theorem get?_typesOf_inputs (h : (scope.workbook.formula? a).isSome) :
    (typesOf scope.inputs).get? a = none := by
  by_contra known
  obtain ⟨type, known⟩ := Option.ne_none_iff_exists'.mp known
  obtain ⟨s, member, entry⟩ := List.mem_map.mp (OrderedMap.mem_of_get?_ofList known)
  obtain ⟨b, label, rfl, other, -⟩ := mem_inputs member
  cases entry
  rw [show scope.workbook.formula? (scope.input b label _).cell = none from other] at h
  cases h

/-- The types of the inputs can be told without their names. -/
theorem typesOf_inputs (w : Workbook) (inlineValues : Bool) :
    typesOf (Scope.ofWorkbook w inlineValues).inputs = .ofList
      ((w.cells.toList.filterMap fun (a, c) => c.literal?.map fun l => (a, .ofLiteral l)) ++
        ((directlyReferenced w).filter fun a => (w.cell? a).isNone).map fun a =>
          (a, .integer)) := by
  rw [typesOf, Scope.inputs, List.map_append, Scope.valueInputs, Scope.missingInputs,
    List.map_filterMap, List.map_map]
  simp only [Option.map_map]
  rfl

theorem input_mem_inputs (scope : Scope) {l : Literal}
    (h : scope.workbook.literal? a = some l) : ∃ label, scope.input a label l ∈ scope.inputs := by
  obtain ⟨c, present, literal⟩ := Option.bind_eq_some_iff.mp h
  refine ⟨c.label, List.mem_append_left _
    (List.mem_filterMap.mpr ⟨(a, c), OrderedMap.get?_eq_some_iff.mp present, ?_⟩)⟩
  simp only [literal, Option.map_some]

end Inputs

section Formulas

/-- The statement of the first formula, and those of the others. -/
theorem formulas_cons {rest : List Address} {later : List Statement}
    (found : scope.workbook.formula? a = some e)
    (h : scope.formulas types (a :: rest) = .ok later) :
    ∃ typed s others, lower scope types a e = .ok typed ∧ later = s :: others ∧
      scope.formulas (types.insert a typed.type) rest = .ok others ∧
      s.cell = a ∧ s.raw = rawName scope.prefixes a ∧ s.kind = .formula ∧
      (⟨s.expr, s.type⟩ : Typed) = typed := by
  obtain ⟨c, present, expr⟩ := Option.bind_eq_some_iff.mp found
  simp only [Scope.formulas, present, expr, bind_eq_ok, pure_eq_ok] at h
  obtain ⟨typed, lowered, others, rest, rfl⟩ := h
  exact ⟨typed, _, others, lowered, rfl, rest, rfl, rfl, rfl, rfl⟩

/-- The statements of formula cells stand in the given order. -/
theorem formulas_spec {order : List Address} {later : List Statement}
    (isFormula : ∀ a ∈ order, (scope.workbook.formula? a).isSome)
    (h : scope.formulas types order = .ok later) :
    later.map Statement.cell = order ∧
      ∀ s ∈ later, s.kind = .formula ∧ s.raw = rawName scope.prefixes s.cell := by
  induction order generalizing types later with
  | nil =>
      cases h
      simp
  | cons a rest ih =>
      obtain ⟨e, found⟩ := Option.isSome_iff_exists.mp (isFormula a List.mem_cons_self)
      obtain ⟨typed, s, others, -, rfl, h, rfl, raw, kind, -⟩ := formulas_cons found h
      obtain ⟨cells, each⟩ := ih (fun a member => isFormula a (List.mem_cons_of_mem _ member)) h
      refine ⟨by rw [List.map_cons, cells], fun other member => ?_⟩
      rcases List.mem_cons.mp member with rfl | member
      · exact ⟨kind, raw⟩
      · exact each other member

/-- All statements of a workbook: the inputs, then the formulas. -/
theorem statements_eq_ok {inlineValues : Bool} {order : List Address} {program : List Statement} :
    statements w inlineValues order = .ok program ↔
      ∃ later, (Scope.ofWorkbook w inlineValues).formulas
          (typesOf (Scope.ofWorkbook w inlineValues).inputs) order = .ok later ∧
        (Scope.ofWorkbook w inlineValues).inputs ++ later = program := by
  constructor
  · intro lowered
    obtain ⟨later, formulas, same⟩ := bind_eq_ok.mp lowered
    exact ⟨later, formulas, pure_eq_ok.mp same⟩
  · rintro ⟨later, formulas, rfl⟩
    exact bind_eq_ok.mpr ⟨later, formulas, rfl⟩

end Formulas

end SheetCompiler.Lowering
