import Mathlib.Data.List.Nodup
import SheetCompiler.Proofs.Lowering.Positions
import SheetCompiler.Proofs.Lowering.Typing

/-!
# Programs are well formed and well typed

A program declares each cell once, by a name of its own, and uses a name only after its declaration.
So the statements before a position say what every name there means: the types that a formula was
lowered with are the types that its identifiers are declared with, and the typing of lowered
formulas carries over to programs. That names are declared before they are used needs no argument of
its own; it is what typing says about identifiers.
-/

namespace SheetCompiler.Lowering

open Code (Context HasType ValueType)
open Dependency (EvaluationOrder Graph)
open Formula (Expr)

variable {w : Workbook} {inlineValues : Bool} {order : List Address}
variable {program before after : List Statement} {s : Statement} {a : Address}

section Inputs

theorem mem_directlyReferenced_iff :
    a ∈ directlyReferenced w ↔ ∃ c e, w.formula? c = some e ∧ a ∈ directReferences e := by
  simp only [directlyReferenced, mem_distinct, List.mem_flatMap, OrderedMap.values, List.mem_map,
    Prod.exists, exists_eq_right, ← OrderedMap.get?_eq_some_iff, Workbook.get?_formulas]
  constructor
  · rintro ⟨e, ⟨c, found⟩, reference⟩
    exact ⟨c, e, found, reference⟩
  · rintro ⟨c, e, found, reference⟩
    exact ⟨e, ⟨c, found⟩, reference⟩

/-- The inputs are the value cells, and the missing cells that formulas reference one by one. -/
theorem exists_mem_inputs_iff (scope : Scope) :
    (∃ s ∈ scope.inputs, s.cell = a) ↔ (scope.workbook.literal? a).isSome ∨
      scope.workbook.cell? a = none ∧ a ∈ directlyReferenced scope.workbook := by
  constructor
  · rintro ⟨s, member, rfl⟩
    rcases List.mem_append.mp member with value | missing
    · obtain ⟨⟨a, c⟩, entry, found⟩ := List.mem_filterMap.mp value
      obtain ⟨l, literal, rfl⟩ := Option.map_eq_some_iff.mp found
      have present : scope.workbook.cell? a = some c := OrderedMap.get?_eq_some_iff.mpr entry
      exact .inl
        (Option.isSome_iff_exists.mpr ⟨l, Option.bind_eq_some_iff.mpr ⟨c, present, literal⟩⟩)
    · obtain ⟨a, listed, rfl⟩ := List.mem_map.mp missing
      obtain ⟨referenced, absent⟩ := List.mem_filter.mp listed
      exact .inr ⟨Option.isNone_iff_eq_none.mp absent, referenced⟩
  · rintro (value | ⟨absent, referenced⟩)
    · obtain ⟨l, literal⟩ := Option.isSome_iff_exists.mp value
      obtain ⟨label, member⟩ := input_mem_inputs scope literal
      exact ⟨_, member, rfl⟩
    · refine ⟨scope.input a none (.integer 0), List.mem_append_right _ ?_, rfl⟩
      refine List.mem_map.mpr ⟨a, List.mem_filter.mpr ⟨referenced, ?_⟩, rfl⟩
      rw [absent]
      rfl

theorem nodup_cells_inputs (scope : Scope) : (scope.inputs.map Statement.cell).Nodup := by
  rw [Scope.inputs, List.map_append, List.nodup_append]
  refine ⟨?_, ?_, ?_⟩
  · refine List.pairwise_map.mpr (scope.workbook.cells.ascending.filterMap _ ?_)
    intro x y below s first s' second same
    obtain ⟨l, -, rfl⟩ := Option.map_eq_some_iff.mp first
    obtain ⟨l', -, rfl⟩ := Option.map_eq_some_iff.mp second
    have equal : x.1 = y.1 := same
    have self : compare y.1 y.1 = .eq := Std.ReflCmp.compare_self
    rw [equal, self] at below
    cases below
  · have cells : scope.missingInputs.map Statement.cell =
        (directlyReferenced scope.workbook).filter fun a => (scope.workbook.cell? a).isNone := by
      rw [Scope.missingInputs, List.map_map]
      exact List.map_id _
    rw [cells]
    exact (nodup_distinct _).filter _
  · intro a value b missing same
    subst same
    obtain ⟨s, member, rfl⟩ := List.mem_map.mp value
    obtain ⟨⟨c, content⟩, entry, found⟩ := List.mem_filterMap.mp member
    obtain ⟨l, -, rfl⟩ := Option.map_eq_some_iff.mp found
    obtain ⟨s', member, same⟩ := List.mem_map.mp missing
    obtain ⟨c', listed, rfl⟩ := List.mem_map.mp member
    have absent := (List.mem_filter.mp listed).2
    have equal : c' = c := same
    have present : scope.workbook.cell? c = some content := OrderedMap.get?_eq_some_iff.mpr entry
    rw [equal, present] at absent
    cases absent

end Inputs

section Names

/-- Statements are named after their cells, which are on sheets with a prefix. -/
theorem raw_of_mem (lowered : statements w inlineValues order = .ok program)
    (member : s ∈ program) :
    s.raw = rawName (sheetPrefixes w) s.cell ∧ s.cell.sheet ∈ namedSheets w := by
  obtain ⟨before, after, split⟩ := List.append_of_mem member
  rcases statement_cases lowered split with input | ⟨-, raw, -, e, found, -⟩
  · obtain ⟨a, label, rfl, -, named⟩ := mem_inputs input
    exact ⟨rfl, named⟩
  · exact ⟨raw, mem_namedSheets_of_isSome (Workbook.isSome_cell?_of_formula found)⟩

theorem nodup_cells (ordered : EvaluationOrder w order)
    (lowered : statements w inlineValues order = .ok program) :
    (program.map Statement.cell).Nodup := by
  obtain ⟨later, formulas, rfl⟩ := statements_eq_ok.mp lowered
  have isFormula : ∀ b ∈ order, (w.formula? b).isSome := fun b => (ordered.mem_iff b).mp
  rw [List.map_append, (formulas_spec isFormula formulas).1, List.nodup_append]
  refine ⟨nodup_cells_inputs _, ordered.nodup, ?_⟩
  intro a input b listed same
  subst same
  obtain ⟨s, member, rfl⟩ := List.mem_map.mp input
  obtain ⟨c, label, rfl, none, -⟩ := mem_inputs member
  have some : (w.formula? c).isSome := isFormula c listed
  rw [show w.formula? c = Option.none from none] at some
  cases some

/-- No two statements declare the same name. -/
theorem nodup_raws (ordered : EvaluationOrder w order)
    (lowered : statements w inlineValues order = .ok program) :
    (program.map Statement.raw).Nodup := by
  have names : program.map Statement.raw =
      (program.map Statement.cell).map (rawName (sheetPrefixes w)) := by
    rw [List.map_map]
    exact List.map_congr_left fun s member => (raw_of_mem lowered member).1
  rw [names]
  refine (nodup_cells ordered lowered).map_on fun a first b second same => ?_
  obtain ⟨s, member, rfl⟩ := List.mem_map.mp first
  obtain ⟨s', member', rfl⟩ := List.mem_map.mp second
  exact eq_of_rawName (raw_of_mem lowered member).2 (raw_of_mem lowered member').2 same

/-- The types that statements declare their names with. -/
def declarations (before : List Statement) : Context :=
  fun name => (before.find? (·.raw == name)).map Statement.type

theorem declarations_raw (nodup : (before.map Statement.raw).Nodup) (member : s ∈ before) :
    declarations before s.raw = some s.type := by
  have exists_found : (before.find? (·.raw == s.raw)).isSome :=
    List.find?_isSome.mpr ⟨s, member, beq_self_eq_true _⟩
  obtain ⟨d, found⟩ := Option.isSome_iff_exists.mp exists_found
  have named : d.raw = s.raw := by simpa using List.find?_some found
  have same := List.inj_on_of_nodup_map nodup (List.mem_of_find?_eq_some found) member named
  rw [declarations, found, same]
  rfl

theorem exists_declaration {name : String} (h : (declarations before name).isSome) :
    ∃ d ∈ before, d.raw = name := by
  rw [declarations, Option.isSome_map] at h
  obtain ⟨d, found⟩ := Option.isSome_iff_exists.mp h
  exact ⟨d, List.mem_of_find?_eq_some found, by simpa using List.find?_some found⟩

end Names

section Positions

/-- What stands before a formula: all inputs, and every statement under a name of its own. -/
structure Ahead (w : Workbook) (inlineValues : Bool) (before : List Statement) : Prop where
  inputs : ∀ i ∈ (Scope.ofWorkbook w inlineValues).inputs, i ∈ before
  named : ∀ d ∈ before, d.raw = rawName (sheetPrefixes w) d.cell
  nodup : (before.map Statement.raw).Nodup

theorem isSome_get?_typesOf (member : s ∈ before) : ((typesOf before).get? s.cell).isSome :=
  OrderedMap.isSome_get?_ofList (List.mem_map.mpr ⟨s, member, rfl⟩)

/-- A statement before the formula declares the identifier of its cell. -/
theorem Ahead.hasType_identifier (ahead : Ahead w inlineValues before) (member : s ∈ before) :
    HasType (declarations before) ((Scope.ofWorkbook w inlineValues).identifier s.cell)
      (.value s.type) := by
  refine .ident ?_
  rw [← declarations_raw ahead.nodup member, ahead.named s member]
  rfl

/-- A reference to a cell that exists, or that formulas reference one by one, is well typed by the
declarations before the formula. -/
theorem Ahead.wellTyped_reference (ahead : Ahead w inlineValues before) {cell target : Address}
    {t : Typed} (meant : (w.cell? target).isSome ∨ target ∈ directlyReferenced w)
    (h : (Scope.ofWorkbook w inlineValues).reference (typesOf before) cell target = .ok t) :
    t.WellTyped (declarations before) := by
  rw [Scope.reference] at h
  split at h
  case h_1 l literal =>
    obtain ⟨label, input⟩ := input_mem_inputs (Scope.ofWorkbook w inlineValues) literal
    cases h
    split
    · exact .literal l
    · have declared := ahead.hasType_identifier (ahead.inputs _ input)
      exact declared
  case h_2 =>
    split at h
    case h_1 type found =>
      cases h
      obtain ⟨d, member, entry⟩ := List.mem_map.mp (OrderedMap.mem_of_get?_ofList found)
      cases entry
      exact ahead.hasType_identifier member
    case h_2 unknown =>
      split at h
      case isTrue => cases h
      case isFalse missing =>
        -- A missing cell that is referenced has an input, so its type is known.
        have absent : w.cell? target = none := Option.not_isSome_iff_eq_none.mp missing
        have referenced : target ∈ directlyReferenced w := by simpa [absent] using meant
        obtain ⟨i, member, rfl⟩ := (exists_mem_inputs_iff (Scope.ofWorkbook w inlineValues)).mpr
          (.inr ⟨absent, referenced⟩)
        have known := isSome_get?_typesOf (ahead.inputs i member)
        rw [unknown] at known
        cases known

/-- A statement is an input, or its formula was lowered with what stands before it. -/
theorem ahead_or_mem_inputs (ordered : EvaluationOrder w order)
    (lowered : statements w inlineValues order = .ok program)
    (split : program = before ++ s :: after) :
    s ∈ (Scope.ofWorkbook w inlineValues).inputs ∨ Ahead w inlineValues before ∧
      ∃ e, w.formula? s.cell = some e ∧
        lower (Scope.ofWorkbook w inlineValues) (typesOf before) s.cell e =
          .ok ⟨s.expr, s.type⟩ := by
  rcases statement_cases lowered split with input | ⟨-, -, inputs, code⟩
  · exact .inl input
  · refine .inr ⟨⟨inputs, ?_, ?_⟩, code⟩
    · intro d member
      exact (raw_of_mem lowered (split ▸ List.mem_append_left _ member)).1
    · have all := nodup_raws ordered lowered
      rw [split, List.map_append] at all
      exact (List.nodup_append.mp all).1

/-- Every statement has the type it declares, by the declarations before it. -/
theorem wellTyped_statement (ordered : EvaluationOrder w order)
    (lowered : statements w inlineValues order = .ok program)
    (split : program = before ++ s :: after) :
    HasType (declarations before) s.expr (.value s.type) := by
  rcases ahead_or_mem_inputs ordered lowered split with input | ⟨ahead, e, found, code⟩
  · obtain ⟨a, label, rfl, -, -⟩ := mem_inputs input
    exact .literal _
  · have typed : (⟨s.expr, s.type⟩ : Typed).WellTyped (declarations before) := by
      refine wellTyped_of_lower ?_ e ?_ code
      · intro target t present reference
        exact ahead.wellTyped_reference (.inl present) reference
      · intro target member t reference
        have referenced := mem_directlyReferenced_iff.mpr ⟨s.cell, e, found, member⟩
        exact ahead.wellTyped_reference (.inr referenced) reference
    exact typed

/-- Two statements of one name are the same statement. -/
theorem eq_of_raw_eq (ordered : EvaluationOrder w order)
    (lowered : statements w inlineValues order = .ok program) {d : Statement} (first : s ∈ program)
    (second : d ∈ program) (same : s.raw = d.raw) : s = d :=
  List.inj_on_of_nodup_map (nodup_raws ordered lowered) first second same

end Positions

/-- A list of statements is a program of the workbook. -/
structure IsProgram (w : Workbook) (program : List Statement) : Prop where
  /-- No cell has two statements. -/
  nodup : (program.map Statement.cell).Nodup
  formula_iff : ∀ a, (∃ s ∈ program, s.cell = a ∧ s.kind = .formula) ↔ (w.formula? a).isSome
  /-- The inputs are the value cells, and the missing cells that some formula references outside
  ranges. -/
  input_iff : ∀ a, (∃ s ∈ program, s.cell = a ∧ s.kind = .input) ↔ (w.literal? a).isSome ∨
    w.cell? a = none ∧ ∃ c e, w.formula? c = some e ∧ a ∈ directReferences e
  literal : ∀ s ∈ program, s.kind = .input → s.expr = .literal (inputLiteral w s.cell)
  declared : ∀ before s after, program = before ++ s :: after →
    ∀ name ∈ s.expr.identifiers, ∃ d ∈ before, d.raw = name

/-- An input statement of a program is one of the inputs that lowering starts with. -/
theorem mem_inputs_of_kind (lowered : statements w inlineValues order = .ok program)
    (member : s ∈ program) (kind : s.kind = .input) :
    s ∈ (Scope.ofWorkbook w inlineValues).inputs := by
  obtain ⟨before, after, split⟩ := List.append_of_mem member
  rcases statement_cases lowered split with input | ⟨formula, -⟩
  · exact input
  · rw [kind] at formula
    cases formula

/-- Lowering in evaluation order gives a program. -/
theorem isProgram_of_statements (ordered : (Graph.ofWorkbook w).order = .ok order)
    (lowered : statements w inlineValues order = .ok program) : IsProgram w program := by
  have placed := Graph.evaluationOrder_of_order_eq_ok ordered
  refine ⟨nodup_cells placed lowered, ?_, ?_, ?_, ?_⟩
  · intro a
    constructor
    · rintro ⟨s, member, rfl, kind⟩
      obtain ⟨types, e, found, -⟩ := exists_lower_of_kind lowered member kind
      exact Option.isSome_iff_exists.mpr ⟨e, found⟩
    · exact exists_formula_statement placed lowered
  · intro a
    rw [← mem_directlyReferenced_iff]
    constructor
    · rintro ⟨s, member, rfl, kind⟩
      exact (exists_mem_inputs_iff _).mp ⟨s, mem_inputs_of_kind lowered member kind, rfl⟩
    · intro input
      obtain ⟨s, member, rfl⟩ := (exists_mem_inputs_iff (Scope.ofWorkbook w inlineValues)).mpr input
      obtain ⟨later, -, rfl⟩ := statements_eq_ok.mp lowered
      obtain ⟨b, label, rfl, -, -⟩ := mem_inputs member
      exact ⟨_, List.mem_append_left _ member, rfl, rfl⟩
  · intro s member kind
    obtain ⟨b, label, rfl, -, -⟩ := mem_inputs (mem_inputs_of_kind lowered member kind)
    rfl
  · intro before s after split name member
    have typed := wellTyped_statement placed lowered split
    exact exists_declaration (typed.declared name (mem_distinct.mp member))

/-- Every statement of a lowered workbook has its declared type, where identifiers have the types
that statements before it declare. -/
theorem hasType_of_statements (ordered : (Graph.ofWorkbook w).order = .ok order)
    (lowered : statements w inlineValues order = .ok program)
    (split : program = before ++ s :: after) :
    HasType (declarations before) s.expr (.value s.type) :=
  wellTyped_statement (Graph.evaluationOrder_of_order_eq_ok ordered) lowered split

/-- A price that is looked up and multiplied by a quantity that is missing, and a formula of two
types. -/
def priceList : Workbook where
  name := "Prices"
  sheets := ["S"]
  cells := .ofList [(⟨"S", 0, 0⟩, ⟨.value (.text "ink"), none, none⟩),
    (⟨"S", 0, 1⟩, ⟨.value (.integer 3), none, none⟩),
    (⟨"S", 1, 0⟩, ⟨.value (.text "pen"), none, none⟩),
    (⟨"S", 1, 1⟩, ⟨.value (.integer 7), none, none⟩),
    (⟨"S", 0, 2⟩, ⟨.formula "VLOOKUP(A2,A1:B2,2)*D1" (.binary .mul
      (.call "VLOOKUP" [.cell ⟨"S", 1, 0⟩, .range ⟨"S", 0, 0⟩ ⟨"S", 1, 1⟩, .literal (.integer 2)])
      (.cell ⟨"S", 0, 3⟩)), none, none⟩),
    (⟨"S", 1, 2⟩, ⟨.formula "IF(C1>0,SUM(B1:B3),A1)" (.call "IF"
      [.binary .gt (.cell ⟨"S", 0, 2⟩) (.literal (.integer 0)),
        .call "SUM" [.range ⟨"S", 0, 1⟩ ⟨"S", 2, 1⟩], .cell ⟨"S", 0, 0⟩]), none, none⟩)]

theorem order_priceList :
    (Graph.ofWorkbook priceList).order = .ok [⟨"S", 0, 2⟩, ⟨"S", 1, 2⟩] := by
  cbv

/-- Behind the inputs stand the two formulas. -/
theorem exists_statements_priceList : ∃ price total,
    statements priceList false [⟨"S", 0, 2⟩, ⟨"S", 1, 2⟩] =
      .ok ((Scope.ofWorkbook priceList false).inputs ++ [price, total]) := by
  have referenced : directlyReferenced priceList =
      [⟨"S", 0, 0⟩, ⟨"S", 0, 2⟩, ⟨"S", 0, 3⟩, ⟨"S", 1, 0⟩] := by cbv
  have types : typesOf (Scope.ofWorkbook priceList false).inputs =
      .ofList [(⟨"S", 0, 0⟩, .text), (⟨"S", 0, 1⟩, .integer), (⟨"S", 1, 0⟩, .text),
        (⟨"S", 1, 1⟩, .integer), (⟨"S", 0, 3⟩, .integer)] := by
    rw [typesOf_inputs, referenced]
    rfl
  obtain ⟨price, total, formulas⟩ : ∃ price total, (Scope.ofWorkbook priceList false).formulas
      (.ofList [(⟨"S", 0, 0⟩, .text), (⟨"S", 0, 1⟩, .integer), (⟨"S", 1, 0⟩, .text),
        (⟨"S", 1, 1⟩, .integer), (⟨"S", 0, 3⟩, .integer)]) [⟨"S", 0, 2⟩, ⟨"S", 1, 2⟩] =
      .ok [price, total] :=
    ⟨_, _, rfl⟩
  rw [← types] at formulas
  refine ⟨price, total, statements_eq_ok.mpr ⟨[price, total], formulas, ?_⟩⟩
  rfl

theorem priceList_isProgram : ∃ program,
    (Graph.ofWorkbook priceList).order = .ok [⟨"S", 0, 2⟩, ⟨"S", 1, 2⟩] ∧
      statements priceList false [⟨"S", 0, 2⟩, ⟨"S", 1, 2⟩] = .ok program ∧
      IsProgram priceList program := by
  obtain ⟨price, total, lowered⟩ := exists_statements_priceList
  exact ⟨_, order_priceList, lowered, isProgram_of_statements order_priceList lowered⟩

/-- The last formula, with all other statements before it. -/
theorem priceList_hasType : ∃ program before total,
    (Graph.ofWorkbook priceList).order = .ok [⟨"S", 0, 2⟩, ⟨"S", 1, 2⟩] ∧
      statements priceList false [⟨"S", 0, 2⟩, ⟨"S", 1, 2⟩] = .ok program ∧
      program = before ++ total :: [] ∧
      HasType (declarations before) total.expr (.value total.type) := by
  obtain ⟨price, total, lowered⟩ := exists_statements_priceList
  have split : (Scope.ofWorkbook priceList false).inputs ++ [price, total] =
      ((Scope.ofWorkbook priceList false).inputs ++ [price]) ++ total :: [] := by simp
  exact ⟨_, _, total, order_priceList, lowered, split,
    hasType_of_statements order_priceList lowered split⟩

end SheetCompiler.Lowering
