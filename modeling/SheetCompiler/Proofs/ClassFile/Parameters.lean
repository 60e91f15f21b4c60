import SheetCompiler.Proofs.ClassFile.Members
import SheetCompiler.Proofs.Lowering.Inlining

/-!
# The parameters of a class with inlined values

Where values are inlined, formulas no longer name value cells: what was lowered is still well typed
when the declarations of value cells are taken away. What formulas can still name are other
formulas, and missing cells that they reference one by one. A missing cell has a statement of its
own before any formula is lowered, so its type is known and it is referenced by name, like a
formula. Therefore the constructor has no parameters exactly if no formula names a missing cell.
-/

namespace SheetCompiler

namespace Lowering

open Code (HasType ValueType)
open Dependency (EvaluationOrder Graph)
open Formula (Expr)

variable {w : Workbook} {order : List Address} {program before after : List Statement}
  {s d : Statement}
variable {e : Expr} {cell target : Address} {t : Typed}

section References

/-- The cell can be named in a formula though values are inlined: it holds a formula itself, or it
is missing and the formula references it by itself. -/
def remains (w : Workbook) (e : Expr) (a : Address) : Bool :=
  (w.formula? a).isSome || (w.cell? a).isNone && (directReferences e).contains a

/-- The statements of cells that remain. -/
def remaining (w : Workbook) (e : Expr) (before : List Statement) : List Statement :=
  before.filter fun d => remains w e d.cell

/-- The types that are known where a formula stands are those of the statements before it. -/
theorem Ahead.get?_typesOf {inlineValues : Bool} (ahead : Ahead w inlineValues before)
    (member : d ∈ before) : (typesOf before).get? d.cell = some d.type := by
  obtain ⟨type, known⟩ := Option.isSome_iff_exists.mp (isSome_get?_typesOf member)
  obtain ⟨d', member', entry⟩ := List.mem_map.mp (OrderedMap.mem_of_get?_ofList known)
  obtain ⟨same, rfl⟩ := Prod.mk.inj entry
  have named : d'.raw = d.raw := by rw [ahead.named d' member', ahead.named d member, same]
  obtain rfl := List.inj_on_of_nodup_map ahead.nodup member' member named
  exact known

/-- A missing cell that some formula references by itself is an input that holds zero. -/
theorem missing_mem_inputs (inlineValues : Bool) (missing : w.cell? target = none)
    (referenced : target ∈ directlyReferenced w) :
    (Scope.ofWorkbook w inlineValues).input target none (.integer 0) ∈
      (Scope.ofWorkbook w inlineValues).inputs := by
  refine List.mem_append_right _ (List.mem_map.mpr ⟨target, ?_, rfl⟩)
  exact List.mem_filter.mpr ⟨referenced, Option.isNone_iff_eq_none.mpr missing⟩

theorem Ahead.get?_typesOf_missing {inlineValues : Bool} (ahead : Ahead w inlineValues before)
    (missing : w.cell? target = none) (referenced : target ∈ directlyReferenced w) :
    (typesOf before).get? target = some .integer :=
  ahead.get?_typesOf (ahead.inputs _ (missing_mem_inputs inlineValues missing referenced))

theorem Ahead.hasType_remaining (ahead : Ahead w true before) (member : d ∈ before)
    (remains : remains w e d.cell) :
    HasType (declarations (remaining w e before)) ((Scope.ofWorkbook w true).identifier d.cell)
      (.value d.type) := by
  have nodup : ((remaining w e before).map Statement.raw).Nodup :=
    ahead.nodup.sublist (List.filter_sublist.map _)
  refine .ident ?_
  rw [← declarations_raw nodup (List.mem_filter.mpr ⟨member, remains⟩), ahead.named d member]
  rfl

/-- A reference is a literal, or it is declared by a cell that remains. -/
theorem Ahead.wellTyped_inlined (ahead : Ahead w true before)
    (referenced : ∀ a ∈ directReferences e, a ∈ directlyReferenced w)
    (meant : (w.cell? target).isSome ∨ target ∈ directReferences e)
    (h : (Scope.ofWorkbook w true).reference (typesOf before) cell target = .ok t) :
    t.WellTyped (declarations (remaining w e before)) := by
  rcases w.cell_cases target with missing | ⟨l, literal⟩ | ⟨e', formula⟩
  · have direct : target ∈ directReferences e := by simpa [missing] using meant
    have known := ahead.get?_typesOf_missing missing (referenced target direct)
    have literal : w.literal? target = none := by rw [Workbook.literal?, missing, Option.bind_none]
    rw [reference_of_get? literal known] at h
    cases h
    obtain ⟨d, member, entry⟩ := List.mem_map.mp (OrderedMap.mem_of_get?_ofList known)
    obtain ⟨rfl, type⟩ := Prod.mk.inj entry
    have typed := ahead.hasType_remaining (e := e) member (by simp [remains, missing, direct])
    rwa [type] at typed
  · rw [reference_of_literal literal] at h
    cases h
    exact .literal l
  · have literal := Workbook.literal?_eq_none_of_formula formula
    cases known : (typesOf before).get? target with
    | none =>
        obtain ⟨c, present, -⟩ := Option.bind_eq_some_iff.mp formula
        rw [reference_of_unknown literal known present] at h
        cases h
    | some type =>
        rw [reference_of_get? literal known] at h
        cases h
        obtain ⟨d, member, entry⟩ := List.mem_map.mp (OrderedMap.mem_of_get?_ofList known)
        obtain ⟨rfl, rfl⟩ := Prod.mk.inj entry
        exact ahead.hasType_remaining member (by simp [remains, formula])

end References

section Programs

/-- Every formula is well typed without the declarations of value cells. -/
theorem wellTyped_remaining (ordered : EvaluationOrder w order)
    (lowered : statements w true order = .ok program) (split : program = before ++ s :: after)
    (kind : s.kind = .formula) :
    ∃ e, w.formula? s.cell = some e ∧
      HasType (declarations (remaining w e before)) s.expr (.value s.type) := by
  rcases ahead_or_mem_inputs ordered lowered split with input | ⟨ahead, e, found, code⟩
  · obtain ⟨a, label, rfl, -, -⟩ := mem_inputs input
    cases kind
  · have referenced : ∀ a ∈ directReferences e, a ∈ directlyReferenced w :=
      fun a member => mem_directlyReferenced_iff.mpr ⟨s.cell, e, found, member⟩
    have typed : (⟨s.expr, s.type⟩ : Typed).WellTyped (declarations (remaining w e before)) := by
      refine wellTyped_of_lower ?_ e ?_ code
      · intro target t present reference
        exact ahead.wellTyped_inlined referenced (.inl present) reference
      · intro target member t reference
        exact ahead.wellTyped_inlined referenced (.inr member) reference
    exact ⟨e, found, typed⟩

/-- An input that a formula names is a missing cell that the formula references by itself. -/
theorem missing_of_mem_identifiers (ordered : EvaluationOrder w order)
    (lowered : statements w true order = .ok program) {i : Statement} (formula : s ∈ program)
    (kind : s.kind = .formula) (input : i ∈ program) (kind' : i.kind = .input)
    (named : i.raw ∈ s.expr.identifiers) :
    w.cell? i.cell = none ∧ ∃ e, w.formula? s.cell = some e ∧ i.cell ∈ directReferences e := by
  obtain ⟨before, after, split⟩ := List.append_of_mem formula
  obtain ⟨e, found, typed⟩ := wellTyped_remaining ordered lowered split kind
  obtain ⟨d, member, same⟩ := exists_declaration (typed.declared _ (mem_distinct.mp named))
  obtain ⟨earlier, remains⟩ := List.mem_filter.mp member
  have inside : d ∈ program := split ▸ List.mem_append_left _ earlier
  obtain rfl := eq_of_raw_eq ordered lowered inside input same
  obtain ⟨a, label, same, noFormula, -⟩ := mem_inputs (mem_inputs_of_kind lowered inside kind')
  have cell : d.cell = a := congrArg Statement.cell same
  have noFormula : w.formula? d.cell = none := cell ▸ noFormula
  obtain ⟨missing, direct⟩ : w.cell? d.cell = none ∧ d.cell ∈ directReferences e := by
    simpa [Lowering.remains, noFormula] using remains
  exact ⟨missing, e, found, direct⟩

end Programs

end Lowering

namespace ClassFile

open Dependency (Graph)
open Lowering

variable {declared : List Declaration} {outputs : List Address} {program : List Statement}

/-- The constructor of a class without input fields has no parameters. -/
theorem constructorHead_eq_iff (className : String) (inputs : List Declaration) :
    constructorHead className inputs = [line ("public " ++ className ++ "()")] ↔ inputs = [] := by
  constructor
  · intro head
    cases inputs with
    | nil => rfl
    | cons d rest =>
        obtain ⟨opening, -⟩ := List.cons.inj head
        have text : "public " ++ className ++ "(" = "public " ++ className ++ "()" :=
          congrArg Line.text opening
        have length : "(".length = "()".length := by
          simpa [String.length_append] using congrArg String.length text
        exact absurd length (by decide +kernel)
  · rintro rfl
    rfl

/-- The input fields are those of inputs that some formula names. -/
theorem inputs_eq_nil_iff (statements : declared.map (·.statement) = program) :
    (members declared outputs).inputs = [] ↔
      ∀ s ∈ program, s.kind = .formula → ∀ i ∈ program, i.kind = .input →
        i.raw ∉ s.expr.identifiers := by
  subst statements
  simp only [members, List.partition_eq_filter_filter, List.filter_eq_nil_iff, List.mem_filter,
    decide_eq_true_eq, List.contains_iff_mem, List.mem_flatMap, List.forall_mem_map, not_exists,
    Code.Expr.identifiers, mem_distinct]
  constructor
  · intro unread d member kind i input kind' named
    exact unread i ⟨input, kind'⟩ d ⟨⟨member, kind⟩, named⟩
  · rintro unread i ⟨input, kind'⟩ d ⟨⟨member, kind⟩, named⟩
    exact unread d member kind i input kind' named

/-- A formula of the program names an input whose cell is missing. -/
def NamesMissing (w : Workbook) (program : List Statement) : Prop :=
  ∃ s ∈ program, s.kind = .formula ∧ ∃ i ∈ program, i.kind = .input ∧ w.cell? i.cell = none ∧
    i.raw ∈ s.expr.identifiers

/-- Where values are inlined, a formula names an input only if it references the cell by itself and
the cell is missing. References to value cells become literals, those to missing cells identifiers.
The constructor has no parameters exactly if no formula names a missing cell. -/
theorem inlined_parameters {w : Workbook} {order : List Address} {program : List Statement}
    (ordered : (Graph.ofWorkbook w).order = .ok order)
    (lowered : statements w true order = .ok program) :
    (∀ s ∈ program, s.kind = .formula → ∀ i ∈ program, i.kind = .input →
      i.raw ∈ s.expr.identifiers →
        w.cell? i.cell = none ∧ ∃ e, w.formula? s.cell = some e ∧ i.cell ∈ directReferences e) ∧
    (∀ before s after, program = before ++ s :: after → s.kind = .formula →
      (∀ target l, w.literal? target = some l →
        (Scope.ofWorkbook w true).reference (typesOf before) s.cell target = .ok (.literal l)) ∧
      ∀ e, w.formula? s.cell = some e → ∀ target ∈ directReferences e, w.cell? target = none →
        (Scope.ofWorkbook w true).reference (typesOf before) s.cell target =
          .ok ⟨(Scope.ofWorkbook w true).identifier target, .integer⟩) ∧
    ∀ names declared outputs className, declarations names program = .ok declared →
      (constructorHead className (members declared outputs).inputs =
        [line ("public " ++ className ++ "()")] ↔ ¬ NamesMissing w program) := by
  have placed := Graph.evaluationOrder_of_order_eq_ok ordered
  have named := fun s formula kind i input kind' =>
    missing_of_mem_identifiers placed lowered (s := s) (i := i) formula kind input kind'
  refine ⟨named, ?_, ?_⟩
  · intro before s after split kind
    refine ⟨fun target l literal => reference_of_literal literal, ?_⟩
    intro e found target direct missing
    rcases ahead_or_mem_inputs placed lowered split with input | ⟨ahead, -⟩
    · obtain ⟨a, label, rfl, -, -⟩ := mem_inputs input
      cases kind
    · have referenced := mem_directlyReferenced_iff.mpr ⟨s.cell, e, found, direct⟩
      refine reference_of_get? ?_ (ahead.get?_typesOf_missing missing referenced)
      rw [Workbook.literal?, missing, Option.bind_none]
  · intro names declared outputs className made
    rw [constructorHead_eq_iff, inputs_eq_nil_iff (declarations_eq_ok made).1]
    constructor
    · rintro unread ⟨s, formula, kind, i, input, kind', -, reads⟩
      exact unread s formula kind i input kind' reads
    · intro none s formula kind i input kind' reads
      have missing := (named s formula kind i input kind' reads).1
      exact none ⟨s, formula, kind, i, input, kind', missing, reads⟩

/-- A value and a cell that is missing, added up. -/
def surcharge : Workbook where
  name := "Surcharge"
  sheets := ["S"]
  cells := .ofList [(⟨"S", 0, 0⟩, ⟨.value (.integer 2), none, none⟩),
    (⟨"S", 0, 1⟩, ⟨.formula "A1+C1" (.binary .add (.cell ⟨"S", 0, 0⟩) (.cell ⟨"S", 0, 2⟩)),
      none, none⟩)]

/-- The value is inlined; the missing cell is named and becomes a parameter. -/
theorem surcharge_parameters : ∃ program s i,
    (Graph.ofWorkbook surcharge).order = .ok [⟨"S", 0, 1⟩] ∧
      statements surcharge true [⟨"S", 0, 1⟩] = .ok program ∧
      (s ∈ program ∧ s.cell = ⟨"S", 0, 1⟩ ∧ s.kind = .formula) ∧
      (i ∈ program ∧ i.cell = ⟨"S", 0, 2⟩ ∧ i.kind = .input) ∧ s.expr.occurrences = [i.raw] ∧
      ∀ names declared outputs className, declarations names program = .ok declared →
        constructorHead className (members declared outputs).inputs ≠
          [line ("public " ++ className ++ "()")] := by
  have ordered : (Graph.ofWorkbook surcharge).order = .ok [⟨"S", 0, 1⟩] := by cbv
  have referenced : directlyReferenced surcharge = [⟨"S", 0, 0⟩, ⟨"S", 0, 2⟩] := by cbv
  have types : typesOf (Scope.ofWorkbook surcharge true).inputs =
      .ofList [(⟨"S", 0, 0⟩, .integer), (⟨"S", 0, 2⟩, .integer)] := by
    rw [typesOf_inputs, referenced]
    rfl
  obtain ⟨s, made, cell, kind, occurrences⟩ : ∃ s, (Scope.ofWorkbook surcharge true).formulas
      (.ofList [(⟨"S", 0, 0⟩, .integer), (⟨"S", 0, 2⟩, .integer)]) [⟨"S", 0, 1⟩] = .ok [s] ∧
      s.cell = ⟨"S", 0, 1⟩ ∧ s.kind = .formula ∧
      s.expr.occurrences = [rawName (sheetPrefixes surcharge) ⟨"S", 0, 2⟩] :=
    ⟨_, rfl, rfl, rfl, rfl⟩
  rw [← types] at made
  have lowered := statements_eq_ok.mpr ⟨[s], made, rfl⟩
  have formula : s ∈ (Scope.ofWorkbook surcharge true).inputs ++ [s] := by simp
  have missing : (⟨"S", 0, 2⟩ : Address) ∈ directlyReferenced surcharge := by
    rw [referenced]
    decide
  have input : (Scope.ofWorkbook surcharge true).input ⟨"S", 0, 2⟩ none (.integer 0) ∈
      (Scope.ofWorkbook surcharge true).inputs ++ [s] :=
    List.mem_append_left _ (missing_mem_inputs true rfl missing)
  refine ⟨_, s, _, ordered, lowered, ⟨formula, cell, kind⟩, ⟨input, rfl, rfl⟩, occurrences, ?_⟩
  obtain ⟨named, -, head⟩ := inlined_parameters ordered lowered
  intro names declared outputs className made plain
  refine (head names declared outputs className made).mp plain ?_
  have reads : rawName (sheetPrefixes surcharge) ⟨"S", 0, 2⟩ ∈ s.expr.identifiers := by
    rw [Code.Expr.identifiers, mem_distinct, occurrences]
    exact List.mem_singleton_self _
  exact ⟨s, formula, kind, _, input, rfl, (named s formula kind _ input rfl reads).1, reads⟩

end ClassFile

end SheetCompiler
