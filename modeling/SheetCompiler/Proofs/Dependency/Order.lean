import Mathlib.Data.Fintype.Card
import Mathlib.Data.Set.Finite.Basic
import SheetCompiler.Proofs.Dependency.References
import SheetCompiler.Proofs.Dependency.Waiting

/-!
# Evaluation order

What placing does is said once, for any list of waiting cells, in `Placement`: no cell gets lost, a
placed cell waited for earlier ones only, and a cell that is left still waits for something. On the
waiting list of a workbook this makes the placed cells an evaluation order; and cells that are left
wait for one another, which in a finite list takes a circle.
-/

namespace SheetCompiler.Dependency

open Relation

/-- What placing the waiting cells results in. -/
structure Placement (waiting : List Waiting) (placed : List Address) (left : List Waiting) :
    Prop where
  /-- Every cell is either placed or left, as often as it was waiting. -/
  perm : (placed ++ left.map Waiting.cell).Perm (waiting.map Waiting.cell)
  /-- All that a placed cell waited for stands before it. -/
  ready : ∀ before cell after, placed = before ++ cell :: after →
    ∃ w ∈ waiting, w.cell = cell ∧ w.pending ⊆ before
  /-- A cell that is left waits for something that is not placed. -/
  stuck : ∀ l ∈ left, ∃ w ∈ waiting, w.cell = l.cell ∧ ∃ b ∈ w.pending, b ∉ placed

/-- A cell that waits for nothing is placed first when its release has a placement. -/
theorem Placement.cons {waiting : List Waiting} {first : Waiting} {placed : List Address}
    {left : List Waiting} (nodup : (waiting.map Waiting.cell).Nodup) (mem : first ∈ waiting)
    (free : first.pending = []) (rest : Placement (release first.cell waiting) placed left) :
    Placement waiting (first.cell :: placed) left where
  perm := by
    have member : first.cell ∈ waiting.map Waiting.cell := List.mem_map_of_mem mem
    have tail := rest.perm
    rw [map_cell_release, ← nodup.erase_eq_filter] at tail
    exact (tail.cons first.cell).trans (List.perm_cons_erase member).symm
  ready := by
    intro before cell after split
    cases before with
    | nil =>
        obtain ⟨same, -⟩ := List.cons.inj split
        exact ⟨first, mem, same, by simp [free]⟩
    | cons head before =>
        obtain ⟨rfl, later⟩ := List.cons.inj split
        obtain ⟨w, released, sameCell, pending⟩ := rest.ready before cell after later
        obtain ⟨v, waits, -, rfl⟩ := mem_release_iff.mp released
        refine ⟨v, waits, sameCell, fun b wanted => ?_⟩
        by_cases same : b = first.cell
        · exact List.mem_cons.mpr (.inl same)
        · exact List.mem_cons_of_mem _ (pending (List.mem_filter.mpr ⟨wanted, by simpa using same⟩))
  stuck := by
    intro l leftOver
    obtain ⟨w, released, sameCell, b, wanted, unplaced⟩ := rest.stuck l leftOver
    obtain ⟨v, waits, -, rfl⟩ := mem_release_iff.mp released
    obtain ⟨waited, other⟩ := List.mem_filter.mp wanted
    refine ⟨v, waits, sameCell, b, waited, ?_⟩
    simpa [unplaced] using other

theorem place_spec (waiting : List Waiting) (nodup : (waiting.map Waiting.cell).Nodup) :
    Placement waiting (place waiting).1 (place waiting).2 := by
  fun_induction place waiting with
  | case1 waiting none =>
      refine ⟨.refl _, fun before cell after split => ?_, fun l leftOver => ?_⟩
      · simp at split
      · have pending := List.find?_eq_none.mp none l leftOver
        obtain ⟨b, wanted⟩ := List.exists_mem_of_ne_nil l.pending (by simpa using pending)
        exact ⟨l, leftOver, rfl, b, wanted, List.not_mem_nil⟩
  | case2 waiting first found shorter order left result ih =>
      have free : first.pending = [] := by simpa using List.find?_some found
      refine .cons nodup (List.mem_of_find?_eq_some found) free ?_
      rw [result] at ih
      refine ih ?_
      rw [map_cell_release]
      exact nodup.filter _

/-- In a finite list where every cell reads one of the list, some cells read in a circle. -/
theorem exists_circular_of_forall_reads {w : Workbook} {cells : List Address} (some : cells ≠ [])
    (reads : ∀ a ∈ cells, ∃ b ∈ cells, w.Reads a b) : ∃ a, w.Circular a := by
  by_contra acyclic
  have irreflexive : ∀ a, ¬ TransGen w.Reads a a := fun a circular => acyclic ⟨a, circular⟩
  let later (x y : {a // a ∈ cells}) : Prop := TransGen w.Reads y.1 x.1
  have : Finite {a // a ∈ cells} := (List.finite_toSet cells).to_subtype
  have : IsTrans {a // a ∈ cells} later := ⟨fun x y z first second => second.trans first⟩
  have : Std.Irrefl later := ⟨fun x => irreflexive x.1⟩
  have wf : WellFounded later := Finite.wellFounded_of_trans_of_irrefl later
  obtain ⟨start, member⟩ := List.exists_mem_of_ne_nil cells some
  -- Reading on from the start never ends, which a well-founded relation does not allow.
  refine wf.induction (C := fun _ => False) ⟨start, member⟩ fun current ih => ?_
  obtain ⟨next, inside, step⟩ := reads current.1 current.2
  exact ih ⟨next, inside⟩ (.single step)

/-- An evaluation order of a workbook: every formula cell once and nothing else, each cell after the
formula cells it reads. -/
structure EvaluationOrder (w : Workbook) (order : List Address) : Prop where
  nodup : order.Nodup
  mem_iff : ∀ a, a ∈ order ↔ (w.formula? a).isSome
  reads_before : ∀ before cell after, order = before ++ cell :: after →
    ∀ b, w.Reads cell b → b ∈ before

namespace EvaluationOrder

variable {w : Workbook} {order : List Address}

/-- What a cell reads stands before it. -/
theorem idxOf_lt {a b : Address} (h : EvaluationOrder w order) (reads : w.Reads a b) :
    order.idxOf b < order.idxOf a := by
  obtain ⟨before, after, split⟩ := List.append_of_mem ((h.mem_iff a).mpr reads.formula_left)
  have notBefore : a ∉ before := by
    have distinct := h.nodup
    rw [split] at distinct
    exact fun inside => List.disjoint_of_nodup_append distinct inside List.mem_cons_self
  have inBefore := h.reads_before before a after split b reads
  rw [split, List.idxOf_append_of_mem inBefore, List.idxOf_append_of_notMem notBefore,
    List.idxOf_cons_self]
  exact Nat.lt_of_lt_of_le (List.idxOf_lt_length_of_mem inBefore) (Nat.le_add_right _ _)

/-- A circle has no place in an order where all that a cell reads stands before it. -/
theorem acyclic (h : EvaluationOrder w order) : w.Acyclic := by
  have chain {a b : Address} (reads : TransGen w.Reads a b) : order.idxOf b < order.idxOf a := by
    induction reads with
    | single step => exact h.idxOf_lt step
    | tail _ step ih => exact (h.idxOf_lt step).trans ih
  exact fun a circular => Nat.lt_irrefl _ (chain circular)

end EvaluationOrder

namespace Graph

variable {w : Workbook} {a b : Address}

theorem mem_formulaDependencies_iff : b ∈ (ofWorkbook w).formulaDependencies a ↔ w.Reads a b := by
  rw [mem_formulaDependencies_iff_edge, (shows_ofWorkbook w).reads_iff]

theorem placement_waiting : Placement (ofWorkbook w).waiting (place (ofWorkbook w).waiting).1
    (place (ofWorkbook w).waiting).2 := by
  refine place_spec _ ?_
  rw [map_cell_waiting]
  exact (ofWorkbook w).formulaCells_nodup

/-- When no cell is left, the placed cells are an evaluation order. -/
theorem evaluationOrder_of_left_eq_nil (none : (place (ofWorkbook w).waiting).2 = []) :
    EvaluationOrder w (place (ofWorkbook w).waiting).1 := by
  have placement := placement_waiting (w := w)
  have perm : (place (ofWorkbook w).waiting).1.Perm (ofWorkbook w).formulaCells := by
    simpa only [none, List.map_nil, List.append_nil, map_cell_waiting] using placement.perm
  refine ⟨perm.nodup_iff.mpr (ofWorkbook w).formulaCells_nodup, fun a => ?_, ?_⟩
  · rw [perm.mem_iff, mem_formulaCells_iff]
  · intro before cell after split b reads
    obtain ⟨v, waits, rfl, pending⟩ := placement.ready before cell after split
    refine pending ?_
    rw [(mem_waiting_iff.mp waits).2, mem_formulaDependencies_iff]
    exact reads

/-- Cells that are left read one another, so there is a circle. -/
theorem not_acyclic_of_left_ne_nil (some : (place (ofWorkbook w).waiting).2 ≠ []) :
    ¬ w.Acyclic := by
  have placement := placement_waiting (w := w)
  have nonempty : (place (ofWorkbook w).waiting).2.map Waiting.cell ≠ [] := by simpa using some
  obtain ⟨a, circular⟩ := exists_circular_of_forall_reads (w := w) nonempty fun a member => by
    obtain ⟨l, left, rfl⟩ := List.mem_map.mp member
    obtain ⟨v, waits, sameCell, b, wanted, unplaced⟩ := placement.stuck l left
    rw [(mem_waiting_iff.mp waits).2, mem_formulaDependencies_iff, sameCell] at wanted
    refine ⟨b, ?_, wanted⟩
    have known : b ∈ (ofWorkbook w).waiting.map Waiting.cell := by
      rw [map_cell_waiting, mem_formulaCells_iff]
      exact wanted.formula_right
    exact (List.mem_append.mp (placement.perm.mem_iff.mpr known)).resolve_left unplaced
  exact fun acyclic => acyclic a circular

theorem evaluationOrder_of_order_eq_ok {order : List Address}
    (h : (ofWorkbook w).order = .ok order) : EvaluationOrder w order := by
  rw [order_eq] at h
  split at h
  case isTrue none =>
    cases h
    exact evaluationOrder_of_left_eq_nil none
  case isFalse => cases h

theorem order_eq_error_of_not_acyclic (h : ¬ w.Acyclic) :
    (ofWorkbook w).order = .error (.cyclicDependency (ofWorkbook w).findCycle) := by
  rw [order_eq, if_neg]
  exact fun none => h (evaluationOrder_of_left_eq_nil none).acyclic

theorem exists_order_of_acyclic (h : w.Acyclic) : ∃ order, (ofWorkbook w).order = .ok order := by
  rw [order_eq, if_pos]
  · exact ⟨_, rfl⟩
  · exact Classical.byContradiction fun some => not_acyclic_of_left_ne_nil some h

/-- A workbook has an order exactly if its formulas do not read in a circle. The order is an
evaluation order, and without one the failure names a circular dependency. -/
theorem order_ok_iff_acyclic (w : Workbook) :
    ((∃ order, (ofWorkbook w).order = .ok order) ↔ w.Acyclic) ∧
      match (ofWorkbook w).order with
      | .ok order => EvaluationOrder w order
      | .error e => ∃ chain, e = .cyclicDependency chain := by
  refine ⟨⟨?_, exists_order_of_acyclic⟩, ?_⟩
  · rintro ⟨order, found⟩
    exact (evaluationOrder_of_order_eq_ok found).acyclic
  · by_cases acyclic : w.Acyclic
    · obtain ⟨order, found⟩ := exists_order_of_acyclic acyclic
      rw [found]
      exact evaluationOrder_of_order_eq_ok found
    · rw [order_eq_error_of_not_acyclic acyclic]
      exact ⟨_, rfl⟩

end Graph

end SheetCompiler.Dependency
