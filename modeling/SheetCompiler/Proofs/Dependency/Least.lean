import Mathlib.Data.List.Permutation
import SheetCompiler.Proofs.Dependency.Order

/-!
# The least evaluation order

A workbook has many evaluation orders, and placing finds the one that comes first when orders are
compared cell by cell. The argument needs no exchange of cells: an order starts with a cell that
waits for nothing, so the least such cell is not behind it, and if both start with the same cell,
the rest is an order of what is left.

Nothing in it depends on how the waiting cells are kept. A run may hold them in any order, and
change that order after every step, as long as it takes the least cell that is ready; all runs place
the cells alike.
-/

namespace SheetCompiler.Dependency

/-- By the first cell in which they differ, the first order has the lesser one. -/
def Precedes (order other : List Address) : Prop :=
  List.Lex (fun a b => compare a b = .lt) order other

/-- A run that places all waiting cells, kept in whatever order: each time the least of those that
wait for nothing. -/
inductive Run : List Waiting → List Address → Prop
  | done : Run [] []
  | step {waiting kept : List Waiting} {ready : Waiting} {placed : List Address}
      (member : ready ∈ waiting) (free : ready.pending = [])
      (least : ∀ v ∈ waiting, v.pending = [] → (compare ready.cell v.cell).isLE)
      (rest : kept.Perm (release ready.cell waiting)) (later : Run kept placed) :
      Run waiting (ready.cell :: placed)

/-- An order of the waiting cells in which each one stands behind all that it waits for. -/
structure Admissible (waiting : List Waiting) (order : List Address) : Prop where
  perm : order.Perm (waiting.map Waiting.cell)
  ready : ∀ before cell after, order = before ++ cell :: after →
    ∀ v ∈ waiting, v.cell = cell → v.pending ⊆ before

section Runs

variable {waiting kept : List Waiting} {order other placed : List Address} {cell : Address}

theorem nodup_release (nodup : (waiting.map Waiting.cell).Nodup) (cell : Address) :
    ((release cell waiting).map Waiting.cell).Nodup := by
  rw [map_cell_release]
  exact nodup.filter _

theorem perm_release (same : kept.Perm waiting) (cell : Address) :
    (release cell kept).Perm (release cell waiting) :=
  (same.filter _).map _

theorem Admissible.of_perm (h : Admissible waiting order) (same : kept.Perm waiting) :
    Admissible kept order where
  perm := h.perm.trans (same.map Waiting.cell).symm
  ready before cell after split v member := h.ready before cell after split v (same.subset member)

/-- An order starts with a cell that waits for nothing. -/
theorem Admissible.exists_free (h : Admissible waiting (cell :: order)) :
    ∃ v ∈ waiting, v.cell = cell ∧ v.pending = [] := by
  obtain ⟨v, member, same⟩ := List.mem_map.mp (h.perm.subset List.mem_cons_self)
  exact ⟨v, member, same, List.subset_nil.mp (h.ready [] cell order rfl v member same)⟩

/-- Behind its first cell an order is one of the cells that are left. -/
theorem Admissible.tail (nodup : (waiting.map Waiting.cell).Nodup)
    (h : Admissible waiting (cell :: order)) : Admissible (release cell waiting) order where
  perm := by
    rw [map_cell_release, ← nodup.erase_eq_filter]
    exact (List.cons_perm_iff_perm_erase.mp h.perm).2
  ready := by
    intro before next after split v released same b wanted
    obtain ⟨u, member, -, rfl⟩ := mem_release_iff.mp released
    obtain ⟨waited, other⟩ := List.mem_filter.mp wanted
    have split : cell :: order = (cell :: before) ++ next :: after := by
      rw [split, List.cons_append]
    have earlier := h.ready (cell :: before) next after split u member same waited
    exact (List.mem_cons.mp earlier).resolve_left (by simpa using other)

/-- What a run places comes first among all orders of the waiting cells. -/
theorem Run.precedes (run : Run waiting placed) (nodup : (waiting.map Waiting.cell).Nodup)
    (admissible : Admissible waiting other) : placed = other ∨ Precedes placed other := by
  induction run generalizing other with
  | done => exact .inl (List.perm_nil.mp admissible.perm).symm
  | @step waiting kept ready placed member free least rest later ih =>
      cases other with
      | nil =>
          have none := List.map_eq_nil_iff.mp (List.nil_perm.mp admissible.perm)
          rw [none] at member
          cases member
      | cons first others =>
          obtain ⟨v, listed, rfl, unbound⟩ := admissible.exists_free
          rcases Ordering.isLE_iff_eq_lt_or_eq_eq.mp (least v listed unbound) with less | equal
          · exact .inr (.rel less)
          · have same : ready.cell = v.cell := Std.LawfulEqCmp.eq_of_compare equal
            rw [← same] at admissible ⊢
            have distinct : (kept.map Waiting.cell).Nodup :=
              ((rest.map _).nodup_iff).mpr (nodup_release nodup _)
            rcases ih distinct ((admissible.tail nodup).of_perm rest) with equal | less
            · exact .inl (by rw [equal])
            · exact .inr (.cons less)

/-- However they keep the waiting cells, two runs place them alike. -/
theorem Run.unique (run : Run waiting placed) {held : List Waiting} {placed' : List Address}
    (run' : Run held placed') (same : held.Perm waiting) : placed = placed' := by
  induction run generalizing held placed' with
  | done =>
      cases run' with
      | done => rfl
      | step member => exact absurd (same.subset member) List.not_mem_nil
  | step member free least rest later ih =>
      cases run' with
      | done => exact absurd (same.symm.subset member) List.not_mem_nil
      | step member' free' least' rest' later' =>
          have first := least _ (same.subset member') free'
          have second := least' _ (same.symm.subset member) free
          have equal := Std.LawfulEqCmp.eq_of_compare (Std.OrientedCmp.isLE_antisymm first second)
          rw [← equal] at rest' ⊢
          rw [ih later' (rest'.trans ((perm_release same _).trans rest.symm))]

/-- Placing ascending cells until none is left is a run. -/
theorem run_place (ascending : waiting.Pairwise fun v u => compare v.cell u.cell = .lt)
    (none : (place waiting).2 = []) : Run waiting (place waiting).1 := by
  fun_induction place waiting with
  | case1 waiting found =>
      obtain rfl : waiting = [] := none
      exact .done
  | case2 waiting first found shorter order left result ih =>
      rw [result] at ih
      have least := isLE_of_find?_eq_some ascending found
      refine .step (List.mem_of_find?_eq_some found) (by simpa using List.find?_some found) ?_
        (.refl _) (ih (pairwise_release ascending _) none)
      intro v member free
      exact least v member (by simp [free])

end Runs

namespace Graph

variable {w : Workbook} {order : List Address}

theorem nodup_waiting (g : Graph) : (g.waiting.map Waiting.cell).Nodup := by
  rw [map_cell_waiting]
  exact g.formulaCells_nodup

/-- An evaluation order is an order of the cells that wait at the start. -/
theorem admissible_of_evaluationOrder (h : EvaluationOrder w order) :
    Admissible (ofWorkbook w).waiting order where
  perm := by
    rw [map_cell_waiting, List.perm_ext_iff_of_nodup h.nodup (ofWorkbook w).formulaCells_nodup]
    intro a
    rw [h.mem_iff, mem_formulaCells_iff]
  ready := by
    intro before cell after split v waits same b wanted
    rw [(mem_waiting_iff.mp waits).2, mem_formulaDependencies_iff, same] at wanted
    exact h.reads_before before cell after split b wanted

theorem run_of_order_eq_ok (h : (ofWorkbook w).order = .ok order) :
    Run (ofWorkbook w).waiting order := by
  rw [order_eq] at h
  split at h
  case isTrue none =>
    cases h
    exact run_place (waiting_ascending _) none
  case isFalse => cases h

/-- In all graphs that show a workbook the same cells wait for the same cells. -/
theorem Shows.waiting_eq {g : Graph} (h : g.Shows w) : g.waiting = (ofWorkbook w).waiting := by
  have own := shows_ofWorkbook w
  have cells : g.formulaCells = (ofWorkbook w).formulaCells := by
    refine eq_of_ascending g.formulaCells_ascending (ofWorkbook w).formulaCells_ascending
      fun a => ?_
    rw [mem_formulaCells_iff_holdsFormula, mem_formulaCells_iff_holdsFormula, h.formula,
      own.formula]
  rw [waiting, waiting, cells]
  refine List.map_congr_left fun a _ => congrArg (Waiting.mk a) ?_
  refine eq_of_ascending (g.formulaDependencies_ascending a)
    ((ofWorkbook w).formulaDependencies_ascending a) fun b => ?_
  rw [mem_formulaDependencies_iff_edge, mem_formulaDependencies_iff_edge, ← h.reads_iff,
    ← own.reads_iff]

/-- Without circles the formulas have an order, and it is the least of all evaluation orders. Every
run over the formula cells ends in it, however the run numbers and keeps them, and so does every
graph that shows the workbook, however it numbers its nodes. -/
theorem order_precedes (w : Workbook) (acyclic : w.Acyclic) :
    ∃ order, (ofWorkbook w).order = .ok order ∧ EvaluationOrder w order ∧
      (∀ other, EvaluationOrder w other → order = other ∨ Precedes order other) ∧
      (∀ held placed, held.Perm (ofWorkbook w).waiting → Run held placed → placed = order) ∧
      ∀ g : Graph, g.Shows w → g.order = .ok order := by
  obtain ⟨order, found⟩ := exists_order_of_acyclic acyclic
  have run := run_of_order_eq_ok found
  refine ⟨order, found, evaluationOrder_of_order_eq_ok found, fun other evaluation => ?_, ?_, ?_⟩
  · exact run.precedes (nodup_waiting _) (admissible_of_evaluationOrder evaluation)
  · intro held placed same run'
    exact (run.unique run' same).symm
  · intro g shows
    rw [order_eq] at found
    rw [order_eq, shows.waiting_eq]
    split at found
    case isTrue none => rw [if_pos none, found]
    case isFalse => cases found

/-- A formula in `A1` that is ready only after the one in `B1`, and another in `C1` that is ready
from the start. -/
def overtaking : Workbook where
  name := "Overtaking"
  sheets := ["S"]
  cells := .ofList [(⟨"S", 0, 0⟩, ⟨.formula "-B1" (.unary .neg (.cell ⟨"S", 0, 1⟩)), none, none⟩),
    (⟨"S", 0, 1⟩, ⟨.formula "2" (.literal (.integer 2)), none, none⟩),
    (⟨"S", 0, 2⟩, ⟨.formula "3" (.literal (.integer 3)), none, none⟩)]

/-- The first formula overtakes the third as soon as it is ready. -/
theorem overtaking_order_precedes : overtaking.Acyclic ∧
    (ofWorkbook overtaking).order = .ok [⟨"S", 0, 1⟩, ⟨"S", 0, 0⟩, ⟨"S", 0, 2⟩] ∧
      ∀ other, EvaluationOrder overtaking other →
        [⟨"S", 0, 1⟩, ⟨"S", 0, 0⟩, ⟨"S", 0, 2⟩] = other ∨
          Precedes [⟨"S", 0, 1⟩, ⟨"S", 0, 0⟩, ⟨"S", 0, 2⟩] other := by
  have ordered : (ofWorkbook overtaking).order =
      .ok [⟨"S", 0, 1⟩, ⟨"S", 0, 0⟩, ⟨"S", 0, 2⟩] := by cbv
  have acyclic := (evaluationOrder_of_order_eq_ok ordered).acyclic
  obtain ⟨order, found, -, least, -, -⟩ := order_precedes overtaking acyclic
  obtain rfl := Except.ok.inj (found.symm.trans ordered)
  exact ⟨acyclic, ordered, least⟩

end Graph

end SheetCompiler.Dependency
