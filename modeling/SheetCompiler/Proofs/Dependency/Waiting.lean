import Mathlib.Data.List.Induction
import Mathlib.Data.List.Nodup
import SheetCompiler.Dependency.Order
import SheetCompiler.Proofs.Dependency.Growth

/-!
# Counting what cells wait for

Placing is said here without numbers and counts: every formula cell that is not placed yet waits for
certain cells, and the first one that waits for nothing is placed next. A graph keeps only how many
cells each node waits for, and which nodes wait for nothing: `Tracks`. Each step of placing keeps
the two in line, so both place the same cells in the same order.
-/

namespace SheetCompiler.Dependency

/-- A formula cell that is not placed yet, with the formula cells it still waits for. -/
structure Waiting where
  cell : Address
  pending : List Address

/-- The waiting cells without `cell`, for which the others wait no longer. -/
def release (cell : Address) (waiting : List Waiting) : List Waiting :=
  (waiting.filter (·.cell ≠ cell)).map fun w =>
    { w with pending := w.pending.filter (· ≠ cell) }

theorem length_release_lt {ready : Waiting} {waiting : List Waiting} (h : ready ∈ waiting) :
    (release ready.cell waiting).length < waiting.length := by
  rw [release, List.length_map]
  exact List.length_filter_lt_length_iff_exists.mpr ⟨ready, h, by simp⟩

/-- Places the waiting cells, given in ascending order, as far as possible. Returns the placed cells
in their order and those that are left. -/
def place (waiting : List Waiting) : List Address × List Waiting :=
  match h : waiting.find? (·.pending.isEmpty) with
  | none => ([], waiting)
  | some ready =>
    have := length_release_lt (List.mem_of_find?_eq_some h)
    let (order, left) := place (release ready.cell waiting)
    (ready.cell :: order, left)
termination_by waiting.length

section Placing

variable {waiting : List Waiting} {cell : Address} {v : Waiting}

theorem map_cell_release (cell : Address) (waiting : List Waiting) :
    (release cell waiting).map Waiting.cell = (waiting.map Waiting.cell).filter (· != cell) := by
  rw [release, List.map_map, List.filter_map]
  refine congrArg (List.map Waiting.cell) (List.filter_congr fun w _ => ?_)
  rw [Function.comp_apply, bne, beq_eq_decide, ← decide_not]

theorem mem_release_iff {w : Waiting} :
    w ∈ release cell waiting ↔ ∃ v ∈ waiting, v.cell ≠ cell ∧
      w = ⟨v.cell, v.pending.filter (· ≠ cell)⟩ := by
  simp only [release, List.mem_map, List.mem_filter, decide_eq_true_eq, and_assoc]
  exact exists_congr fun v => and_congr_right fun _ => and_congr_right fun _ => eq_comm

theorem pairwise_release (ascending : waiting.Pairwise fun v u => compare v.cell u.cell = .lt)
    (cell : Address) :
    (release cell waiting).Pairwise fun v u => compare v.cell u.cell = .lt :=
  List.pairwise_map.mpr (ascending.filter _)

theorem place_of_find?_eq_none (h : waiting.find? (·.pending.isEmpty) = none) :
    place waiting = ([], waiting) := by
  rw [place]
  split
  · rfl
  · rename_i found
    cases h.symm.trans found

theorem place_of_find?_eq_some (h : waiting.find? (·.pending.isEmpty) = some v) :
    place waiting =
      (v.cell :: (place (release v.cell waiting)).1, (place (release v.cell waiting)).2) := by
  rw [place]
  split
  · rename_i none
    cases h.symm.trans none
  · rename_i found
    cases h.symm.trans found
    rfl

/-- Among ascending cells the first one that is ready is the least. -/
theorem isLE_of_find?_eq_some {ready : Waiting} {p : Waiting → Bool}
    (ascending : waiting.Pairwise fun v u => compare v.cell u.cell = .lt)
    (found : waiting.find? p = some ready) :
    ∀ v ∈ waiting, p v → (compare ready.cell v.cell).isLE := by
  obtain ⟨accepted, before, after, rfl, rejected⟩ := List.find?_eq_some_iff_append.mp found
  intro v member holds
  rcases List.mem_append.mp member with earlier | here
  · have refused := rejected v earlier
    rw [holds] at refused
    cases refused
  · rcases List.mem_cons.mp here with rfl | later
    · exact Std.ReflCmp.isLE_rfl
    · have behind := (List.pairwise_append.mp ascending).2.1
      rw [(List.pairwise_cons.mp behind).1 v later]
      rfl

theorem length_filter_ne_of_mem {l : List Address} (once : l.Nodup) {a : Address} (member : a ∈ l) :
    (l.filter (· ≠ a)).length + 1 = l.length := by
  have erased : l.filter (· ≠ a) = l.erase a := by
    rw [once.erase_eq_filter]
    exact List.filter_congr fun b _ => by rw [bne, beq_eq_decide, ← decide_not]
  rw [erased, List.length_erase_of_mem member]
  have positive := List.length_pos_of_mem member
  omega

/-- Where no cell is listed twice, a cell waits for the same cells wherever it is found. -/
theorem eq_of_cell_eq (ascending : waiting.Pairwise fun v u => compare v.cell u.cell = .lt)
    {u : Waiting} (member : v ∈ waiting) (member' : u ∈ waiting) (same : v.cell = u.cell) :
    v = u := by
  have nodup : (waiting.map Waiting.cell).Nodup :=
    nodup_of_ascending (List.pairwise_map.mpr ascending)
  exact List.inj_on_of_nodup_map nodup member member' same

end Placing

namespace Graph

variable {g : Graph} {a b : Address} {i j n : Nat}

/-- The formula cells that the formula of `cell` reads, ascending. -/
def formulaDependencies (g : Graph) (cell : Address) : List Address :=
  (g.dependencies cell).filter g.formulaCells.contains

/-- Every formula cell with the formula cells it reads, ascending. -/
def waiting (g : Graph) : List Waiting :=
  g.formulaCells.map fun cell => ⟨cell, g.formulaDependencies cell⟩

theorem mem_formulaDependencies_iff_edge :
    b ∈ g.formulaDependencies a ↔ g.Edge a b ∧ g.HoldsFormula b := by
  rw [formulaDependencies, List.mem_filter, mem_dependencies_iff_edge, List.contains_iff_mem,
    mem_formulaCells_iff_holdsFormula]

theorem formulaDependencies_ascending (g : Graph) (a : Address) :
    (g.formulaDependencies a).Pairwise fun b b' => compare b b' = .lt :=
  (g.dependencies_ascending a).filter _

theorem nodup_formulaDependencies (g : Graph) (a : Address) : (g.formulaDependencies a).Nodup :=
  nodup_of_ascending (g.formulaDependencies_ascending a)

theorem map_cell_waiting (g : Graph) : g.waiting.map Waiting.cell = g.formulaCells := by
  simp [waiting, Function.comp_def]

theorem waiting_ascending (g : Graph) :
    g.waiting.Pairwise fun v u => compare v.cell u.cell = .lt := by
  have cells := g.formulaCells_ascending
  rw [← map_cell_waiting] at cells
  exact List.pairwise_map.mp cells

theorem mem_formulaTargets_iff :
    j ∈ g.formulaTargets i ↔ (i, j) ∈ g.edges ∧ g.isFormulaAt j := by
  rw [formulaTargets, mem_distinct, List.mem_filter, mem_targets_iff]

theorem nodup_formulaTargets (g : Graph) (i : Nat) : (g.formulaTargets i).Nodup :=
  nodup_distinct _

/-- The numbers of the formula cells that a formula reads are as many as the cells. -/
theorem length_formulaTargets (known : g.cellAt? i = some a) :
    (g.formulaTargets i).length = (g.formulaDependencies a).length := by
  have contained : ∀ b ∈ g.formulaDependencies a, g.contains b := by
    intro b member
    exact (mem_formulaDependencies_iff_edge.mp member).2.contains
  have perm : ((g.formulaDependencies a).map g.numberOf).Perm (g.formulaTargets i) := by
    refine (List.perm_ext_iff_of_nodup ?_ (g.nodup_formulaTargets i)).mpr fun j => ?_
    · refine List.Nodup.map_on (fun b member c member' => ?_) (g.nodup_formulaDependencies a)
      exact numberOf_inj (contained b member) (contained c member')
    · rw [mem_formulaTargets_iff, List.mem_map]
      constructor
      · rintro ⟨b, member, rfl⟩
        obtain ⟨edge, formula⟩ := mem_formulaDependencies_iff_edge.mp member
        have here := cellAt?_numberOf (contained b member)
        exact ⟨(edge_iff known here).mp edge, (isFormulaAt_iff here).mpr formula⟩
      · rintro ⟨edge, formula⟩
        obtain ⟨a', b, left, right, link⟩ := exists_edge edge
        obtain rfl := Option.some.inj (known.symm.trans left)
        have read := mem_formulaDependencies_iff_edge.mpr ⟨link, (isFormulaAt_iff right).mp formula⟩
        exact ⟨b, read, numberOf_eq right⟩
  rw [← perm.length_eq, List.length_map]

/-- Formula cells wait for those among them that they read. -/
structure Consistent (g : Graph) (waiting : List Waiting) : Prop where
  ascending : waiting.Pairwise fun v u => compare v.cell u.cell = .lt
  formula : ∀ v ∈ waiting, g.HoldsFormula v.cell
  once : ∀ v ∈ waiting, v.pending.Nodup
  pending : ∀ v ∈ waiting, ∀ b, b ∈ v.pending ↔ g.Edge v.cell b ∧ b ∈ waiting.map Waiting.cell

theorem mem_waiting_iff {v : Waiting} :
    v ∈ g.waiting ↔ g.HoldsFormula v.cell ∧ v.pending = g.formulaDependencies v.cell := by
  rw [waiting, List.mem_map]
  constructor
  · rintro ⟨cell, member, rfl⟩
    exact ⟨mem_formulaCells_iff_holdsFormula.mp member, rfl⟩
  · rintro ⟨formula, pending⟩
    exact ⟨v.cell, mem_formulaCells_iff_holdsFormula.mpr formula, by rw [← pending]⟩

/-- At the start every formula cell waits for the formula cells it reads. -/
theorem consistent_waiting (g : Graph) : g.Consistent g.waiting := by
  constructor
  case ascending => exact g.waiting_ascending
  case formula => exact fun v member => (mem_waiting_iff.mp member).1
  case once =>
    intro v member
    rw [(mem_waiting_iff.mp member).2]
    exact g.nodup_formulaDependencies v.cell
  case pending =>
    intro v member b
    rw [(mem_waiting_iff.mp member).2, map_cell_waiting, mem_formulaDependencies_iff_edge,
      mem_formulaCells_iff_holdsFormula]

/-- Placing a cell leaves the others waiting for those among them that they read. -/
theorem Consistent.release {waiting : List Waiting} (h : g.Consistent waiting) (cell : Address) :
    g.Consistent (release cell waiting) := by
  constructor
  case ascending => exact pairwise_release h.ascending cell
  case formula =>
    intro w released
    obtain ⟨v, waits, -, rfl⟩ := mem_release_iff.mp released
    exact h.formula v waits
  case once =>
    intro w released
    obtain ⟨v, waits, -, rfl⟩ := mem_release_iff.mp released
    exact (h.once v waits).filter _
  case pending =>
    intro w released b
    obtain ⟨v, waits, -, rfl⟩ := mem_release_iff.mp released
    rw [map_cell_release, List.mem_filter, List.mem_filter, h.pending v waits, and_assoc]
    simp

/-- Placing a cell takes one from the count of a cell that waits for it, and changes no other. -/
theorem Consistent.pending_release {waiting : List Waiting} {v : Waiting} (h : g.Consistent waiting)
    (waits : v ∈ waiting) (cell : Address) :
    (cell ∈ v.pending ∧ (v.pending.filter (· ≠ cell)).length + 1 = v.pending.length) ∨
      (cell ∉ v.pending ∧ v.pending.filter (· ≠ cell) = v.pending) := by
  by_cases wanted : cell ∈ v.pending
  · exact .inl ⟨wanted, length_filter_ne_of_mem (h.once v waits) wanted⟩
  · refine .inr ⟨wanted, List.filter_eq_self.mpr fun b inside => decide_eq_true ?_⟩
    rintro rfl
    exact wanted inside

/-- The counts of the progress are those of the waiting cells. -/
structure Tracks (g : Graph) (p : Progress) (waiting : List Waiting) : Prop
    extends g.Consistent waiting where
  ready : ∀ a i, p.ready.get? a = some i ↔
    g.cellAt? i = some a ∧ ∃ v ∈ waiting, v.cell = a ∧ v.pending = []
  remaining : ∀ i n, p.remaining.get? i = some n ↔
    ∃ v ∈ waiting, g.cellAt? i = some v.cell ∧ v.pending ≠ [] ∧ v.pending.length = n

section Entering

theorem enter_of_not_formula (h : ¬ g.isFormulaAt i) (p : Progress) : g.enter p i = p := by
  rw [enter]
  split
  · rename_i found
    simp [isFormulaAt, found] at h
  · rfl

theorem enter_of_formula (formula : g.isFormulaAt i) (known : g.cellAt? i = some a) (p : Progress) :
    g.enter p i = if (g.formulaTargets i).isEmpty then { p with ready := p.ready.insert a i }
      else { p with remaining := p.remaining.insert i (g.formulaTargets i).length } := by
  obtain ⟨isFormula, found⟩ := exists_node known
  obtain rfl : isFormula = true := by simpa [isFormulaAt, found] using formula
  rw [enter, found]

/-- What has been entered after some of the nodes. -/
theorem get?_enter (numbers : List Nat) :
    (∀ a i, (numbers.foldl g.enter ⟨.empty, .empty⟩).ready.get? a = some i ↔
      i ∈ numbers ∧ g.isFormulaAt i ∧ g.cellAt? i = some a ∧ g.formulaTargets i = []) ∧
    ∀ i n, (numbers.foldl g.enter ⟨.empty, .empty⟩).remaining.get? i = some n ↔
      i ∈ numbers ∧ g.isFormulaAt i ∧ g.formulaTargets i ≠ [] ∧
      (g.formulaTargets i).length = n := by
  induction numbers using List.reverseRecOn with
  | nil => simp
  | append_singleton numbers k ih =>
      obtain ⟨ready, remaining⟩ := ih
      rw [List.foldl_append, List.foldl_cons, List.foldl_nil]
      by_cases formula : g.isFormulaAt k
      case neg =>
        rw [enter_of_not_formula formula]
        refine ⟨fun a i => (ready a i).trans ?_, fun i n => (remaining i n).trans ?_⟩ <;>
          grind
      obtain ⟨cell, known⟩ : ∃ cell, g.cellAt? k = some cell := by
        rw [← Option.isSome_iff_exists, cellAt?, Option.isSome_map]
        exact Option.isSome_of_any formula
      have alone {i : Nat} (same : g.cellAt? i = some cell) : i = k := cellAt?_inj same known
      rw [enter_of_formula formula known]
      by_cases none : g.formulaTargets k = []
      · rw [if_pos (by simp [none])]
        refine ⟨fun a i => ?_, fun i n => (remaining i n).trans ?_⟩
        · rw [OrderedMap.get?_insert]
          grind
        · grind
      · rw [if_neg (by simp [none])]
        refine ⟨fun a i => (ready a i).trans ?_, fun i n => ?_⟩
        · grind
        · rw [OrderedMap.get?_insert]
          grind

/-- The counts at the start are those of the formula cells that a formula reads. -/
theorem tracks_unplaced (g : Graph) : g.Tracks g.unplaced g.waiting := by
  obtain ⟨ready, remaining⟩ := get?_enter (g := g) g.numbers
  have listed {i : Nat} {a : Address} (known : g.cellAt? i = some a) : i ∈ g.numbers :=
    List.mem_range.mpr (lt_size known)
  have empty_iff {i : Nat} {a : Address} (known : g.cellAt? i = some a) :
      g.formulaTargets i = [] ↔ g.formulaDependencies a = [] := by
    rw [← List.length_eq_zero_iff, length_formulaTargets known, List.length_eq_zero_iff]
  refine ⟨g.consistent_waiting, fun a i => ?_, fun i n => ?_⟩
  · rw [unplaced, ready]
    constructor
    · rintro ⟨-, formula, known, none⟩
      refine ⟨known, ⟨a, g.formulaDependencies a⟩, mem_waiting_iff.mpr ⟨?_, rfl⟩, rfl,
        (empty_iff known).mp none⟩
      exact (isFormulaAt_iff known).mp formula
    · rintro ⟨known, v, member, rfl, none⟩
      obtain ⟨formula, pending⟩ := mem_waiting_iff.mp member
      rw [pending] at none
      exact ⟨listed known, (isFormulaAt_iff known).mpr formula, known, (empty_iff known).mpr none⟩
  · rw [unplaced, remaining]
    constructor
    · rintro ⟨member, formula, some, length⟩
      obtain ⟨a, known⟩ := exists_cellAt? (List.mem_range.mp member)
      have holds := (isFormulaAt_iff known).mp formula
      refine ⟨⟨a, g.formulaDependencies a⟩, mem_waiting_iff.mpr ⟨holds, rfl⟩, known,
        mt (empty_iff known).mpr some, ?_⟩
      rw [← length, length_formulaTargets known]
    · rintro ⟨v, member, known, some, length⟩
      obtain ⟨formula, pending⟩ := mem_waiting_iff.mp member
      rw [pending] at some length
      refine ⟨listed known, (isFormulaAt_iff known).mpr formula, mt (empty_iff known).mp some, ?_⟩
      rw [length_formulaTargets known, length]

end Entering

section CountingDown

variable {p : Progress}

/-- What the progress keeps of a node goes by its number and its cell. -/
structure Keyed (g : Graph) (p : Progress) : Prop where
  ready : ∀ a i, p.ready.get? a = some i → g.cellAt? i = some a
  remaining : ∀ i n, p.remaining.get? i = some n → ∃ a, g.cellAt? i = some a

/-- A node that waited for one cell only becomes ready, and one that waited for more waits on. -/
theorem get?_countDown (h : g.Keyed p) (k : Nat) :
    (∀ a i, (g.countDown p k).ready.get? a = some i ↔ p.ready.get? a = some i ∨
      i = k ∧ g.cellAt? i = some a ∧ ∃ n, p.remaining.get? i = some n ∧ n - 1 = 0) ∧
    ∀ i n, (g.countDown p k).remaining.get? i = some n ↔
      i ≠ k ∧ p.remaining.get? i = some n ∨
        i = k ∧ n ≠ 0 ∧ p.remaining.get? i = some (n + 1) := by
  cases waits : p.remaining.get? k with
  | none =>
      have same : g.countDown p k = p := by rw [countDown, waits]
      rw [same]
      constructor <;> grind
  | some count =>
      obtain ⟨cell, known⟩ := h.remaining k count waits
      have alone {i : Nat} (same : g.cellAt? i = some cell) : i = k := cellAt?_inj same known
      have step : g.countDown p k = if count - 1 = 0 then
          { remaining := p.remaining.erase k, ready := p.ready.insert cell k }
          else { p with remaining := p.remaining.insert k (count - 1) } := by
        rw [countDown, waits, known]
      have held := h.ready
      rw [step]
      split
      · refine ⟨fun a i => ?_, fun i n => ?_⟩
        · rw [OrderedMap.get?_insert]
          grind
        · rw [OrderedMap.get?_erase]
          grind
      · refine ⟨fun a i => ?_, fun i n => ?_⟩
        · grind
        · rw [OrderedMap.get?_insert]
          grind

theorem Keyed.countDown (h : g.Keyed p) (k : Nat) : g.Keyed (g.countDown p k) := by
  obtain ⟨ready, remaining⟩ := get?_countDown h k
  refine ⟨fun a i found => ?_, fun i n found => ?_⟩
  · rcases (ready a i).mp found with held | ⟨-, known, -⟩
    · exact h.ready a i held
    · exact known
  · rcases (remaining i n).mp found with ⟨-, held⟩ | ⟨-, -, held⟩
    · exact h.remaining i n held
    · exact h.remaining i (n + 1) held

/-- Each of several nodes waits for one cell less. -/
theorem get?_countDownAll (h : g.Keyed p) {readers : List Nat} (once : readers.Nodup) :
    (∀ a i, (g.countDownAll p readers).ready.get? a = some i ↔ p.ready.get? a = some i ∨
      i ∈ readers ∧ g.cellAt? i = some a ∧ ∃ n, p.remaining.get? i = some n ∧ n - 1 = 0) ∧
    ∀ i n, (g.countDownAll p readers).remaining.get? i = some n ↔
      i ∉ readers ∧ p.remaining.get? i = some n ∨
        i ∈ readers ∧ n ≠ 0 ∧ p.remaining.get? i = some (n + 1) := by
  induction readers generalizing p with
  | nil => simp [countDownAll]
  | cons k rest ih =>
      obtain ⟨other, once⟩ := List.nodup_cons.mp once
      obtain ⟨ready, remaining⟩ := get?_countDown h k
      obtain ⟨readyAll, remainingAll⟩ := ih (h.countDown k) once
      refine ⟨fun a i => (readyAll a i).trans ?_, fun i n => (remainingAll i n).trans ?_⟩
      · simp only [ready, remaining, List.mem_cons]
        grind
      · simp only [remaining, List.mem_cons]
        grind

end CountingDown

namespace Tracks

variable {p : Progress} {waiting : List Waiting} {cell : Address} {ready : OrderedMap Address Nat}

/-- Some cell is ready exactly if one of the waiting cells waits for nothing. -/
theorem find?_eq_none (h : g.Tracks p waiting) (empty : p.ready.pop? = none) :
    waiting.find? (·.pending.isEmpty) = none := by
  refine List.find?_eq_none.mpr fun v member free => ?_
  obtain ⟨i, known⟩ := contains_iff_cellAt?.mp (h.formula v member).contains
  have held := (h.ready v.cell i).mpr ⟨known, v, member, rfl, List.isEmpty_iff.mp free⟩
  cases held.symm.trans (OrderedMap.get?_of_pop?_eq_none empty v.cell)

/-- The least cell that is ready is the first one that waits for nothing. -/
theorem exists_find?_eq_some (h : g.Tracks p waiting)
    (popped : p.ready.pop? = some ((cell, i), ready)) :
    ∃ v, waiting.find? (·.pending.isEmpty) = some v ∧ v.cell = cell ∧ v.pending = [] ∧
      g.cellAt? i = some cell := by
  obtain ⟨known, v, member, rfl, free⟩ :=
    (h.ready cell i).mp (OrderedMap.get?_self_of_pop? popped)
  have some : (waiting.find? (·.pending.isEmpty)).isSome :=
    List.find?_isSome.mpr ⟨v, member, List.isEmpty_iff.mpr free⟩
  obtain ⟨u, found⟩ := Option.isSome_iff_exists.mp some
  have below := isLE_of_find?_eq_some h.ascending found v member (List.isEmpty_iff.mpr free)
  have first := List.mem_of_find?_eq_some found
  have open' : u.pending = [] := List.isEmpty_iff.mp (by simpa using List.find?_some found)
  obtain ⟨j, here⟩ := contains_iff_cellAt?.mp (h.formula u first).contains
  have above := OrderedMap.isLE_of_pop? popped ((h.ready u.cell j).mpr ⟨here, u, first, rfl, open'⟩)
  have same := Std.LawfulEqCmp.eq_of_compare (Std.OrientedCmp.isLE_antisymm below above)
  exact ⟨u, found, same, open', known⟩

theorem keyed_of_pop? (h : g.Tracks p waiting) (popped : p.ready.pop? = some ((cell, i), ready)) :
    g.Keyed { p with ready } := by
  refine ⟨fun a j held => ?_, fun j n held => ?_⟩
  · rw [OrderedMap.get?_of_pop? popped] at held
    split at held
    · cases held
    · exact ((h.ready a j).mp held).1
  · obtain ⟨v, -, here, -⟩ := (h.remaining j n).mp held
    exact ⟨v.cell, here⟩

/-- The nodes that read a waiting cell are those of the cells that wait for it. -/
theorem mem_distinct_sources_iff (h : g.Tracks p waiting) {first v : Waiting}
    (member : first ∈ waiting) (known : g.cellAt? i = some first.cell)
    (waits : v ∈ waiting) (here : g.cellAt? j = some v.cell) :
    j ∈ distinct (g.sources i) ↔ first.cell ∈ v.pending := by
  rw [mem_distinct, mem_sources_iff, h.pending v waits, edge_iff here known]
  exact (and_iff_left (List.mem_map_of_mem member)).symm

/-- Placing a ready cell keeps the counts in line: exactly the nodes of the cells that wait for it
are counted down. -/
theorem step (h : g.Tracks p waiting) (popped : p.ready.pop? = some ((cell, i), ready)) :
    g.Tracks (g.countDownAll { p with ready } (distinct (g.sources i))) (release cell waiting) := by
  obtain ⟨first, found, rfl, free, known⟩ := h.exists_find?_eq_some popped
  have member := List.mem_of_find?_eq_some found
  obtain ⟨readyAfter, remainingAfter⟩ :=
    get?_countDownAll (h.keyed_of_pop? popped) (nodup_distinct (g.sources i))
  have other {v : Waiting} (waits : v ∈ waiting) (some : v.pending ≠ []) : v.cell ≠ first.cell := by
    intro same
    rw [eq_of_cell_eq h.ascending waits member same] at some
    exact some free
  have counted {v : Waiting} (waits : v ∈ waiting) {j : Nat} (here : g.cellAt? j = some v.cell) :
      (j ∈ distinct (g.sources i) ∧
        (v.pending.filter (· ≠ first.cell)).length + 1 = v.pending.length) ∨
      (j ∉ distinct (g.sources i) ∧ v.pending.filter (· ≠ first.cell) = v.pending) := by
    rw [h.mem_distinct_sources_iff member known waits here]
    exact h.pending_release waits first.cell
  refine ⟨h.toConsistent.release first.cell, fun a j => ?_, fun j n => ?_⟩
  · rw [readyAfter, OrderedMap.get?_of_pop? popped]
    constructor
    · rintro (held | ⟨reader, here, n, held, last⟩)
      · split at held
        case isTrue => cases held
        case isFalse different =>
          obtain ⟨here, v, waits, rfl, none⟩ := (h.ready a j).mp held
          exact ⟨here, _, mem_release_iff.mpr ⟨v, waits, different, rfl⟩, rfl, by simp [none]⟩
      · obtain ⟨v, waits, here', some, length⟩ := (h.remaining j n).mp held
        obtain rfl := Option.some.inj (here'.symm.trans here)
        refine ⟨here, _, mem_release_iff.mpr ⟨v, waits, other waits some, rfl⟩, rfl, ?_⟩
        rcases counted waits here with ⟨-, less⟩ | ⟨no, -⟩
        · refine List.length_eq_zero_iff.mp ?_
          dsimp only
          omega
        · exact absurd reader no
    · rintro ⟨here, w, released, rfl, none⟩
      obtain ⟨v, waits, different, rfl⟩ := mem_release_iff.mp released
      dsimp only at here none ⊢
      rcases counted waits here with ⟨reader, less⟩ | ⟨-, same⟩
      · rw [none, List.length_nil] at less
        refine .inr ⟨reader, here, 1, (h.remaining j 1).mpr ⟨v, waits, here, ?_, less.symm⟩, rfl⟩
        exact List.ne_nil_of_length_pos (by omega)
      · rw [if_neg different]
        exact .inl ((h.ready _ j).mpr ⟨here, v, waits, rfl, same ▸ none⟩)
  · rw [remainingAfter]
    constructor
    · rintro (⟨no, held⟩ | ⟨reader, more, held⟩)
      · obtain ⟨v, waits, here, some, length⟩ := (h.remaining j n).mp held
        refine ⟨_, mem_release_iff.mpr ⟨v, waits, other waits some, rfl⟩, here, ?_⟩
        rcases counted waits here with ⟨reader, -⟩ | ⟨-, same⟩
        · exact absurd reader no
        · rw [same]
          exact ⟨some, length⟩
      · obtain ⟨v, waits, here, some, length⟩ := (h.remaining j (n + 1)).mp held
        refine ⟨_, mem_release_iff.mpr ⟨v, waits, other waits some, rfl⟩, here, ?_⟩
        rcases counted waits here with ⟨-, less⟩ | ⟨no, -⟩
        · refine ⟨List.ne_nil_of_length_pos ?_, ?_⟩ <;> dsimp only <;> omega
        · exact absurd reader no
    · rintro ⟨w, released, here, some, length⟩
      obtain ⟨v, waits, -, rfl⟩ := mem_release_iff.mp released
      dsimp only at here some length
      have positive := List.length_pos_of_ne_nil some
      rcases counted waits here with ⟨reader, less⟩ | ⟨no, same⟩
      · refine .inr ⟨reader, by omega, (h.remaining j (n + 1)).mpr ⟨v, waits, here, ?_, by omega⟩⟩
        exact List.ne_nil_of_length_pos (by omega)
      · rw [same] at some length
        exact .inl ⟨no, (h.remaining j n).mpr ⟨v, waits, here, some, length⟩⟩

/-- Counting places the same cells as waiting, and what is left is in line too. -/
theorem placeReady_eq (h : g.Tracks p waiting) : (g.placeReady p).1 = (place waiting).1 ∧
    g.Tracks (g.placeReady p).2 (place waiting).2 ∧ (g.placeReady p).2.ready.pop? = none := by
  fun_induction g.placeReady p generalizing waiting with
  | case1 p empty =>
      rw [place_of_find?_eq_none (h.find?_eq_none empty)]
      exact ⟨rfl, h, empty⟩
  | case2 p cell i ready popped smaller order left result ih =>
      obtain ⟨v, found, rfl, -, -⟩ := h.exists_find?_eq_some popped
      obtain ⟨same, tracks, empty⟩ := ih (h.step popped)
      rw [result] at same tracks empty
      rw [place_of_find?_eq_some found]
      exact ⟨congrArg _ same, tracks, empty⟩

end Tracks

/-- No count is left exactly if no cell is left. -/
theorem Tracks.remaining_isEmpty_iff {p : Progress} {left : List Waiting} (h : g.Tracks p left)
    (empty : p.ready.pop? = none) : p.remaining.toList.isEmpty ↔ left = [] := by
  rw [List.isEmpty_iff]
  constructor
  · intro none
    refine List.eq_nil_iff_forall_not_mem.mpr fun v member => ?_
    obtain ⟨i, known⟩ := contains_iff_cellAt?.mp (h.formula v member).contains
    have waits : v.pending ≠ [] := by
      have stuck := List.find?_eq_none.mp (h.find?_eq_none empty) v member
      simpa using stuck
    have held := (h.remaining i v.pending.length).mpr ⟨v, member, known, waits, rfl⟩
    rw [OrderedMap.get?_eq_some_iff, none] at held
    cases held
  · rintro rfl
    refine List.eq_nil_iff_forall_not_mem.mpr fun ⟨i, n⟩ member => ?_
    obtain ⟨v, none, -⟩ := (h.remaining i n).mp (OrderedMap.get?_eq_some_iff.mpr member)
    cases none

/-- The order is what is placed, if nothing is left. -/
theorem order_eq (g : Graph) : g.order =
    if (place g.waiting).2 = [] then .ok (place g.waiting).1
    else .error (.cyclicDependency g.findCycle) := by
  obtain ⟨same, tracks, empty⟩ := g.tracks_unplaced.placeReady_eq
  rw [order, ← same]
  exact if_congr (tracks.remaining_isEmpty_iff empty) rfl rfl

end Graph

end SheetCompiler.Dependency
