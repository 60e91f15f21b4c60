import SheetCompiler.Proofs.Dependency.Order
import SheetCompiler.Proofs.Dependency.Search

/-!
# Shortest circles

Nodes lie on a circle together if they are in one component and some edge leads on inside it. A
circle never leaves its component, so a search inside the component finds a shortest one. Main
statement: what is reported is a shortest circle of the workbook through the least cell that lies on
any.
-/

namespace SheetCompiler.Dependency

open Relation

/-- A closed chain can be walked from any of its cells back to that cell, one step for each cell. -/
theorem walk_of_closedChain {w : Workbook} {chain : List Address} {start : Address}
    (closed : w.ClosedChain chain) (member : start ∈ chain) :
    Walk w.Reads start chain.length start := by
  obtain ⟨before, after, rfl⟩ := List.append_of_mem member
  obtain ⟨-, reads⟩ := closed
  cases before with
  | nil =>
      have back := Walk.refl.follow after reads
      rw [List.nil_append, List.length_cons]
      convert back using 1
      omega
  | cons first before =>
      have split : (first :: before) ++ start :: (after ++ [first]) =
          (first :: before ++ start :: after) ++
            (first :: before ++ start :: after).head?.toList := by
        simp
      rw [← split, List.isChain_split] at reads
      -- From the start to the end of the chain, over to its first cell, and on to the start.
      have toFirst := Walk.refl.follow after reads.2
      have back := toFirst.follow before reads.1
      rw [List.length_append, List.length_cons, List.length_cons]
      convert back using 1
      omega

theorem circular_of_closedChain {w : Workbook} {chain : List Address} {start : Address}
    (closed : w.ClosedChain chain) (member : start ∈ chain) : w.Circular start := by
  have walk := walk_of_closedChain closed member
  obtain ⟨n, length⟩ := Nat.exists_eq_add_one_of_ne_zero
    (Nat.ne_of_gt (List.length_pos_of_mem member))
  rw [length] at walk
  exact walk.transGen

namespace Graph

variable {g : Graph} {w : Workbook} {a b : Address} {i j : Nat} {numbers component : List Nat}

/-- There is an edge between two nodes. -/
def Links (g : Graph) (i j : Nat) : Prop :=
  (i, j) ∈ g.edges

theorem hasEdge_iff : g.hasEdge i j ↔ g.Links i j := by
  rw [hasEdge, List.contains_iff_mem, Links]

section Components

theorem mem_targets_numbers (i j : Nat) (h : j ∈ g.targets i) : j ∈ g.numbers :=
  List.mem_range.mpr (g.joined _ (mem_targets_iff.mp h)).2

theorem mem_sources_numbers (j i : Nat) (h : i ∈ g.sources j) : i ∈ g.numbers :=
  List.mem_range.mpr (g.joined _ (mem_sources_iff.mp h)).1

/-- The nodes of a component can be reached from one another. -/
theorem mem_component_iff :
    j ∈ g.component i ↔ ReflTransGen g.Links i j ∧ ReflTransGen g.Links j i := by
  have forward : (fun a b => b ∈ g.targets a) = g.Links := by
    funext a b
    exact propext mem_targets_iff
  have backward : (fun a b => b ∈ g.sources a) = Function.swap g.Links := by
    funext a b
    exact propext mem_sources_iff
  rw [component, List.mem_filter, List.contains_iff_mem,
    Search.mem_reached_start_iff mem_targets_numbers,
    Search.mem_reached_start_iff mem_sources_numbers, forward, backward]
  exact and_congr_right fun _ => reflTransGen_swap

theorem mem_component_self (g : Graph) (i : Nat) : i ∈ g.component i :=
  mem_component_iff.mpr ⟨.refl, .refl⟩

theorem nodup_component (g : Graph) (i : Nat) : (g.component i).Nodup := by
  refine List.Nodup.filter _ (Search.nodup_reached (List.nodup_singleton i) fun j member => ?_)
  obtain rfl := List.mem_singleton.mp member
  simp [Search.start]

/-- The node itself stands at the head of its component. -/
theorem exists_component_eq_cons (g : Graph) (i : Nat) : ∃ rest, g.component i = i :: rest := by
  have inside : i ∈ (Search.start g.numbers i).reached g.sources :=
    Search.mem_reached_of_mem_queue List.mem_cons_self
  obtain ⟨others, first⟩ : ∃ others,
      (Search.start g.numbers i).reached g.targets = i :: others := by
    rw [Search.reached]
    exact ⟨_, rfl⟩
  rw [component, first, List.filter_cons_of_pos (List.contains_iff_mem.mpr inside)]
  exact ⟨_, rfl⟩

theorem exists_eq_component (h : component ∈ g.componentsOf numbers) :
    ∃ i ∈ numbers, component = g.component i := by
  fun_induction g.componentsOf numbers with
  | case1 => cases h
  | case2 i rest ih =>
      rcases List.mem_cons.mp h with rfl | later
      · exact ⟨i, List.mem_cons_self, rfl⟩
      · obtain ⟨j, member, same⟩ := ih later
        exact ⟨j, List.mem_cons_of_mem _ (List.mem_of_mem_filter member), same⟩

theorem exists_mem_componentsOf (h : i ∈ numbers) : ∃ c ∈ g.componentsOf numbers, i ∈ c := by
  fun_induction g.componentsOf numbers with
  | case1 => cases h
  | case2 j rest ih =>
      by_cases inside : i ∈ g.component j
      · exact ⟨_, List.mem_cons_self, inside⟩
      · have other : i ≠ j := by
          rintro rfl
          exact inside (g.mem_component_self i)
        have later := (List.mem_cons.mp h).resolve_left other
        obtain ⟨c, member, holds⟩ := ih (List.mem_filter.mpr ⟨later, by simpa using inside⟩)
        exact ⟨c, List.mem_cons_of_mem _ member, holds⟩

/-- A component is cyclic exactly if its nodes lie on circles. -/
theorem isCyclic_component_iff : g.isCyclic (g.component i) ↔ TransGen g.Links i i := by
  have once := g.nodup_component i
  have mem_iff {j : Nat} := mem_component_iff (g := g) (i := i) (j := j)
  obtain ⟨rest, split⟩ := g.exists_component_eq_cons i
  rw [split] at once mem_iff
  rw [split, isCyclic, Bool.or_eq_true, decide_eq_true_eq, List.head?_cons, Option.any_some,
    hasEdge_iff]
  constructor
  · rintro (several | own)
    · obtain ⟨j, later⟩ := List.exists_mem_of_length_pos (Nat.lt_of_succ_lt_succ several)
      obtain ⟨there, back⟩ := mem_iff.mp (List.mem_cons_of_mem _ later)
      have other : j ≠ i := by
        rintro rfl
        exact (List.nodup_cons.mp once).1 later
      exact ((reflTransGen_iff_eq_or_transGen.mp there).resolve_left other).trans_left back
    · exact .single own
  · intro circular
    obtain ⟨j, first, back⟩ := TransGen.head'_iff.mp circular
    rcases List.mem_cons.mp (mem_iff.mpr ⟨.single first, back⟩) with rfl | later
    · exact .inr first
    · exact .inl (Nat.succ_lt_succ (List.length_pos_of_mem later))

end Components

section Starts

theorem get?_byCell : (g.byCell numbers).get? a = some i ↔ i ∈ numbers ∧ g.cellAt? i = some a := by
  have listed {j : Nat} :
      (a, j) ∈ numbers.filterMap (fun i => (g.cellAt? i).map fun cell => (cell, i)) ↔
      j ∈ numbers ∧ g.cellAt? j = some a := by
    simp only [List.mem_filterMap, Option.map_eq_some_iff, Prod.mk.injEq]
    constructor
    · rintro ⟨k, member, cell, known, rfl, rfl⟩
      exact ⟨member, known⟩
    · rintro ⟨member, known⟩
      exact ⟨j, member, a, known, rfl, rfl⟩
  constructor
  · intro found
    exact listed.mp (OrderedMap.mem_of_get?_ofList found)
  · intro member
    obtain ⟨j, found⟩ :=
      Option.isSome_iff_exists.mp (OrderedMap.isSome_get?_ofList (listed.mpr member))
    obtain ⟨-, known⟩ := listed.mp (OrderedMap.mem_of_get?_ofList found)
    rwa [cellAt?_inj member.2 known]

/-- The start of a component is its least node. -/
theorem withStart?_eq_some {start : Address × Nat × List Nat}
    (h : g.withStart? component = some start) :
    ∃ i, start = (start.1, i, component) ∧ i ∈ component ∧ g.cellAt? i = some start.1 ∧
      ∀ j ∈ component, ∀ b, g.cellAt? j = some b → (compare start.1 b).isLE := by
  obtain ⟨⟨⟨cell, i⟩, rest⟩, popped, rfl⟩ := Option.map_eq_some_iff.mp h
  obtain ⟨member, known⟩ := get?_byCell.mp (OrderedMap.get?_self_of_pop? popped)
  refine ⟨i, rfl, member, known, fun j other b cell => ?_⟩
  exact OrderedMap.isLE_of_pop? popped (get?_byCell.mpr ⟨other, cell⟩)

theorem exists_withStart? (member : i ∈ component) (known : g.cellAt? i = some a) :
    ∃ start, g.withStart? component = some start := by
  rw [← Option.ne_none_iff_exists', withStart?, Ne, Option.map_eq_none_iff]
  intro none
  have found := get?_byCell.mpr ⟨member, known⟩
  rw [OrderedMap.get?_of_pop?_eq_none none] at found
  cases found

/-- The least node that lies on a circle, with its component. -/
structure CycleStart (g : Graph) (start : Nat) (component : List Nat) (cell : Address) : Prop where
  known : g.cellAt? start = some cell
  circular : TransGen g.Links start start
  component : ∀ i, i ∈ component ↔ ReflTransGen g.Links start i ∧ ReflTransGen g.Links i start
  least : ∀ i b, TransGen g.Links i i → g.cellAt? i = some b → (compare cell b).isLE

/-- A node that lies on a circle is in a cyclic component, which has a start. -/
theorem exists_start_of_circular (circular : TransGen g.Links i i) (known : g.cellAt? i = some a) :
    ∃ start ∈ ((g.componentsOf g.numbers).filter g.isCyclic).filterMap g.withStart?,
      (compare start.1 a).isLE := by
  obtain ⟨c, listed, inside⟩ := exists_mem_componentsOf (List.mem_range.mpr (lt_size known))
  obtain ⟨k, -, rfl⟩ := exists_eq_component listed
  obtain ⟨there, back⟩ := mem_component_iff.mp inside
  have cyclic : g.isCyclic (g.component k) :=
    isCyclic_component_iff.mpr ((TransGen.trans_right there circular).trans_left back)
  obtain ⟨start, found⟩ := exists_withStart? inside known
  obtain ⟨-, -, -, -, least⟩ := withStart?_eq_some found
  exact ⟨start, List.mem_filterMap.mpr ⟨_, List.mem_filter.mpr ⟨listed, cyclic⟩, found⟩,
    least i inside a known⟩

theorem cycleStart?_spec (g : Graph) :
    match g.cycleStart? with
    | none => ∀ i, ¬ TransGen g.Links i i
    | some (start, component) => ∃ cell, g.CycleStart start component cell := by
  rw [cycleStart?]
  cases popped : (OrderedMap.ofList
      (((g.componentsOf g.numbers).filter g.isCyclic).filterMap g.withStart?)).pop? with
  | none =>
      intro i circular
      obtain ⟨j, first, -⟩ := TransGen.head'_iff.mp circular
      obtain ⟨a, known⟩ := exists_cellAt? (g.joined _ first).1
      obtain ⟨start, member, -⟩ := exists_start_of_circular circular known
      have held := OrderedMap.isSome_get?_ofList member
      rw [OrderedMap.get?_of_pop?_eq_none popped] at held
      cases held
  | some entry =>
      obtain ⟨⟨cell, start, component⟩, rest⟩ := entry
      have listed := OrderedMap.mem_of_get?_ofList (OrderedMap.get?_self_of_pop? popped)
      obtain ⟨c, member, found⟩ := List.mem_filterMap.mp listed
      obtain ⟨i, same, inside, known, -⟩ := withStart?_eq_some found
      obtain ⟨rfl, rfl⟩ : start = i ∧ component = c := by simpa using same
      obtain ⟨member, cyclic⟩ := List.mem_filter.mp member
      obtain ⟨k, -, rfl⟩ := exists_eq_component member
      obtain ⟨there, back⟩ := mem_component_iff.mp inside
      have circular := isCyclic_component_iff.mp cyclic
      refine ⟨cell, known, (TransGen.trans_right back circular).trans_left there, fun i => ?_,
        fun i b around here => ?_⟩
      · rw [mem_component_iff]
        constructor
        · rintro ⟨outward, homeward⟩
          exact ⟨back.trans outward, homeward.trans there⟩
        · rintro ⟨outward, homeward⟩
          exact ⟨there.trans outward, homeward.trans back⟩
      · obtain ⟨⟨cell', value⟩, member, below⟩ := exists_start_of_circular around here
        obtain ⟨value, held⟩ := Option.isSome_iff_exists.mp (OrderedMap.isSome_get?_ofList member)
        exact Std.TransCmp.isLE_trans (OrderedMap.isLE_of_pop? popped held) below

end Starts

section Circles

variable {start n : Nat} {cell : Address}

theorem mem_targetsWithin_iff :
    j ∈ g.targetsWithin component i ↔ g.Links i j ∧ j ∈ component := by
  have values : j ∈ g.targetsWithin component i ↔
      ∃ a, (g.byCell ((g.targets i).filter component.contains)).get? a = some j := by
    rw [targetsWithin, OrderedMap.values, List.mem_map]
    constructor
    · rintro ⟨⟨a, k⟩, member, rfl⟩
      exact ⟨a, OrderedMap.get?_eq_some_iff.mpr member⟩
    · rintro ⟨a, found⟩
      exact ⟨(a, j), OrderedMap.get?_eq_some_iff.mp found, rfl⟩
  simp only [values, get?_byCell, List.mem_filter, List.contains_iff_mem, mem_targets_iff]
  constructor
  · rintro ⟨a, inside, -⟩
    exact inside
  · rintro ⟨edge, inside⟩
    obtain ⟨b, right⟩ := exists_cellAt? (g.joined _ edge).2
    exact ⟨b, ⟨edge, inside⟩, right⟩

/-- A walk that can go back stays in the component. -/
theorem CycleStart.walk_within (h : g.CycleStart start component cell)
    (walk : Walk g.Links start n i) (back : ReflTransGen g.Links i start) :
    Walk (fun a b => b ∈ g.targetsWithin component a) start n i := by
  induction walk with
  | refl => exact .refl
  | @step n a b earlier last ih =>
      refine (ih (.head last back)).step (mem_targetsWithin_iff.mpr ⟨last, ?_⟩)
      exact (h.component b).mpr ⟨earlier.reflTransGen.tail last, back⟩

/-- A shortest circle from the start, which stays in the component. -/
theorem CycleStart.circleFrom (h : g.CycleStart start component cell) :
    Search.Closest (g.targetsWithin component) start (g.circleFrom start component) := by
  have inside : start ∈ component := (h.component start).mpr ⟨.refl, .refl⟩
  rw [Graph.circleFrom]
  split
  case isTrue own =>
    refine ⟨rfl, List.isChain_pair.mpr (mem_targetsWithin_iff.mpr ⟨hasEdge_iff.mp own, inside⟩),
      List.nodup_singleton start, fun n _ => ?_⟩
    exact Nat.le_add_left 1 n
  case isFalse =>
    have closed : ∀ i j, j ∈ g.targetsWithin component i → j ∈ component :=
      fun i j step => (mem_targetsWithin_iff.mp step).2
    have spec := Search.back?_start_spec closed inside
    split
    case h_1 last parents found =>
      rw [found] at spec
      exact spec
    case h_2 none =>
      rw [none] at spec
      obtain ⟨n, walk⟩ := Walk.exists_of_transGen h.circular
      exact absurd (h.walk_within walk .refl).transGen spec

end Circles

end Graph

/-- A circle as it is reported: it starts at the least cell that lies on any circle, meets no cell
twice, and no other circle through its first cell is shorter. -/
structure ShortestCircle (w : Workbook) (start : Address) (chain : List Address) : Prop where
  head : chain.head? = some start
  closed : w.ClosedChain chain
  nodup : chain.Nodup
  circular : w.Circular start
  least : ∀ a, w.Circular a → (compare start a).isLE
  shortest : ∀ other, w.ClosedChain other → start ∈ other → chain.length ≤ other.length

namespace Graph

variable {g : Graph} {w : Workbook} {a b cell : Address} {start i j n : Nat} {component : List Nat}

section Workbooks

theorem Shows.links_of_reads (h : g.Shows w) (reads : w.Reads a b) :
    g.Links (g.numberOf a) (g.numberOf b) := by
  obtain ⟨edge, -⟩ := h.reads_iff.mp reads
  exact (edge_iff (cellAt?_numberOf edge.contains_left) (cellAt?_numberOf edge.contains_right)).mp
    edge

/-- Where an edge leads on, references do. -/
theorem Shows.reads_of_links (h : g.Shows w) {k : Nat} (first : g.Links i j) (second : g.Links j k)
    (left : g.cellAt? i = some a) (right : g.cellAt? j = some b) : w.Reads a b := by
  obtain ⟨b', c, here, -, onward⟩ := exists_edge second
  obtain rfl := Option.some.inj (right.symm.trans here)
  obtain ⟨expr, formula, -⟩ := (h.edge _ _).mp onward
  refine h.reads_iff.mpr ⟨(edge_iff left right).mpr first, (h.formula _).mpr ?_⟩
  rw [formula]
  rfl

theorem Shows.walk_of_walk (h : g.Shows w) (walk : Walk w.Reads a n b) :
    Walk g.Links (g.numberOf a) n (g.numberOf b) := by
  induction walk with
  | refl => exact .refl
  | step _ last ih => exact ih.step (h.links_of_reads last)

theorem Shows.transGen_of_circular (h : g.Shows w) (circular : w.Circular a) :
    TransGen g.Links (g.numberOf a) (g.numberOf a) := by
  obtain ⟨n, walk⟩ := Walk.exists_of_transGen circular
  exact (h.walk_of_walk walk).transGen

/-- Nodes and their cells stand for each other. -/
theorem exists_cells {numbers : List Nat} (h : ∀ i ∈ numbers, i < g.nodes.size) :
    ∃ cells, numbers.filterMap g.cellAt? = cells ∧ cells.map g.numberOf = numbers ∧
      ∀ a ∈ cells, g.contains a := by
  induction numbers with
  | nil => exact ⟨[], rfl, rfl, List.forall_mem_nil _⟩
  | cons i rest ih =>
      obtain ⟨cells, shown, numbered, known⟩ := ih fun j later => h j (List.mem_cons_of_mem _ later)
      obtain ⟨a, cell⟩ := exists_cellAt? (h i List.mem_cons_self)
      refine ⟨a :: cells, ?_, ?_, List.forall_mem_cons.mpr ⟨?_, known⟩⟩
      · rw [List.filterMap_cons_some cell, shown]
      · rw [List.map_cons, numberOf_eq cell, numbered]
      · exact contains_iff_cellAt?.mpr ⟨i, cell⟩

/-- The nodes of a circle inside the component of its start are known. -/
theorem lt_size_of_closed {chain : List Nat}
    (closed : (chain ++ [start]).IsChain fun i j => j ∈ g.targetsWithin component i) :
    ∀ i ∈ chain, i < g.nodes.size := by
  induction chain with
  | nil => exact List.forall_mem_nil _
  | cons first rest ih =>
      refine List.forall_mem_cons.mpr ⟨?_, ih closed.tail⟩
      obtain ⟨next, others, split⟩ := List.exists_cons_of_ne_nil
        (List.append_ne_nil_of_right_ne_nil rest (List.cons_ne_nil start []))
      rw [List.cons_append, split, List.isChain_cons_cons] at closed
      exact (g.joined _ (mem_targetsWithin_iff.mp closed.1).1).1

/-- Inside the component edges are references: each node there has an edge that leads on. -/
theorem CycleStart.reads (h : g.CycleStart start component cell) (shows : g.Shows w)
    (step : j ∈ g.targetsWithin component i) (left : g.cellAt? i = some a)
    (right : g.cellAt? j = some b) : w.Reads a b := by
  obtain ⟨link, inside⟩ := mem_targetsWithin_iff.mp step
  obtain ⟨outward, homeward⟩ := (h.component j).mp inside
  have circular := (TransGen.trans_right homeward h.circular).trans_left outward
  obtain ⟨k, onward, -⟩ := TransGen.head'_iff.mp circular
  exact shows.reads_of_links link onward left right

theorem CycleStart.shortestCircle (h : g.CycleStart start component cell) (shows : g.Shows w) :
    ShortestCircle w cell ((g.circleFrom start component).filterMap g.cellAt?) := by
  have circle := h.circleFrom
  obtain ⟨cells, shown, numbered, known⟩ := exists_cells (lt_size_of_closed circle.closed)
  have number := numberOf_eq h.known
  have contained : g.contains cell := contains_iff_cellAt?.mpr ⟨start, h.known⟩
  have head : cells.head? = some cell := by
    have first := circle.head
    rw [← numbered, List.head?_map, Option.map_eq_some_iff] at first
    obtain ⟨a, first, same⟩ := first
    rw [first, numberOf_inj (known a (List.mem_of_head? first)) contained (same.trans number.symm)]
  have closed : (cells ++ [cell]).IsChain w.Reads := by
    have steps := circle.closed
    rw [← numbered, ← number, ← List.map_singleton, ← List.map_append, List.isChain_map] at steps
    have all : ∀ a ∈ cells ++ [cell], g.contains a :=
      List.forall_mem_append.mpr ⟨known, List.forall_mem_singleton.mpr contained⟩
    refine steps.imp_of_mem_imp fun a b left right step => ?_
    exact h.reads shows step (cellAt?_numberOf (all a left)) (cellAt?_numberOf (all b right))
  have closedChain : w.ClosedChain cells := by
    rw [Workbook.ClosedChain, head]
    exact ⟨List.ne_nil_of_mem (List.mem_of_head? head), closed⟩
  rw [shown]
  refine ⟨head, closedChain, ?_, circular_of_closedChain closedChain (List.mem_of_head? head),
    fun a circular => ?_, fun other closed member => ?_⟩
  · exact List.Nodup.of_map g.numberOf (numbered ▸ circle.nodup)
  · obtain ⟨b, first, -⟩ := TransGen.head'_iff.mp circular
    exact h.least _ a (shows.transGen_of_circular circular)
      (cellAt?_numberOf (shows.reads_iff.mp first).1.contains_left)
  · obtain ⟨n, length⟩ := Nat.exists_eq_add_one_of_ne_zero
      (Nat.ne_of_gt (List.length_pos_of_mem member))
    have walk := shows.walk_of_walk (walk_of_closedChain closed member)
    rw [number, length] at walk
    have bound := circle.le_walk n (h.walk_within walk .refl)
    rwa [← numbered, List.length_map, ← length] at bound

end Workbooks

/-- The reported circle is a shortest one through the least cell on any circle, both where circles
are looked for and where ordering fails; without a circle nothing is reported. -/
theorem findCycle_shortestCircle (w : Workbook) :
    (w.Acyclic → (ofWorkbook w).findCycle = []) ∧
      (¬ w.Acyclic →
        (ofWorkbook w).order = .error (.cyclicDependency (ofWorkbook w).findCycle) ∧
          ∃ start, ShortestCircle w start (ofWorkbook w).findCycle) := by
  have shows := shows_ofWorkbook w
  have spec := (ofWorkbook w).cycleStart?_spec
  constructor
  · intro acyclic
    rw [findCycle]
    cases found : (ofWorkbook w).cycleStart? with
    | none => rfl
    | some start =>
        rw [found] at spec
        obtain ⟨cell, start⟩ := spec
        exact absurd (start.shortestCircle shows).circular (acyclic cell)
  · intro cyclic
    refine ⟨order_eq_error_of_not_acyclic cyclic, ?_⟩
    rw [findCycle]
    cases found : (ofWorkbook w).cycleStart? with
    | none =>
        rw [found] at spec
        refine absurd (fun a circular => ?_) cyclic
        exact spec _ (shows.transGen_of_circular circular)
    | some start =>
        rw [found] at spec
        obtain ⟨cell, start⟩ := spec
        exact ⟨cell, start.shortestCircle shows⟩

end Graph

end SheetCompiler.Dependency
