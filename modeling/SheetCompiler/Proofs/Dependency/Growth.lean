import SheetCompiler.Dependency.Graph
import SheetCompiler.Proofs.OrderedMap

/-!
# Growing graphs

A graph says three things of cells: which ones it knows, which ones hold a formula, and which ones
each formula reads. Every view of a graph is a list of what it says, and every step of its growth
adds to that and takes nothing away: `Adds`. What is said of a graph that has grown does not depend
on the order of the steps, and so not on the numbers of its nodes.
-/

namespace SheetCompiler.Dependency.Graph

variable {g g' g'' : Graph} {a b : Address} {i j : Nat}

/-- The graph knows that the cell holds a formula. -/
def HoldsFormula (g : Graph) (a : Address) : Prop :=
  ∃ i : Nat, g.nodes[i]? = some (⟨a, true⟩ : Node)

/-- The graph has an edge between the nodes of two cells. -/
def Edge (g : Graph) (a b : Address) : Prop :=
  ∃ i j, (i, j) ∈ g.edges ∧ g.cellAt? i = some a ∧ g.cellAt? j = some b

/-- The number of a cell that the graph knows. -/
def numberOf (g : Graph) (a : Address) : Nat :=
  (g.index.get? a).getD 0

section Numbers

theorem index_eq_some_iff : g.index.get? a = some i ↔ g.cellAt? i = some a :=
  g.indexed a i

/-- A cell has one number. -/
theorem cellAt?_inj (h : g.cellAt? i = some a) (h' : g.cellAt? j = some a) : i = j := by
  rw [← index_eq_some_iff] at h h'
  exact Option.some.inj (h.symm.trans h')

theorem numberOf_eq (h : g.cellAt? i = some a) : g.numberOf a = i := by
  rw [numberOf, index_eq_some_iff.mpr h]
  rfl

theorem cellAt?_eq_none_iff : g.cellAt? i = none ↔ g.nodes.size ≤ i := by
  rw [cellAt?, Option.map_eq_none_iff, Array.getElem?_eq_none_iff]

theorem lt_size (h : g.cellAt? i = some a) : i < g.nodes.size := by
  refine Nat.lt_of_not_le fun beyond => ?_
  rw [cellAt?_eq_none_iff.mpr beyond] at h
  cases h

theorem exists_cellAt? (h : i < g.nodes.size) : ∃ a, g.cellAt? i = some a := by
  rw [← Option.ne_none_iff_exists', Ne, cellAt?_eq_none_iff]
  omega

theorem contains_iff_cellAt? : g.contains a ↔ ∃ i, g.cellAt? i = some a := by
  simp only [contains, OrderedMap.contains, Option.isSome_iff_exists, index_eq_some_iff]

theorem cellAt?_numberOf (h : g.contains a) : g.cellAt? (g.numberOf a) = some a := by
  obtain ⟨i, known⟩ := contains_iff_cellAt?.mp h
  rwa [numberOf_eq known]

theorem numberOf_inj (h : g.contains a) (h' : g.contains b) (same : g.numberOf a = g.numberOf b) :
    a = b := by
  have cell := cellAt?_numberOf h
  rw [same, cellAt?_numberOf h'] at cell
  exact (Option.some.inj cell).symm

theorem cellAt?_of_node {node : Node} (h : g.nodes[i]? = some node) :
    g.cellAt? i = some node.cell := by
  rw [cellAt?, h]
  rfl

theorem exists_node (h : g.cellAt? i = some a) :
    ∃ isFormula, g.nodes[i]? = some ⟨a, isFormula⟩ := by
  obtain ⟨⟨cell, isFormula⟩, found, rfl⟩ := Option.map_eq_some_iff.mp h
  exact ⟨isFormula, found⟩

theorem isFormulaAt_iff (h : g.cellAt? i = some a) : g.isFormulaAt i ↔ g.HoldsFormula a := by
  obtain ⟨isFormula, found⟩ := exists_node h
  rw [isFormulaAt, found]
  constructor
  · rintro known
    obtain rfl : isFormula = true := known
    exact ⟨i, found⟩
  · rintro ⟨j, here⟩
    obtain rfl := cellAt?_inj h (cellAt?_of_node here)
    rw [found] at here
    cases here
    rfl

theorem mem_targets_iff : j ∈ g.targets i ↔ (i, j) ∈ g.edges := by
  simp [targets]

theorem mem_sources_iff : i ∈ g.sources j ↔ (i, j) ∈ g.edges := by
  simp [sources]

/-- Between the nodes of two cells there is an edge exactly if there is one between the cells. -/
theorem edge_iff (left : g.cellAt? i = some a) (right : g.cellAt? j = some b) :
    g.Edge a b ↔ (i, j) ∈ g.edges := by
  constructor
  · rintro ⟨i', j', edge, left', right'⟩
    rwa [cellAt?_inj left left', cellAt?_inj right right']
  · intro edge
    exact ⟨i, j, edge, left, right⟩

theorem exists_edge (h : (i, j) ∈ g.edges) :
    ∃ a b, g.cellAt? i = some a ∧ g.cellAt? j = some b ∧ g.Edge a b := by
  obtain ⟨a, left⟩ := exists_cellAt? (g.joined _ h).1
  obtain ⟨b, right⟩ := exists_cellAt? (g.joined _ h).2
  exact ⟨a, b, left, right, (edge_iff left right).mpr h⟩

theorem Edge.contains_left (h : g.Edge a b) : g.contains a := by
  obtain ⟨i, -, -, left, -⟩ := h
  exact contains_iff_cellAt?.mpr ⟨i, left⟩

theorem Edge.contains_right (h : g.Edge a b) : g.contains b := by
  obtain ⟨-, j, -, -, right⟩ := h
  exact contains_iff_cellAt?.mpr ⟨j, right⟩

theorem HoldsFormula.contains (h : g.HoldsFormula a) : g.contains a := by
  obtain ⟨i, found⟩ := h
  exact contains_iff_cellAt?.mpr ⟨i, cellAt?_of_node found⟩

end Numbers

section Views

theorem mem_cellsAt_iff {numbers : List Nat} :
    a ∈ g.cellsAt numbers ↔ ∃ i ∈ numbers, g.cellAt? i = some a := by
  rw [cellsAt, mem_distinct, List.mem_filterMap]

theorem mem_dependencies_iff_edge : b ∈ g.dependencies a ↔ g.Edge a b := by
  rw [dependencies]
  cases known : g.index.get? a with
  | none =>
      refine iff_of_false List.not_mem_nil ?_
      rintro ⟨i, j, -, left, -⟩
      rw [← index_eq_some_iff, known] at left
      cases left
  | some i =>
      rw [index_eq_some_iff] at known
      simp only [mem_cellsAt_iff, mem_targets_iff]
      constructor
      · rintro ⟨j, edge, right⟩
        exact ⟨i, j, edge, known, right⟩
      · rintro ⟨i', j, edge, left, right⟩
        obtain rfl := cellAt?_inj known left
        exact ⟨j, edge, right⟩

theorem mem_dependents_iff_edge : a ∈ g.dependents b ↔ g.Edge a b := by
  rw [dependents]
  cases known : g.index.get? b with
  | none =>
      refine iff_of_false List.not_mem_nil ?_
      rintro ⟨i, j, -, -, right⟩
      rw [← index_eq_some_iff, known] at right
      cases right
  | some j =>
      rw [index_eq_some_iff] at known
      simp only [mem_cellsAt_iff, mem_sources_iff]
      constructor
      · rintro ⟨i, edge, left⟩
        exact ⟨i, j, edge, left, known⟩
      · rintro ⟨i, j', edge, left, right⟩
        obtain rfl := cellAt?_inj known right
        exact ⟨i, edge, left⟩

theorem mem_formulaCells_iff_holdsFormula : a ∈ g.formulaCells ↔ g.HoldsFormula a := by
  simp only [formulaCells, mem_distinct, List.mem_map, List.mem_filter, Array.mem_toList_iff,
    Array.mem_iff_getElem?, HoldsFormula]
  constructor
  · rintro ⟨⟨cell, isFormula⟩, ⟨⟨i, found⟩, known⟩, rfl⟩
    obtain rfl : isFormula = true := known
    exact ⟨i, found⟩
  · rintro ⟨i, found⟩
    exact ⟨_, ⟨⟨i, found⟩, rfl⟩, rfl⟩

theorem mem_referencedInputs_iff_contains :
    a ∈ g.referencedInputs ↔ g.contains a ∧ ¬ g.HoldsFormula a := by
  rw [contains_iff_cellAt?, referencedInputs, mem_distinct]
  simp only [List.mem_map, List.mem_filter, Array.mem_toList_iff, Array.mem_iff_getElem?]
  constructor
  · rintro ⟨⟨cell, isFormula⟩, ⟨⟨i, found⟩, unknown⟩, rfl⟩
    have known := cellAt?_of_node found
    refine ⟨⟨i, known⟩, ?_⟩
    rw [← isFormulaAt_iff known, isFormulaAt, found]
    simpa using unknown
  · rintro ⟨⟨i, known⟩, input⟩
    obtain ⟨isFormula, found⟩ := exists_node known
    refine ⟨⟨a, isFormula⟩, ⟨⟨i, found⟩, ?_⟩, rfl⟩
    rw [← isFormulaAt_iff known, isFormulaAt, found] at input
    simpa using input

theorem dependencies_ascending (g : Graph) (a : Address) :
    (g.dependencies a).Pairwise fun b b' => compare b b' = .lt := by
  rw [dependencies]
  split
  · exact distinct_ascending _
  · exact List.Pairwise.nil

theorem dependents_ascending (g : Graph) (b : Address) :
    (g.dependents b).Pairwise fun a a' => compare a a' = .lt := by
  rw [dependents]
  split
  · exact distinct_ascending _
  · exact List.Pairwise.nil

theorem formulaCells_ascending (g : Graph) :
    g.formulaCells.Pairwise fun a b => compare a b = .lt :=
  distinct_ascending _

theorem formulaCells_nodup (g : Graph) : g.formulaCells.Nodup :=
  nodup_of_ascending g.formulaCells_ascending

end Views

/-- The second graph says of cells what the first one says, and in addition that it knows these
cells, that these hold formulas, and that these are read by those. Numbers keep their cells. -/
structure Adds (g g' : Graph) (cells formulas : Address → Prop) (reads : Address → Address → Prop) :
    Prop where
  keeps : ∀ i a, g.cellAt? i = some a → g'.cellAt? i = some a
  contains : ∀ a, g'.contains a ↔ g.contains a ∨ cells a
  formula : ∀ a, g'.HoldsFormula a ↔ g.HoldsFormula a ∨ formulas a
  edge : ∀ a b, g'.Edge a b ↔ g.Edge a b ∨ reads a b

section Steps

variable {cells cells' formulas formulas' : Address → Prop}
  {reads reads' : Address → Address → Prop}

theorem Adds.refl (g : Graph) : Adds g g (fun _ => False) (fun _ => False) fun _ _ => False := by
  constructor <;> simp

theorem Adds.trans (first : Adds g g' cells formulas reads)
    (second : Adds g' g'' cells' formulas' reads') :
    Adds g g'' (fun a => cells a ∨ cells' a) (fun a => formulas a ∨ formulas' a)
      fun a b => reads a b ∨ reads' a b where
  keeps i a known := second.keeps i a (first.keeps i a known)
  contains a := by rw [second.contains, first.contains, or_assoc]
  formula a := by rw [second.formula, first.formula, or_assoc]
  edge a b := by rw [second.edge, first.edge, or_assoc]

theorem Adds.congr (h : Adds g g' cells formulas reads) (sameCells : ∀ a, cells a ↔ cells' a)
    (sameFormulas : ∀ a, formulas a ↔ formulas' a) (sameReads : ∀ a b, reads a b ↔ reads' a b) :
    Adds g g' cells' formulas' reads' where
  keeps := h.keeps
  contains a := by rw [h.contains, sameCells]
  formula a := by rw [h.formula, sameFormulas]
  edge a b := by rw [h.edge, sameReads]

/-- With the same edges and more nodes, no edge is added. -/
theorem edge_iff_of_edges_eq (keeps : ∀ i a, g.cellAt? i = some a → g'.cellAt? i = some a)
    (same : g'.edges = g.edges) : g'.Edge a b ↔ g.Edge a b := by
  constructor
  · rintro ⟨i, j, edge, left, right⟩
    rw [same] at edge
    obtain ⟨a', b', left', right', known⟩ := exists_edge edge
    obtain rfl := Option.some.inj ((keeps i a' left').symm.trans left)
    obtain rfl := Option.some.inj ((keeps j b' right').symm.trans right)
    exact known
  · rintro ⟨i, j, edge, left, right⟩
    exact ⟨i, j, same ▸ edge, keeps i a left, keeps j b right⟩

theorem adds_addNode (node : Node) (new : g.index.get? node.cell = none) :
    Adds g (g.addNode node new) (· = node.cell) (fun a => a = node.cell ∧ node.isFormula)
      (fun _ _ => False) := by
  have pushed (i : Nat) : (g.addNode node new).nodes[i]? =
      if i = g.nodes.size then some node else g.nodes[i]? := Array.getElem?_push
  have keeps : ∀ i a, g.cellAt? i = some a → (g.addNode node new).cellAt? i = some a := by
    intro i a known
    rwa [cellAt?, pushed, if_neg (Nat.ne_of_lt (lt_size known))]
  constructor
  case keeps => exact keeps
  case contains =>
    intro a
    rw [Graph.contains, Graph.contains, OrderedMap.contains, OrderedMap.contains, addNode,
      OrderedMap.get?_insert]
    split <;> simp_all
  case formula =>
    intro a
    obtain ⟨cell, isFormula⟩ := node
    simp only [HoldsFormula, pushed]
    constructor
    · rintro ⟨i, found⟩
      split at found
      · cases found
        exact .inr ⟨rfl, rfl⟩
      · exact .inl ⟨i, found⟩
    · rintro (⟨i, found⟩ | ⟨rfl, known⟩)
      · exact ⟨i, by rwa [if_neg (Nat.ne_of_lt (lt_size (cellAt?_of_node found)))]⟩
      · exact ⟨g.nodes.size, by simp_all⟩
  case edge =>
    intro a b
    rw [edge_iff_of_edges_eq keeps rfl, or_false]

theorem adds_markFormula (known : g.cellAt? i = some a) :
    Adds g (g.markFormula i) (fun _ => False) (· = a) (fun _ _ => False) := by
  have modified (j : Nat) : (g.markFormula i).nodes[j]? =
      if i = j then g.nodes[j]?.map fun node => { node with isFormula := true } else g.nodes[j]? :=
    Array.getElem?_modify
  have same : (g.markFormula i).index = g.index := rfl
  have keeps : ∀ j b, g.cellAt? j = some b → (g.markFormula i).cellAt? j = some b := by
    intro j b held
    rw [← index_eq_some_iff] at held ⊢
    rwa [same]
  constructor
  case keeps => exact keeps
  case contains =>
    intro b
    rw [Graph.contains, same, or_false]
    rfl
  case formula =>
    intro b
    obtain ⟨isFormula, found⟩ := exists_node known
    simp only [HoldsFormula, modified]
    constructor
    · rintro ⟨j, marked⟩
      split at marked
      case isTrue here =>
        rw [← here, found] at marked
        cases marked
        exact .inr rfl
      case isFalse => exact .inl ⟨j, marked⟩
    · rintro (⟨j, held⟩ | rfl)
      · refine ⟨j, ?_⟩
        split
        · rw [held]
          rfl
        · exact held
      · exact ⟨i, by rw [if_pos rfl, found]; rfl⟩
  case edge =>
    intro b c
    rw [edge_iff_of_edges_eq keeps rfl, or_false]

/-- To know a cell that is known already adds nothing. -/
theorem Adds.of_contains (h : Adds g g' (fun _ => False) formulas reads) (known : g.contains a) :
    Adds g g' (· = a) formulas reads where
  keeps := h.keeps
  contains b := by
    rw [h.contains, or_false]
    constructor
    · exact .inl
    · rintro (held | rfl)
      · exact held
      · exact known
  formula := h.formula
  edge := h.edge

/-- Meeting a cell makes it known. -/
theorem adds_node (g : Graph) (cell : Address) (isFormula : Bool) :
    (g.node cell isFormula).2.cellAt? (g.node cell isFormula).1 = some cell ∧
      Adds g (g.node cell isFormula).2 (· = cell) (fun a => a = cell ∧ isFormula)
        (fun _ _ => False) := by
  rw [node]
  split
  case h_1 i known =>
    rw [index_eq_some_iff] at known
    have contained : g.contains cell := contains_iff_cellAt?.mpr ⟨i, known⟩
    cases isFormula with
    | false =>
        exact ⟨known, ((Adds.refl g).congr (by simp) (by simp) (by simp)).of_contains contained⟩
    | true =>
        have marked := adds_markFormula known
        refine ⟨marked.keeps i cell known, ?_⟩
        exact (marked.congr (by simp) (by simp) (by simp)).of_contains contained
  case h_2 unknown =>
    refine ⟨?_, adds_addNode ⟨cell, isFormula⟩ unknown⟩
    simp [cellAt?, addNode]

theorem adds_link (left : g.cellAt? i = some a) (right : g.cellAt? j = some b) :
    (g.link i j).edges = (i, j) :: g.edges ∧
      Adds g (g.link i j) (fun _ => False) (fun _ => False) fun c d => c = a ∧ d = b := by
  rw [link, dif_pos ⟨lt_size left, lt_size right⟩]
  refine ⟨rfl, fun _ _ => id, by simp [Graph.contains], by simp [HoldsFormula], fun c d => ?_⟩
  simp only [Edge, List.mem_cons, Prod.mk.injEq]
  constructor
  · rintro ⟨i', j', ⟨rfl, rfl⟩ | edge, left', right'⟩
    · exact .inr
        ⟨Option.some.inj (left'.symm.trans left), Option.some.inj (right'.symm.trans right)⟩
    · exact .inl ⟨i', j', edge, left', right'⟩
  · rintro (⟨i', j', edge, left', right'⟩ | ⟨rfl, rfl⟩)
    · exact ⟨i', j', .inr edge, left', right'⟩
    · exact ⟨i, j, .inl ⟨rfl, rfl⟩, left, right⟩

end Steps

theorem edges_node (g : Graph) (cell : Address) (isFormula : Bool) :
    (g.node cell isFormula).2.edges = g.edges := by
  rw [node]
  split
  · dsimp only
    split <;> rfl
  · rfl

section Formulas

variable (isFormula : Address → Bool) (cells : List Address)
variable {cell : Address} {expr : Formula.Expr} {formulas : List (Address × Formula.Expr)}

theorem adds_addReference (known : g.cellAt? i = some a) (cell : Address) :
    Adds g (addReference isFormula i g cell) (· = cell) (fun b => b = cell ∧ isFormula cell)
      fun b c => b = a ∧ c = cell := by
  obtain ⟨number, met⟩ := adds_node g cell (isFormula cell)
  have linked := (adds_link (met.keeps i a known) number).2
  exact (met.trans linked).congr (by simp) (by simp) (by simp)

theorem nodup_edges_addReference (known : g.cellAt? i = some a) (new : ¬ g.Edge a cell)
    (once : g.edges.Nodup) : (addReference isFormula i g cell).edges.Nodup := by
  obtain ⟨number, met⟩ := adds_node g cell (isFormula cell)
  have linked := (adds_link (met.keeps i a known) number).1
  rw [addReference]
  refine linked ▸ List.nodup_cons.mpr ⟨fun member => ?_, edges_node g cell _ ▸ once⟩
  have edge := (edge_iff (met.keeps i a known) number).mpr member
  rw [met.edge, or_false] at edge
  exact new edge

/-- The cells that a formula reads are added one after another. -/
theorem adds_references (known : g.cellAt? i = some a) :
    Adds g (cells.foldl (addReference isFormula i) g) (· ∈ cells)
      (fun b => b ∈ cells ∧ isFormula b) fun b c => b = a ∧ c ∈ cells := by
  induction cells generalizing g with
  | nil => exact (Adds.refl g).congr (by simp) (by simp) (by simp)
  | cons cell rest ih =>
      have first := adds_addReference isFormula known cell
      refine (first.trans (ih (first.keeps i a known))).congr ?_ ?_ ?_
      · simp
      · intro b
        rw [List.mem_cons, or_and_right]
        refine or_congr_left (and_congr_right fun same => ?_)
        rw [same]
      · intro b c
        rw [List.mem_cons, and_or_left]

/-- No edge is added twice. -/
theorem nodup_edges_references (known : g.cellAt? i = some a) (different : cells.Nodup)
    (unread : ∀ b ∈ cells, ¬ g.Edge a b) (once : g.edges.Nodup) :
    (cells.foldl (addReference isFormula i) g).edges.Nodup := by
  induction cells generalizing g with
  | nil => exact once
  | cons cell rest ih =>
      obtain ⟨other, different⟩ := List.nodup_cons.mp different
      rw [List.forall_mem_cons] at unread
      have first := adds_addReference isFormula known cell
      refine ih (first.keeps i a known) different (fun b later edge => ?_)
        (nodup_edges_addReference isFormula known unread.1 once)
      rcases (first.edge a b).mp edge with held | ⟨-, rfl⟩
      · exact unread.2 b later held
      · exact other later

theorem adds_addFormula (g : Graph) (cell : Address) (expr : Formula.Expr) :
    Adds g (g.addFormula isFormula cell expr) (fun b => b = cell ∨ b ∈ expr.references)
      (fun b => b = cell ∨ b ∈ expr.references ∧ isFormula b)
      fun b c => b = cell ∧ c ∈ expr.references := by
  obtain ⟨number, met⟩ := adds_node g cell true
  have read := adds_references isFormula (distinct expr.references) number
  exact (met.trans read).congr (by simp) (by simp) (by simp)

theorem nodup_edges_addFormula (new : ∀ b, ¬ g.Edge cell b) (once : g.edges.Nodup) :
    (g.addFormula isFormula cell expr).edges.Nodup := by
  obtain ⟨number, met⟩ := adds_node g cell true
  have unread : ∀ b, ¬ (g.node cell true).2.Edge cell b := by
    intro b edge
    rw [met.edge, or_false] at edge
    exact new b edge
  exact nodup_edges_references isFormula _ number (nodup_distinct _) (fun b _ => unread b)
    (edges_node g cell true ▸ once)

/-- What a graph says that has grown from these formulas. -/
theorem adds_grow (formulas : List (Address × Formula.Expr)) :
    Adds empty (grow isFormula formulas)
      (fun a => ∃ entry ∈ formulas, a = entry.1 ∨ a ∈ entry.2.references)
      (fun a => ∃ entry ∈ formulas, a = entry.1 ∨ a ∈ entry.2.references ∧ isFormula a)
      fun a b => ∃ entry ∈ formulas, a = entry.1 ∧ b ∈ entry.2.references := by
  rw [grow]
  generalize empty = g
  induction formulas generalizing g with
  | nil => exact (Adds.refl g).congr (by simp) (by simp) (by simp)
  | cons entry rest ih =>
      exact ((adds_addFormula isFormula g entry.1 entry.2).trans (ih _)).congr (by simp) (by simp)
        (by simp)

theorem nodup_edges_grow (different : (formulas.map Prod.fst).Nodup) :
    (grow isFormula formulas).edges.Nodup := by
  have kept : ∀ g : Graph, (∀ entry ∈ formulas, ∀ b, ¬ g.Edge entry.1 b) → g.edges.Nodup →
      (formulas.foldl (fun g entry => g.addFormula isFormula entry.1 entry.2) g).edges.Nodup := by
    induction formulas with
    | nil => exact fun g _ once => once
    | cons entry rest ih =>
        intro g new once
        rw [List.map_cons, List.nodup_cons] at different
        rw [List.forall_mem_cons] at new
        refine ih different.2 _ (fun later member b edge => ?_)
          (nodup_edges_addFormula isFormula new.1 once)
        rcases ((adds_addFormula isFormula g _ _).edge _ b).mp edge with held | ⟨same, -⟩
        · exact new.2 later member b held
        · exact different.1 (same ▸ List.mem_map_of_mem member)
  refine kept empty (fun entry _ b edge => ?_) List.nodup_nil
  obtain ⟨i, j, member, -, -⟩ := edge
  exact List.not_mem_nil member

end Formulas

end SheetCompiler.Dependency.Graph
