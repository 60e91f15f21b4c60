import Mathlib.Algebra.BigOperators.Group.Finset.Basic
import SheetCompiler.Proofs.Dependency.References

/-!
# What the graph shows of a workbook

A formula mentions a cell if the cell stands in it or lies in one of its ranges. That relation is
said here on the expression alone, with no list of cells and no order. Every view of the graph is
measured against it. Main statement: the graph of a workbook shows the mentions of its formulas and
nothing else, each list ascending without repetition, and its counts are the numbers of the cells
and mentions shown, in whatever order the formulas are met.
-/

namespace SheetCompiler

namespace Address

/-- The cell lies in the rectangle between two corners, on the sheet of the first. -/
structure Within (a first last : Address) : Prop where
  sheet : a.sheet = first.sheet
  row : first.row ≤ a.row ∧ a.row ≤ last.row
  col : first.col ≤ a.col ∧ a.col ≤ last.col

theorem mem_span_iff {first last n : Nat} : n ∈ span first last ↔ first ≤ n ∧ n ≤ last := by
  rw [span, List.mem_range'_1]
  omega

theorem mem_rectangle_iff {a first last : Address} :
    a ∈ rectangle first last ↔ a.Within first last := by
  rw [rectangle, List.mem_flatMap]
  constructor
  · rintro ⟨row, inRows, inRow⟩
    obtain ⟨col, inCols, rfl⟩ := List.mem_map.mp inRow
    exact ⟨rfl, mem_span_iff.mp inRows, mem_span_iff.mp inCols⟩
  · rintro ⟨sheet, row, col⟩
    refine ⟨a.row, mem_span_iff.mpr row, List.mem_map.mpr ⟨a.col, mem_span_iff.mpr col, ?_⟩⟩
    rw [← sheet]

end Address

namespace Formula

/-- The cell stands in the expression, by itself or in a range. -/
inductive Expr.Mentions (a : Address) : Expr → Prop
  | cell : Mentions a (.cell a)
  | range {first last : Address} (within : a.Within first last) : Mentions a (.range first last)
  | left {op : BinaryOp} {left right : Expr} (inside : Mentions a left) :
      Mentions a (.binary op left right)
  | right {op : BinaryOp} {left right : Expr} (inside : Mentions a right) :
      Mentions a (.binary op left right)
  | operand {op : UnaryOp} {operand : Expr} (inside : Mentions a operand) :
      Mentions a (.unary op operand)
  | argument {name : String} {args : List Expr} {arg : Expr} (member : arg ∈ args)
      (inside : Mentions a arg) : Mentions a (.call name args)

mutual

/-- The references of an expression are the cells it mentions. -/
theorem mem_references_iff {a : Address} : ∀ e : Expr, a ∈ e.references ↔ e.Mentions a
  | .literal _ => by
      rw [Expr.references]
      exact iff_of_false List.not_mem_nil nofun
  | .cell address => by
      rw [Expr.references, List.mem_singleton]
      constructor
      · rintro rfl
        exact .cell
      · intro mentions
        cases mentions with
        | cell => rfl
  | .range first last => by
      rw [Expr.references, Address.mem_rectangle_iff]
      constructor
      · exact .range
      · intro mentions
        cases mentions with
        | range within => exact within
  | .binary op left right => by
      rw [Expr.references, List.mem_append, mem_references_iff left, mem_references_iff right]
      constructor
      · rintro (inside | inside)
        · exact .left inside
        · exact .right inside
      · intro mentions
        cases mentions with
        | left inside => exact .inl inside
        | right inside => exact .inr inside
  | .unary op operand => by
      rw [Expr.references, mem_references_iff operand]
      constructor
      · exact .operand
      · intro mentions
        cases mentions with
        | operand inside => exact inside
  | .call name args => by
      rw [Expr.references, mem_referencesOf_iff args]
      constructor
      · rintro ⟨arg, member, inside⟩
        exact .argument member inside
      · intro mentions
        cases mentions with
        | argument member inside => exact ⟨_, member, inside⟩

theorem mem_referencesOf_iff {a : Address} :
    ∀ args : List Expr, a ∈ referencesOf args ↔ ∃ arg ∈ args, arg.Mentions a
  | [] => by
      rw [referencesOf]
      exact iff_of_false List.not_mem_nil nofun
  | e :: rest => by
      rw [referencesOf, List.mem_append, mem_references_iff e, mem_referencesOf_iff rest,
        List.exists_mem_cons_iff]

end

end Formula

/-- The formula at `a` mentions the cell `b`, whatever `b` holds. -/
def Workbook.References (w : Workbook) (a b : Address) : Prop :=
  ∃ expr, w.formula? a = some expr ∧ expr.Mentions b

namespace Dependency.Graph

variable {g g' : Graph} {w : Workbook} {a b : Address} {i : Nat}

section Counts

/-- The cells of a graph. -/
def cells (g : Graph) : Finset Address :=
  (g.nodes.toList.map Node.cell).toFinset

theorem mem_cells_iff : a ∈ g.cells ↔ g.contains a := by
  simp only [cells, List.mem_toFinset, List.mem_map, Array.mem_toList_iff, Array.mem_iff_getElem?,
    contains_iff_cellAt?]
  constructor
  · rintro ⟨node, ⟨i, found⟩, rfl⟩
    exact ⟨i, cellAt?_of_node found⟩
  · rintro ⟨i, known⟩
    obtain ⟨isFormula, found⟩ := exists_node known
    exact ⟨_, ⟨i, found⟩, rfl⟩

/-- No two nodes have the same cell. -/
theorem nodup_cells (g : Graph) : (g.nodes.toList.map Node.cell).Nodup := by
  refine List.nodup_iff_injective_get.mpr fun i j same => Fin.ext ?_
  have cell (k : Fin (g.nodes.toList.map Node.cell).length) :
      g.cellAt? k = some ((g.nodes.toList.map Node.cell).get k) := by
    rw [cellAt?, ← Array.getElem?_toList, ← List.getElem?_map]
    exact List.getElem?_eq_getElem k.isLt
  exact cellAt?_inj (cell i) (same ▸ cell j)

theorem card_cells (g : Graph) : g.cells.card = g.nodeCount := by
  rw [cells, List.toFinset_card_of_nodup g.nodup_cells, List.length_map, Array.length_toList]
  rfl

/-- The dependencies of a cell are as many as the edges from its node. -/
theorem length_dependencies (g : Graph) (known : g.cellAt? i = some a) :
    (g.dependencies a).length = (g.edges.toFinset.filter (·.1 = i)).card := by
  rw [← List.toFinset_card_of_nodup (nodup_of_ascending (g.dependencies_ascending a))]
  refine Finset.card_bij (fun b _ => (i, g.numberOf b)) (fun b member => ?_) ?_ fun e member => ?_
  · have edge := mem_dependencies_iff_edge.mp (List.mem_toFinset.mp member)
    have target := cellAt?_numberOf edge.contains_right
    exact Finset.mem_filter.mpr ⟨List.mem_toFinset.mpr ((edge_iff known target).mp edge), rfl⟩
  · intro b member c member' same
    have left := mem_dependencies_iff_edge.mp (List.mem_toFinset.mp member)
    have right := mem_dependencies_iff_edge.mp (List.mem_toFinset.mp member')
    exact numberOf_inj left.contains_right right.contains_right (congrArg Prod.snd same)
  · obtain ⟨edge, rfl⟩ := Finset.mem_filter.mp member
    obtain ⟨a', b, left, right, reads⟩ := exists_edge (List.mem_toFinset.mp edge)
    obtain rfl := Option.some.inj (known.symm.trans left)
    exact ⟨b, List.mem_toFinset.mpr (mem_dependencies_iff_edge.mpr reads),
      by rw [numberOf_eq right]⟩

theorem sum_length_dependencies (once : g.edges.Nodup) :
    ∑ a ∈ g.cells, (g.dependencies a).length = g.edgeCount := by
  have joined : ∀ e ∈ g.edges.toFinset, e.1 ∈ Finset.range g.nodes.size := by
    intro e member
    exact Finset.mem_range.mpr (g.joined e (List.mem_toFinset.mp member)).1
  rw [edgeCount, ← List.toFinset_card_of_nodup once, Finset.card_eq_sum_card_fiberwise joined]
  -- The nodes and their cells correspond one to one.
  refine Finset.sum_bij (fun a _ => g.numberOf a) (fun a member => ?_) ?_ (fun i member => ?_) ?_
  · exact Finset.mem_range.mpr (lt_size (cellAt?_numberOf (mem_cells_iff.mp member)))
  · intro a member b member'
    exact numberOf_inj (mem_cells_iff.mp member) (mem_cells_iff.mp member')
  · obtain ⟨a, known⟩ := exists_cellAt? (Finset.mem_range.mp member)
    exact ⟨a, mem_cells_iff.mpr (contains_iff_cellAt?.mpr ⟨i, known⟩), numberOf_eq known⟩
  · exact fun a member => g.length_dependencies (cellAt?_numberOf (mem_cells_iff.mp member))

end Counts

section Workbooks

/-- The list holds the cells with a property, each once and in ascending order. -/
def Lists (cells : List Address) (P : Address → Prop) : Prop :=
  cells.Pairwise (fun a b => compare a b = .lt) ∧ ∀ a, a ∈ cells ↔ P a

/-- No other list holds the same cells. -/
theorem Lists.unique {cells others : List Address} {P : Address → Prop} (h : Lists cells P)
    (h' : Lists others P) : cells = others :=
  eq_of_ascending h.1 h'.1 fun a => (h.2 a).trans (h'.2 a).symm

/-- Every view of the graph says of the workbook what it promises. -/
structure Represents (g : Graph) (w : Workbook) : Prop where
  /-- The dependencies of a cell are the cells its formula mentions; without a formula it has
  none. -/
  dependencies : ∀ a, Lists (g.dependencies a) (w.References a)
  /-- The dependents of a cell are the cells whose formulas mention it. -/
  dependents : ∀ b, Lists (g.dependents b) fun a => w.References a b
  contains : ∀ a, g.contains a ↔ (w.formula? a).isSome ∨ ∃ b, w.References b a
  formulaCells : Lists g.formulaCells fun a => (w.formula? a).isSome
  referencedInputs : Lists g.referencedInputs fun a => (∃ b, w.References b a) ∧ w.formula? a = none
  /-- The cells of the graph are finitely many, and the two counts are taken over them. -/
  counts : ∃ cells : Finset Address, (∀ a, a ∈ cells ↔ g.contains a) ∧ g.nodeCount = cells.card ∧
    g.edgeCount = ∑ a ∈ cells, (g.dependencies a).length

theorem Shows.edge_iff_references (h : g.Shows w) : g.Edge a b ↔ w.References a b := by
  simp only [h.edge, Formula.mem_references_iff, Workbook.References]

theorem mem_dependencies_iff_references :
    b ∈ (ofWorkbook w).dependencies a ↔ w.References a b := by
  rw [mem_dependencies_iff_edge, (shows_ofWorkbook w).edge_iff_references]

/-- A graph represents the workbook it shows, if no edge is there twice. -/
theorem Shows.represents (h : g.Shows w) (once : g.edges.Nodup) : g.Represents w := by
  have contains (a : Address) : g.contains a ↔ (w.formula? a).isSome ∨ ∃ b, w.References b a := by
    simp only [h.contains, Formula.mem_references_iff, Workbook.References]
  constructor
  case dependencies =>
    refine fun a => ⟨g.dependencies_ascending a, fun b => ?_⟩
    rw [mem_dependencies_iff_edge, h.edge_iff_references]
  case dependents =>
    refine fun b => ⟨g.dependents_ascending b, fun a => ?_⟩
    rw [mem_dependents_iff_edge, h.edge_iff_references]
  case contains => exact contains
  case formulaCells =>
    refine ⟨g.formulaCells_ascending, fun a => ?_⟩
    rw [mem_formulaCells_iff_holdsFormula, h.formula]
  case referencedInputs =>
    refine ⟨distinct_ascending _, fun a => ?_⟩
    rw [mem_referencedInputs_iff_contains, contains, h.formula, Option.not_isSome_iff_eq_none]
    constructor
    · rintro ⟨formula | read, none⟩
      · rw [none] at formula
        cases formula
      · exact ⟨read, none⟩
    · rintro ⟨read, none⟩
      exact ⟨.inr read, none⟩
  case counts =>
    exact ⟨g.cells, fun a => mem_cells_iff, g.card_cells.symm, (sum_length_dependencies once).symm⟩

/-- Two graphs look the same through every view, whatever the numbers of their nodes. -/
structure LooksLike (g g' : Graph) : Prop where
  dependencies : ∀ a, g.dependencies a = g'.dependencies a
  dependents : ∀ b, g.dependents b = g'.dependents b
  contains : ∀ a, g.contains a = g'.contains a
  formulaCells : g.formulaCells = g'.formulaCells
  referencedInputs : g.referencedInputs = g'.referencedInputs
  nodeCount : g.nodeCount = g'.nodeCount
  edgeCount : g.edgeCount = g'.edgeCount

/-- All graphs that represent a workbook look the same. -/
theorem Represents.looksLike (h : g.Represents w) (h' : g'.Represents w) : g.LooksLike g' := by
  have contains (a : Address) : g.contains a = g'.contains a := by
    rw [Bool.eq_iff_iff, h.contains, h'.contains]
  have dependencies (a : Address) := (h.dependencies a).unique (h'.dependencies a)
  obtain ⟨cells, mem_iff, nodes, edges⟩ := h.counts
  obtain ⟨cells', mem_iff', nodes', edges'⟩ := h'.counts
  obtain rfl : cells = cells' := by
    ext a
    rw [mem_iff, mem_iff', contains]
  constructor
  case dependencies => exact dependencies
  case dependents => exact fun b => (h.dependents b).unique (h'.dependents b)
  case contains => exact contains
  case formulaCells => exact h.formulaCells.unique h'.formulaCells
  case referencedInputs => exact h.referencedInputs.unique h'.referencedInputs
  case nodeCount => rw [nodes, nodes']
  case edgeCount => simp only [edges, edges', dependencies]

/-- The graph of a workbook shows what its formulas mention, and nothing else. So does every graph
that has grown from the formulas of the workbook, in whatever order they are met, and it looks the
same: a formula cell may be met first as itself or as a cell that another formula reads, and need
not be known for one then. -/
theorem ofWorkbook_represents (w : Workbook) : (ofWorkbook w).Represents w ∧
    ∀ (isFormula : Address → Bool) (formulas : List (Address × Formula.Expr)),
      (∀ a, isFormula a → (w.formula? a).isSome) → formulas.Perm w.formulas.toList →
        (grow isFormula formulas).Represents w ∧
          (grow isFormula formulas).LooksLike (ofWorkbook w) := by
  have grown : ∀ (isFormula : Address → Bool) (formulas : List (Address × Formula.Expr)),
      (∀ a, isFormula a → (w.formula? a).isSome) → formulas.Perm w.formulas.toList →
        (grow isFormula formulas).Represents w := by
    intro isFormula formulas sound same
    refine (shows_grow sound same).represents (nodup_edges_grow isFormula ?_)
    exact (same.map Prod.fst).nodup_iff.mpr w.formulas.keys_nodup
  have own : (ofWorkbook w).Represents w := grown _ _ (fun _ => id) (.refl _)
  refine ⟨own, fun isFormula formulas sound same => ?_⟩
  exact ⟨grown isFormula formulas sound same, (grown isFormula formulas sound same).looksLike own⟩

end Workbooks

end Dependency.Graph

end SheetCompiler
