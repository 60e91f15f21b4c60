import SheetCompiler.Ascending
import SheetCompiler.Workbook

/-!
# Dependencies between cells

The graph of a workbook has an edge from every formula cell to every cell its formula reads. Its
nodes are numbered in the order in which they are met, and an index finds the number of a cell. A
formula cell may be met first as a cell that another formula reads.
-/

namespace SheetCompiler.Dependency

/-- A cell of a graph. -/
structure Node where
  cell : Address
  /-- The cell is known to hold a formula. -/
  isFormula : Bool

/-- The cells that formulas read, by numbers. -/
structure Graph where
  /-- The nodes in the order of their numbers. -/
  nodes : Array Node
  /-- The number of each cell. -/
  index : OrderedMap Address Nat
  /-- From the node of a formula to one that it reads, the latest edge first. -/
  edges : List (Nat × Nat)
  indexed : ∀ cell i, index.get? cell = some i ↔ nodes[i]?.map Node.cell = some cell
  joined : ∀ e ∈ edges, e.1 < nodes.size ∧ e.2 < nodes.size

namespace Graph

/-- The graph without cells. -/
def empty : Graph where
  nodes := #[]
  index := .empty
  edges := []
  indexed := by simp
  joined := by simp

/-- The graph with the node of a cell that it does not know. -/
def addNode (g : Graph) (node : Node) (new : g.index.get? node.cell = none) : Graph where
  nodes := g.nodes.push node
  index := g.index.insert node.cell g.nodes.size
  edges := g.edges
  indexed := by
    intro cell i
    by_cases same : compare cell node.cell = .eq
    · obtain rfl := Std.LawfulEqCmp.eq_of_compare same
      have other : g.nodes[i]?.map Node.cell ≠ some node.cell := by
        intro present
        rw [(g.indexed node.cell i).mpr present] at new
        cases new
      rw [OrderedMap.get?_insert_self, Array.getElem?_push]
      split <;> simp_all [eq_comm]
    · have different : node.cell ≠ cell := by
        rintro rfl
        exact same Std.ReflCmp.compare_self
      rw [OrderedMap.get?_insert_of_ne _ _ same, g.indexed, Array.getElem?_push]
      split <;> simp_all
  joined := by
    intro e member
    rw [Array.size_push]
    exact ⟨Nat.lt_succ_of_lt (g.joined e member).1, Nat.lt_succ_of_lt (g.joined e member).2⟩

/-- The graph in which the node of a number is one of a formula. -/
def markFormula (g : Graph) (i : Nat) : Graph where
  nodes := g.nodes.modify i fun node => { node with isFormula := true }
  index := g.index
  edges := g.edges
  indexed := by
    intro cell j
    rw [g.indexed, Array.getElem?_modify]
    split
    · rw [Option.map_map]
      rfl
    · rfl
  joined := by
    intro e member
    rw [Array.size_modify]
    exact g.joined e member

/-- The number of a cell, in the graph that knows it. Once a cell is known to hold a formula, it
stays so. -/
def node (g : Graph) (cell : Address) (isFormula : Bool) : Nat × Graph :=
  match known : g.index.get? cell with
  | some i => (i, if isFormula then g.markFormula i else g)
  | none => (g.nodes.size, g.addNode ⟨cell, isFormula⟩ known)

/-- The graph with one more edge between two nodes. -/
def link (g : Graph) (source target : Nat) : Graph :=
  if bounds : source < g.nodes.size ∧ target < g.nodes.size then
    { g with
      edges := (source, target) :: g.edges
      joined := by
        intro e member
        rcases List.mem_cons.mp member with rfl | earlier
        · exact bounds
        · exact g.joined e earlier }
  else g

/-- The graph with one more cell that a formula reads. -/
def addReference (isFormula : Address → Bool) (source : Nat) (g : Graph) (cell : Address) : Graph :=
  let (target, g) := g.node cell (isFormula cell)
  g.link source target

/-- The graph with one more formula. Ranges count as the cells they cover, and a cell that is read
several times counts once. -/
def addFormula (isFormula : Address → Bool) (g : Graph) (cell : Address) (expr : Formula.Expr) :
    Graph :=
  let (source, g) := g.node cell true
  (distinct expr.references).foldl (addReference isFormula source) g

/-- The graph of formulas that are met one after another. Of a cell that is met because a formula
reads it, `isFormula` says whether it is known to hold a formula. -/
def grow (isFormula : Address → Bool) (formulas : List (Address × Formula.Expr)) : Graph :=
  formulas.foldl (fun g entry => g.addFormula isFormula entry.1 entry.2) empty

/-- The graph of a workbook. -/
def ofWorkbook (w : Workbook) : Graph :=
  grow (fun cell => (w.formula? cell).isSome) w.formulas.toList

/-- The cell of a number. -/
def cellAt? (g : Graph) (i : Nat) : Option Address :=
  g.nodes[i]?.map Node.cell

/-- The node of a number is one of a formula. -/
def isFormulaAt (g : Graph) (i : Nat) : Bool :=
  g.nodes[i]?.any Node.isFormula

/-- The nodes that a node has an edge to. -/
def targets (g : Graph) (i : Nat) : List Nat :=
  (g.edges.filter (·.1 == i)).map Prod.snd

/-- The nodes that have an edge to a node. -/
def sources (g : Graph) (i : Nat) : List Nat :=
  (g.edges.filter (·.2 == i)).map Prod.fst

/-- The cells of some nodes, ascending. -/
def cellsAt (g : Graph) (numbers : List Nat) : List Address :=
  distinct (numbers.filterMap g.cellAt?)

/-- The cells that the formula of `cell` reads, ascending. -/
def dependencies (g : Graph) (cell : Address) : List Address :=
  match g.index.get? cell with
  | some i => g.cellsAt (g.targets i)
  | none => []

/-- The formula cells that read `cell`, ascending. -/
def dependents (g : Graph) (cell : Address) : List Address :=
  match g.index.get? cell with
  | some i => g.cellsAt (g.sources i)
  | none => []

/-- The formula cells, ascending. -/
def formulaCells (g : Graph) : List Address :=
  distinct ((g.nodes.toList.filter Node.isFormula).map Node.cell)

/-- The cells without a formula that some formula reads, ascending. -/
def referencedInputs (g : Graph) : List Address :=
  distinct ((g.nodes.toList.filter fun node => !node.isFormula).map Node.cell)

/-- The cell holds a formula or is read by one. -/
def contains (g : Graph) (cell : Address) : Bool :=
  g.index.contains cell

/-- The number of cells in the graph. -/
def nodeCount (g : Graph) : Nat :=
  g.nodes.size

/-- The number of edges. -/
def edgeCount (g : Graph) : Nat :=
  g.edges.length

end Graph

end SheetCompiler.Dependency
