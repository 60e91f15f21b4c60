import SheetCompiler.Dependency.Tree
import SheetCompiler.Evaluation.Basic
import SheetCompiler.Proofs.Dependency.Views

/-!
# Printed dependency trees

Printing shares one path among all branches. Main statement: printing ends, gives the path back as
it was, and prints the tree whose branches are the walks along the references of a workbook, each up
to a cell that references nothing or to one that is on the walk already.
-/

namespace SheetCompiler

namespace Dependency

/-- A dependency tree. -/
inductive Tree where
  /-- A cell with the trees of the cells it reads. -/
  | node (cell : Address) (children : List Tree)
  /-- A cell that is already on the branch. -/
  | circular (cell : Address)

/-- A way through a tree from the top to a cell without children. -/
structure Branch where
  /-- The cells before the last one, from the top. -/
  before : List Address
  last : Address
  /-- The last cell is marked as one that is on the branch already. -/
  marked : Bool

namespace Branch

def cells (b : Branch) : List Address :=
  b.before ++ [b.last]

/-- The branch with one more cell at the top. -/
def cons (cell : Address) (b : Branch) : Branch :=
  { b with before := cell :: b.before }

/-- The branch walks along the references of a workbook, from a cell below the cells of `path`. Up
to its last cell no cell comes up again. The last one is marked if it does, and references nothing
if it does not. -/
structure Follows (w : Workbook) (path : List Address) (cell : Address) (b : Branch) : Prop where
  starts : b.cells.head? = some cell
  walks : b.cells.IsChain w.References
  nodup : b.before.Nodup
  off : ∀ c ∈ b.before, c ∉ path
  marks : b.marked ↔ b.last ∈ path ∨ b.last ∈ b.before
  ends : b.marked ∨ ∀ c, ¬ w.References b.last c

theorem cons_injective (cell : Address) : Function.Injective (cons cell) := by
  rintro ⟨before, last, marked⟩ ⟨before', last', marked'⟩ same
  simpa [cons] using same

end Branch

namespace Tree

def root : Tree → Address
  | .node cell _ => cell
  | .circular cell => cell

/-- Three blanks for each level. -/
def blanks (level : Nat) : String :=
  String.ofList (List.replicate (3 * level) ' ')

mutual

/-- The lines of a tree at a level: each cell has one, and a cell that is already on the branch one
more. -/
def lines (describe : Address → String) (level : Nat) : Tree → List String
  | .node cell children =>
      (blanks level ++ "└─ " ++ describe cell) :: linesOf describe (level + 1) children
  | .circular cell =>
      [blanks level ++ "└─ " ++ describe cell, blanks level ++ "   ↻ circular"]

/-- The lines of several trees at a level. -/
def linesOf (describe : Address → String) (level : Nat) : List Tree → List String
  | [] => []
  | tree :: rest => tree.lines describe level ++ linesOf describe level rest

end

mutual

/-- The branches of a tree from the first to the last. -/
def branches : Tree → List Branch
  | .node cell [] => [⟨[], cell, false⟩]
  | .node cell (child :: rest) => (child.branches ++ branchesOf rest).map (.cons cell)
  | .circular cell => [⟨[], cell, true⟩]

/-- The branches of several trees. -/
def branchesOf : List Tree → List Branch
  | [] => []
  | tree :: rest => tree.branches ++ branchesOf rest

end

/-- Below every cell the cells come in ascending order, each once. -/
inductive Ascending : Tree → Prop
  | node {cell : Address} {children : List Tree}
      (siblings : children.Pairwise fun t u => compare t.root u.root = .lt)
      (each : ∀ child ∈ children, Ascending child) : Ascending (.node cell children)
  | circular {cell : Address} : Ascending (.circular cell)

/-- The tree shows the references of a workbook from a cell, below the cells of `path`. -/
structure Shows (w : Workbook) (path : List Address) (cell : Address) (t : Tree) : Prop where
  branches : ∀ b, b ∈ t.branches ↔ b.Follows w path cell
  ascending : t.Ascending

theorem indentation_eq_blanks (level : Nat) : indentation level = blanks level := by
  rw [← String.toList_inj, indentation, blanks, String.toList_join, String.toList_ofList]
  induction level with
  | zero => rfl
  | succ level ih =>
      rw [List.replicate_succ, List.flatMap_cons, ih, Nat.mul_succ, Nat.add_comm,
        List.replicate_add]
      rfl

theorem line_eq (describe : Address → String) (level : Nat) (cell : Address) :
    line describe level cell = blanks level ++ "└─ " ++ describe cell := by
  rw [line, indentation_eq_blanks]

theorem circularLine_eq (level : Nat) : circularLine level = blanks level ++ "   ↻ circular" := by
  rw [circularLine, indentation_eq_blanks]

theorem linesOf_eq (describe : Address → String) (level : Nat) (trees : List Tree) :
    linesOf describe level trees = (trees.map (lines describe level)).flatten := by
  induction trees with
  | nil => rfl
  | cons tree rest ih => rw [linesOf, ih, List.map_cons, List.flatten_cons]

theorem mem_branchesOf_iff {trees : List Tree} {b : Branch} :
    b ∈ branchesOf trees ↔ ∃ t ∈ trees, b ∈ t.branches := by
  induction trees with
  | nil => simp [branchesOf]
  | cons tree rest ih => simp [branchesOf, ih]

theorem branches_node {cell : Address} {children : List Tree} (h : children ≠ []) :
    (node cell children).branches = (branchesOf children).map (.cons cell) := by
  cases children with
  | nil => exact absurd rfl h
  | cons child rest => rw [branches, branchesOf]

theorem cons_mem_branches_node_iff {cell : Address} {children : List Tree} {b : Branch} :
    b.cons cell ∈ (node cell children).branches ↔ ∃ child ∈ children, b ∈ child.branches := by
  rw [← mem_branchesOf_iff]
  cases children with
  | nil => simp [branches, branchesOf, Branch.cons]
  | cons child rest =>
      rw [branches_node (List.cons_ne_nil _ _),
        List.mem_map_of_injective (Branch.cons_injective cell)]

theorem starts_of_mem_branches {t : Tree} {b : Branch} (h : b ∈ t.branches) :
    b.cells.head? = some t.root := by
  cases t with
  | circular cell =>
      rw [branches, List.mem_singleton] at h
      rw [h]
      rfl
  | node cell children =>
      cases children with
      | nil =>
          rw [branches, List.mem_singleton] at h
          rw [h]
          rfl
      | cons child rest =>
          rw [branches, List.mem_map] at h
          obtain ⟨rest, -, rfl⟩ := h
          rfl

/-- Every tree has a branch. -/
theorem exists_mem_branches : (t : Tree) → ∃ b, b ∈ t.branches
  | .circular cell => ⟨⟨[], cell, true⟩, by rw [branches, List.mem_singleton]⟩
  | .node cell [] => ⟨⟨[], cell, false⟩, by rw [branches, List.mem_singleton]⟩
  | .node cell (child :: rest) => by
      obtain ⟨b, branch⟩ := exists_mem_branches child
      exact ⟨b.cons cell, cons_mem_branches_node_iff.mpr ⟨child, List.mem_cons_self, branch⟩⟩

end Tree

namespace Branch

variable {w : Workbook} {path : List Address} {cell : Address} {b : Branch}

theorem exists_head (b : Branch) : ∃ next, b.cells.head? = some next := by
  obtain ⟨next, others, split⟩ :=
    List.exists_cons_of_ne_nil (List.append_ne_nil_of_right_ne_nil b.before
    (List.cons_ne_nil b.last []))
  exact ⟨next, by rw [cells, split, List.head?_cons]⟩

/-- A branch of one cell ends there because of the path, or because the cell references nothing. -/
theorem follows_single_iff {marked : Bool} : Follows w path cell ⟨[], cell, marked⟩ ↔
    (marked ↔ cell ∈ path) ∧ (marked ∨ ∀ c, ¬ w.References cell c) := by
  constructor
  · intro h
    refine ⟨h.marks.trans ?_, h.ends⟩
    simp
  · rintro ⟨marks, ends⟩
    refine ⟨rfl, List.isChain_singleton _, List.nodup_nil, nofun, marks.trans ?_, ends⟩
    simp

/-- A longer branch goes on from a cell that the first one references, and the first one joins the
path. -/
theorem follows_cons_iff : (b.cons cell).Follows w path cell ↔
    cell ∉ path ∧ ∃ next, w.References cell next ∧ b.Follows w (cell :: path) next := by
  have came : (b.last ∈ path ∨ b.last ∈ cell :: b.before) ↔
      (b.last ∈ cell :: path ∨ b.last ∈ b.before) := by
    rw [List.mem_cons, List.mem_cons, or_left_comm, or_assoc]
  constructor
  · intro h
    obtain ⟨next, first⟩ := b.exists_head
    obtain ⟨reference, walks⟩ := List.isChain_cons.mp h.walks
    obtain ⟨fresh, nodup⟩ := List.nodup_cons.mp h.nodup
    have off := List.forall_mem_cons.mp h.off
    refine ⟨off.1, next, reference next first, first, walks, nodup, ?_, h.marks.trans came, h.ends⟩
    intro c member on
    rcases List.mem_cons.mp on with rfl | earlier
    · exact fresh member
    · exact off.2 c member earlier
  · rintro ⟨off, next, reference, h⟩
    have fresh : cell ∉ b.before := fun member => h.off cell member List.mem_cons_self
    refine ⟨rfl, List.isChain_cons.mpr ⟨?_, h.walks⟩, List.nodup_cons.mpr ⟨fresh, h.nodup⟩,
      List.forall_mem_cons.mpr ⟨off, ?_⟩, h.marks.trans came.symm, h.ends⟩
    · intro c first
      obtain rfl : next = c := Option.some.inj (h.starts.symm.trans first)
      exact reference
    · exact fun c member on => h.off c member (List.mem_cons_of_mem _ on)

/-- What starts at a cell is the cell alone, or the cell and what follows it. -/
theorem Follows.eq_single_or_cons (h : b.Follows w path cell) :
    (∃ marked, b = ⟨[], cell, marked⟩) ∨ ∃ rest : Branch, b = rest.cons cell := by
  obtain ⟨before, last, marked⟩ := b
  cases before with
  | nil =>
      obtain rfl : last = cell := Option.some.inj h.starts
      exact .inl ⟨marked, rfl⟩
  | cons c before =>
      obtain rfl : c = cell := Option.some.inj h.starts
      exact .inr ⟨⟨before, last, marked⟩, rfl⟩

end Branch

end Dependency

namespace Workbook

open Dependency (Branch Graph Tree)
open Evaluation (length_unvisited_cons_lt unvisited)

theorem mem_formulas_of_mem_dependencies {w : Workbook} {cell other : Address}
    (h : other ∈ (Graph.ofWorkbook w).dependencies cell) : cell ∈ w.formulas.keys := by
  obtain ⟨expr, formula, -⟩ := Graph.mem_dependencies_iff_references.mp h
  rw [OrderedMap.mem_keys_iff, get?_formulas, formula]
  rfl

/-- The tree of a cell below the cells of `path`. -/
def tree (w : Workbook) (path : List Address) (cell : Address) : Tree :=
  if seen : path.contains cell then .circular cell
  else .node cell (((Graph.ofWorkbook w).dependencies cell).attach.map fun other =>
    have := length_unvisited_cons_lt (mem_formulas_of_mem_dependencies other.2)
      (Bool.eq_false_iff.mpr seen)
    w.tree (cell :: path) other.1)
termination_by (unvisited w path).length

section Trees

variable {w : Workbook} {path : List Address} {cell : Address}

theorem tree_of_mem (on : cell ∈ path) : w.tree path cell = .circular cell := by
  rw [tree, dif_pos (List.contains_iff_mem.mpr on)]

theorem tree_of_notMem (off : cell ∉ path) : w.tree path cell =
    .node cell (((Graph.ofWorkbook w).dependencies cell).map (w.tree (cell :: path))) := by
  rw [tree, dif_neg (mt List.contains_iff_mem.mp off)]
  simp

theorem root_tree (w : Workbook) (path : List Address) (cell : Address) :
    (w.tree path cell).root = cell := by
  by_cases on : cell ∈ path
  · rw [tree_of_mem on, Tree.root]
  · rw [tree_of_notMem on, Tree.root]

/-- What holds of cells on the path and goes from the references of a cell to the cell holds of
every cell. -/
theorem path_induction {P : List Address → Address → Prop} (w : Workbook)
    (on : ∀ path cell, cell ∈ path → P path cell)
    (off : ∀ path cell, cell ∉ path → (∀ next, w.References cell next → P (cell :: path) next) →
      P path cell) (path : List Address) (cell : Address) : P path cell := by
  induction path, cell using tree.induct w with
  | case1 path cell seen => exact on path cell (List.contains_iff_mem.mp seen)
  | case2 path cell new ih =>
      refine off path cell (mt List.contains_iff_mem.mpr new) fun next reference => ?_
      exact ih ⟨next, Graph.mem_dependencies_iff_references.mpr reference⟩

theorem ascending_tree (w : Workbook) (path : List Address) (cell : Address) :
    (w.tree path cell).Ascending := by
  induction path, cell using path_induction w with
  | on path cell seen =>
      rw [tree_of_mem seen]
      exact .circular
  | off path cell new ih =>
      rw [tree_of_notMem new]
      refine .node (List.pairwise_map.mpr ?_) fun child member => ?_
      · simp only [root_tree]
        exact (Graph.ofWorkbook w).dependencies_ascending cell
      · obtain ⟨next, dependency, rfl⟩ := List.mem_map.mp member
        exact ih next (Graph.mem_dependencies_iff_references.mp dependency)

/-- The branches of the tree are the walks along the references. -/
theorem mem_branches_tree_iff {b : Branch} :
    b ∈ (w.tree path cell).branches ↔ b.Follows w path cell := by
  induction path, cell using path_induction w generalizing b with
  | on path cell seen =>
      rw [tree_of_mem seen, Tree.branches, List.mem_singleton]
      constructor
      · rintro rfl
        exact Branch.follows_single_iff.mpr ⟨iff_of_true rfl seen, .inl rfl⟩
      · intro h
        rcases h.eq_single_or_cons with ⟨marked, rfl⟩ | ⟨rest, rfl⟩
        · obtain rfl : marked = true := (Branch.follows_single_iff.mp h).1.mpr seen
          rfl
        · exact absurd seen (Branch.follows_cons_iff.mp h).1
  | off path cell new ih =>
      have reads {next : Address} : next ∈ (Graph.ofWorkbook w).dependencies cell ↔
          w.References cell next := Graph.mem_dependencies_iff_references
      rw [tree_of_notMem new]
      by_cases none : (Graph.ofWorkbook w).dependencies cell = []
      · rw [none, List.map_nil, Tree.branches, List.mem_singleton]
        have nothing : ∀ c, ¬ w.References cell c := by
          intro c reference
          rw [← reads, none] at reference
          cases reference
        constructor
        · rintro rfl
          exact Branch.follows_single_iff.mpr ⟨iff_of_false Bool.false_ne_true new, .inr nothing⟩
        · intro h
          rcases h.eq_single_or_cons with ⟨marked, rfl⟩ | ⟨rest, rfl⟩
          · obtain rfl : marked = false :=
              Bool.eq_false_iff.mpr (mt (Branch.follows_single_iff.mp h).1.mp new)
            rfl
          · obtain ⟨-, next, reference, -⟩ := Branch.follows_cons_iff.mp h
            exact absurd reference (nothing next)
      · rw [Tree.branches_node (by simpa using none), List.mem_map]
        constructor
        · rintro ⟨rest, member, rfl⟩
          obtain ⟨child, inside, branch⟩ := Tree.mem_branchesOf_iff.mp member
          obtain ⟨next, dependency, rfl⟩ := List.mem_map.mp inside
          have reference := reads.mp dependency
          exact Branch.follows_cons_iff.mpr ⟨new, next, reference, (ih next reference).mp branch⟩
        · intro h
          rcases h.eq_single_or_cons with ⟨marked, rfl⟩ | ⟨rest, rfl⟩
          · obtain ⟨next, dependency⟩ := List.exists_mem_of_ne_nil _ none
            obtain ⟨marks, ends⟩ := Branch.follows_single_iff.mp h
            exact absurd (reads.mp dependency) (ends.resolve_left (mt marks.mp new) next)
          · obtain ⟨-, next, reference, follows⟩ := Branch.follows_cons_iff.mp h
            refine ⟨rest, Tree.mem_branchesOf_iff.mpr ⟨w.tree (cell :: path) next, ?_, ?_⟩, rfl⟩
            · exact List.mem_map_of_mem (reads.mpr reference)
            · exact (ih next reference).mpr follows

theorem shows_tree (w : Workbook) (path : List Address) (cell : Address) :
    (w.tree path cell).Shows w path cell :=
  ⟨fun _ => mem_branches_tree_iff, ascending_tree w path cell⟩

end Trees

end Workbook

namespace Dependency

section Uniqueness

variable {w : Workbook} {path : List Address} {cell : Address}

/-- The root of a tree is the cell from which it shows the references. -/
theorem Tree.Shows.root_eq {t : Tree} (h : t.Shows w path cell) : t.root = cell := by
  obtain ⟨b, branch⟩ := t.exists_mem_branches
  have starts := (h.branches b).mp branch
  exact Option.some.inj ((Tree.starts_of_mem_branches branch).symm.trans starts.starts)

theorem Tree.Shows.circular (h : (Tree.circular cell).Shows w path cell) : cell ∈ path := by
  have follows := (h.branches ⟨[], cell, true⟩).mp (by rw [Tree.branches, List.mem_singleton])
  exact (Branch.follows_single_iff.mp follows).1.mp rfl

variable {children : List Tree}

/-- A branch of a child is a branch of the whole. -/
theorem Tree.Shows.follows_cons (h : (Tree.node cell children).Shows w path cell) {child : Tree}
    (inside : child ∈ children) {b : Branch} (branch : b ∈ child.branches) :
    cell ∉ path ∧ w.References cell child.root ∧ b.Follows w (cell :: path) child.root := by
  have follows := (h.branches _).mp (Tree.cons_mem_branches_node_iff.mpr ⟨child, inside, branch⟩)
  obtain ⟨off, next, reference, rest⟩ := Branch.follows_cons_iff.mp follows
  obtain rfl : next = child.root :=
    Option.some.inj (rest.starts.symm.trans (Tree.starts_of_mem_branches branch))
  exact ⟨off, reference, rest⟩

/-- What follows a referenced cell is a branch of the child there. -/
theorem Tree.Shows.exists_child (h : (Tree.node cell children).Shows w path cell)
    (off : cell ∉ path) {next : Address} (reference : w.References cell next) {b : Branch}
    (follows : b.Follows w (cell :: path) next) :
    ∃ child ∈ children, b ∈ child.branches ∧ child.root = next := by
  have branch := (h.branches _).mpr (Branch.follows_cons_iff.mpr ⟨off, next, reference, follows⟩)
  obtain ⟨child, inside, branch⟩ := Tree.cons_mem_branches_node_iff.mp branch
  have starts := Tree.starts_of_mem_branches branch
  exact ⟨child, inside, branch, Option.some.inj (starts.symm.trans follows.starts)⟩

theorem Tree.Shows.notMem (h : (Tree.node cell children).Shows w path cell) : cell ∉ path := by
  cases children with
  | nil =>
      have follows := (h.branches ⟨[], cell, false⟩).mp (by rw [Tree.branches, List.mem_singleton])
      exact mt (Branch.follows_single_iff.mp follows).1.mpr Bool.false_ne_true
  | cons child rest =>
      obtain ⟨b, branch⟩ := child.exists_mem_branches
      exact (h.follows_cons List.mem_cons_self branch).1

theorem Tree.Shows.reference (h : (Tree.node cell children).Shows w path cell) {child : Tree}
    (inside : child ∈ children) : w.References cell child.root := by
  obtain ⟨b, branch⟩ := child.exists_mem_branches
  exact (h.follows_cons inside branch).2.1

/-- The roots of the children are the cells that the cell references. -/
theorem Tree.Shows.lists_roots (h : (Tree.node cell children).Shows w path cell) :
    Graph.Lists (children.map Tree.root) (w.References cell) := by
  cases h.ascending with
  | node siblings each =>
      refine ⟨List.pairwise_map.mpr siblings, fun next => ?_⟩
      rw [List.mem_map]
      constructor
      · rintro ⟨child, inside, rfl⟩
        exact h.reference inside
      · intro reference
        obtain ⟨b, branch⟩ := (w.tree (cell :: path) next).exists_mem_branches
        obtain ⟨child, inside, -, root⟩ :=
          h.exists_child h.notMem reference (Workbook.mem_branches_tree_iff.mp branch)
        exact ⟨child, inside, root⟩

/-- The children show the references from their roots. -/
theorem Tree.Shows.child (h : (Tree.node cell children).Shows w path cell) {child : Tree}
    (inside : child ∈ children) : child.Shows w (cell :: path) child.root := by
  have roots : (children.map Tree.root).Nodup := nodup_of_ascending h.lists_roots.1
  cases h.ascending with
  | node siblings each =>
      refine ⟨fun b => ⟨fun branch => (h.follows_cons inside branch).2.2, fun follows => ?_⟩,
        each child inside⟩
      obtain ⟨other, inside', branch, same⟩ := h.exists_child h.notMem (h.reference inside) follows
      rwa [← List.inj_on_of_nodup_map roots inside' inside same]

/-- A tree that shows the references from a cell is the tree of the cell. -/
theorem Tree.Shows.eq_tree {t : Tree} (h : t.Shows w path cell) : t = w.tree path cell := by
  induction path, cell using Workbook.path_induction w generalizing t with
  | on path cell seen =>
      rw [Workbook.tree_of_mem seen]
      cases t with
      | circular c => rw [show c = cell from h.root_eq]
      | node c children =>
          obtain rfl : c = cell := h.root_eq
          exact absurd seen h.notMem
  | off path cell new ih =>
      rw [Workbook.tree_of_notMem new]
      cases t with
      | circular c =>
          obtain rfl : c = cell := h.root_eq
          exact absurd h.circular new
      | node c children =>
          obtain rfl : c = cell := h.root_eq
          have roots : children.map Tree.root = (Graph.ofWorkbook w).dependencies c :=
            h.lists_roots.unique ⟨(Graph.ofWorkbook w).dependencies_ascending c,
              fun next => Graph.mem_dependencies_iff_references⟩
          have each : ∀ child ∈ children, w.tree (c :: path) child.root = child :=
            fun child inside => (ih child.root (h.reference inside) (h.child inside)).symm
          rw [← roots, List.map_map]
          congr 1
          exact (List.map_id' children).symm.trans (List.map_congr_left fun child inside =>
            (each child inside).symm)

end Uniqueness

section Printing

variable {α β : Type} {path : List Address}

/-- Printing several things that each give the path back gives it back. -/
theorem run_mapM {f : α → Printer β} {printed : α → β} {l : List α}
    (h : ∀ a ∈ l, (f a).run path = some (printed a, path)) :
    (l.mapM f).run path = some (l.map printed, path) := by
  induction l with
  | nil => rfl
  | cons a rest ih =>
      rw [List.forall_mem_cons] at h
      rw [List.mapM_cons, StateT.run_bind, h.1, Option.bind_eq_bind, Option.bind_some,
        StateT.run_bind, ih h.2]
      rfl

end Printing

namespace Graph

/-- Printing prints the tree of the cell and leaves the path as it was. -/
theorem run_printTree (w : Workbook) (describe : Address → String) (level : Nat)
    (path : List Address) (cell : Address) :
    ((ofWorkbook w).printTree describe level cell).run path =
      some ((w.tree path cell).lines describe level, path) := by
  induction path, cell using Workbook.path_induction w generalizing level with
  | on path cell seen =>
      rw [Workbook.tree_of_mem seen, printTree]
      simp [seen, Tree.lines, Tree.line_eq, Tree.circularLine_eq]
  | off path cell new ih =>
      have children := run_mapM fun next dependency =>
        ih next (mem_dependencies_iff_references.mp dependency) (level + 1)
      rw [Workbook.tree_of_notMem new, printTree]
      simp [new, children, Tree.lines, Tree.line_eq, Tree.linesOf_eq, Function.comp_def]

theorem treeLines_eq (w : Workbook) (describe : Address → String) (cell : Address) :
    (ofWorkbook w).treeLines describe cell =
      Tree.linesOf describe 1 (((ofWorkbook w).dependencies cell).map (w.tree [cell])) := by
  have printed := run_mapM fun next (_ : next ∈ (ofWorkbook w).dependencies cell) =>
    run_printTree w describe 1 [cell] next
  rw [treeLines, printed, Tree.linesOf_eq, List.map_map]
  rfl

/-- Exactly one tree shows the references from a cell. In every workbook printing ends, gives the
path back as it was, and prints that tree. What is printed for a cell is the tree from the cell,
without the line of the cell itself. -/
theorem printTree_shows (w : Workbook) :
    (∀ path cell, ∃! t : Tree, t.Shows w path cell) ∧
      (∀ describe level path cell (t : Tree), t.Shows w path cell →
        ((ofWorkbook w).printTree describe level cell).run path =
          some (t.lines describe level, path)) ∧
      ∀ describe cell, ∃ children, (Tree.node cell children).Shows w [] cell ∧
        (ofWorkbook w).treeLines describe cell = Tree.linesOf describe 1 children := by
  refine ⟨?_, ?_, ?_⟩
  · intro path cell
    exact ⟨w.tree path cell, w.shows_tree path cell, fun t shown => shown.eq_tree⟩
  · intro describe level path cell t shown
    rw [shown.eq_tree]
    exact run_printTree w describe level path cell
  · intro describe cell
    refine ⟨_, ?_, treeLines_eq w describe cell⟩
    rw [← Workbook.tree_of_notMem List.not_mem_nil]
    exact w.shows_tree [] cell

end Graph

end Dependency

end SheetCompiler
