import SheetCompiler.Dependency.Graph

/-!
# Circular references

A circle of references is reported as a shortest one through the least cell that lies on any. It is
kept open: `[A1, B1]` stands for `A1 → B1 → A1`.

Cells lie on a circle together if each can be reached from the other. The search for a way back goes
breadth first through the nodes of one such component.
-/

namespace SheetCompiler.Dependency

/-- A search that goes breadth first. -/
structure Search where
  /-- The nodes not yet met. -/
  unseen : List Nat
  /-- The node from which each other one was met, the latest first. -/
  parents : List (Nat × Nat)
  /-- The nodes that were met and not yet looked at. -/
  queue : List Nat

namespace Search

/-- The search that starts from a node among others. -/
def start (numbers : List Nat) (i : Nat) : Search where
  unseen := numbers.filter (· ≠ i)
  parents := []
  queue := [i]

/-- How much is left to do. -/
def size (s : Search) : Nat :=
  s.unseen.length + s.queue.length

/-- Meets a node from another one. Only the first time counts. -/
def meet (current : Nat) (s : Search) (i : Nat) : Search :=
  if s.unseen.contains i then
    { unseen := s.unseen.filter (· ≠ i), parents := (i, current) :: s.parents,
      queue := s.queue ++ [i] }
  else s

theorem size_meet_le (current : Nat) (s : Search) (i : Nat) : (s.meet current i).size ≤ s.size := by
  rw [meet]
  split
  case isTrue new =>
    have fewer : (s.unseen.filter (· ≠ i)).length < s.unseen.length :=
      List.length_filter_lt_length_iff_exists.mpr ⟨i, List.contains_iff_mem.mp new, by simp⟩
    simp only [size, List.length_append, List.length_singleton]
    omega
  case isFalse => exact Nat.le_refl _

/-- Meets the nodes that follow a node. -/
def visit (s : Search) (current : Nat) (next : List Nat) : Search :=
  next.foldl (meet current) s

theorem size_visit_le (s : Search) (current : Nat) (next : List Nat) :
    (s.visit current next).size ≤ s.size := by
  induction next generalizing s with
  | nil => exact Nat.le_refl _
  | cons i rest ih => exact Nat.le_trans (ih _) (size_meet_le current s i)

/-- Looking at the first node of the queue leaves less to do. -/
theorem size_visit_lt {s : Search} {current : Nat} {queue : List Nat}
    (h : s.queue = current :: queue) (next : List Nat) :
    ({ s with queue }.visit current next).size < s.size := by
  refine Nat.lt_of_le_of_lt (size_visit_le _ _ _) ?_
  simp only [size, h, List.length_cons]
  omega

/-- All nodes that are met, in the order in which they are looked at. -/
def reached (follow : Nat → List Nat) (s : Search) : List Nat :=
  match h : s.queue with
  | [] => []
  | current :: queue =>
    have := size_visit_lt h (follow current)
    current :: reached follow ({ s with queue }.visit current (follow current))
termination_by s.size

/-- Searches for a way back to a node. Returns the node from which it was found, and the parents. -/
def back? (follow : Nat → List Nat) (home : Nat) (s : Search) : Option (Nat × List (Nat × Nat)) :=
  match h : s.queue with
  | [] => none
  | current :: queue =>
    if (follow current).contains home then some (current, s.parents)
    else
      have := size_visit_lt h (follow current)
      back? follow home ({ s with queue }.visit current (follow current))
termination_by s.size

/-- The chain of parents from a node back to the start of the search. -/
def ancestors : List (Nat × Nat) → Nat → List Nat
  | [], i => [i]
  | (child, parent) :: earlier, i =>
    if child = i then i :: ancestors earlier parent else ancestors earlier i

end Search

namespace Graph

/-- The numbers of all nodes. -/
def numbers (g : Graph) : List Nat :=
  List.range g.nodes.size

/-- Some nodes by their cells. -/
def byCell (g : Graph) (numbers : List Nat) : OrderedMap Address Nat :=
  .ofList (numbers.filterMap fun i => (g.cellAt? i).map fun cell => (cell, i))

/-- The nodes that can be reached from a node and from which it can be reached. -/
def component (g : Graph) (i : Nat) : List Nat :=
  let before := (Search.start g.numbers i).reached g.sources
  ((Search.start g.numbers i).reached g.targets).filter before.contains

/-- The nodes that are not among others. -/
def without (others numbers : List Nat) : List Nat :=
  numbers.filter fun i => !others.contains i

/-- The components of some nodes, each once. -/
def componentsOf (g : Graph) : List Nat → List (List Nat)
  | [] => []
  | i :: rest => g.component i :: g.componentsOf (without (g.component i) rest)
termination_by numbers => numbers.length
decreasing_by
  exact Nat.lt_succ_of_le (List.length_filter_le _ _)

/-- There is an edge between two nodes. -/
def hasEdge (g : Graph) (source target : Nat) : Bool :=
  g.edges.contains (source, target)

/-- Some nodes of the component lie on a circle. -/
def isCyclic (g : Graph) (component : List Nat) : Bool :=
  component.length > 1 || component.head?.any fun i => g.hasEdge i i

/-- The least node of a component by its cell, and the component. -/
def withStart? (g : Graph) (component : List Nat) : Option (Address × Nat × List Nat) :=
  (g.byCell component).pop?.map fun ((cell, i), _) => (cell, i, component)

/-- The least node that lies on a circle, and its component. -/
def cycleStart? (g : Graph) : Option (Nat × List Nat) :=
  let starts := ((g.componentsOf g.numbers).filter g.isCyclic).filterMap g.withStart?
  (OrderedMap.ofList starts).pop?.map fun ((_, start), _) => start

/-- The nodes of a component that a node has an edge to, in the order of their cells. -/
def targetsWithin (g : Graph) (component : List Nat) (i : Nat) : List Nat :=
  (g.byCell ((g.targets i).filter component.contains)).values

/-- A shortest way from a node of a component back to the node. -/
def circleFrom (g : Graph) (start : Nat) (component : List Nat) : List Nat :=
  if g.hasEdge start start then [start]
  else
    match (Search.start component start).back? (g.targetsWithin component) start with
    | some (last, parents) => (Search.ancestors parents last).reverse
    | none => [start]

/-- A shortest circle through the least cell that lies on one; empty when there is none. -/
def findCycle (g : Graph) : List Address :=
  match g.cycleStart? with
  | some (start, component) => (g.circleFrom start component).filterMap g.cellAt?
  | none => []

end Graph

end SheetCompiler.Dependency
