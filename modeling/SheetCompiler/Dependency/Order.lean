import SheetCompiler.CompileError
import SheetCompiler.Dependency.Cycle

/-!
# Evaluation order

Formula cells are placed one after another. A cell is ready once every formula cell it reads is
placed; of the ready cells the least one goes first, so a workbook has exactly one order. What a
cell waits for is only counted: placing a cell counts down for the cells that read it.
-/

namespace SheetCompiler.Dependency

/-- The formula cells that are not placed yet. -/
structure Progress where
  /-- How many formula cells each node still waits for, if it waits for any. -/
  remaining : OrderedMap Nat Nat
  /-- The nodes that wait for nothing, by their cells. -/
  ready : OrderedMap Address Nat

/-- How many cells are not placed yet. -/
def Progress.size (p : Progress) : Nat :=
  p.remaining.size + p.ready.size

namespace Graph

/-- The nodes of the formula cells that a node reads, each once. -/
def formulaTargets (g : Graph) (i : Nat) : List Nat :=
  distinct ((g.targets i).filter g.isFormulaAt)

/-- Enters the node of a formula. -/
def enter (g : Graph) (p : Progress) (i : Nat) : Progress :=
  match g.nodes[i]? with
  | some ⟨cell, true⟩ =>
    if (g.formulaTargets i).isEmpty then { p with ready := p.ready.insert cell i }
    else { p with remaining := p.remaining.insert i (g.formulaTargets i).length }
  | _ => p

/-- Nothing is placed yet. -/
def unplaced (g : Graph) : Progress :=
  g.numbers.foldl g.enter ⟨.empty, .empty⟩

/-- A node waits for one cell less. Waiting for nothing, it is ready. -/
def countDown (g : Graph) (p : Progress) (i : Nat) : Progress :=
  match p.remaining.get? i, g.cellAt? i with
  | some count, some cell =>
    if count - 1 = 0 then
      { remaining := p.remaining.erase i, ready := p.ready.insert cell i }
    else { p with remaining := p.remaining.insert i (count - 1) }
  | _, _ => p

theorem size_countDown_le (g : Graph) (p : Progress) (i : Nat) :
    (g.countDown p i).size ≤ p.size := by
  rw [countDown]
  split
  case h_1 count cell waits _ =>
    split
    · have fewer := OrderedMap.size_erase_of_get? waits
      have more := p.ready.size_insert_le cell i
      simp only [Progress.size]
      omega
    · simp only [Progress.size, OrderedMap.size_insert_of_get? waits, Nat.le_refl]
  case h_2 => exact Nat.le_refl _

/-- Nodes that read a placed cell wait for it no longer. -/
def countDownAll (g : Graph) (p : Progress) (readers : List Nat) : Progress :=
  readers.foldl g.countDown p

theorem size_countDownAll_le (g : Graph) (p : Progress) (readers : List Nat) :
    (g.countDownAll p readers).size ≤ p.size := by
  induction readers generalizing p with
  | nil => exact Nat.le_refl _
  | cons i rest ih => exact Nat.le_trans (ih _) (g.size_countDown_le p i)

/-- Places the ready cells, the least one first, as long as there are any. Returns the placed cells
in their order and what is left. -/
def placeReady (g : Graph) (p : Progress) : List Address × Progress :=
  match h : p.ready.pop? with
  | none => ([], p)
  | some ((cell, i), ready) =>
    have : (g.countDownAll { p with ready } (distinct (g.sources i))).size < p.size := by
      refine Nat.lt_of_le_of_lt (g.size_countDownAll_le _ _) ?_
      simp only [Progress.size, OrderedMap.size_of_pop? h]
      omega
    let (order, left) := g.placeReady (g.countDownAll { p with ready } (distinct (g.sources i)))
    (cell :: order, left)
termination_by p.size

/-- The formula cells in evaluation order: each one after all formula cells it reads. -/
def order (g : Graph) : Except CompileError (List Address) :=
  let (placed, left) := g.placeReady g.unplaced
  if left.remaining.toList.isEmpty then .ok placed
  else .error (.cyclicDependency g.findCycle)

end Graph

end SheetCompiler.Dependency
