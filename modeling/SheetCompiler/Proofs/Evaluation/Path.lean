import Mathlib.Data.List.Chain
import Mathlib.Data.List.Nodup
import SheetCompiler.Proofs.Dependency.Cycle
import SheetCompiler.Proofs.Evaluation.Failure
import SheetCompiler.Proofs.Evaluation.Memory

/-!
# The path of evaluation

Below a cell under evaluation stand the formulas that led to it. The path of these cells is linked:
each formula references the cell that was evaluated next, and no cell occurs twice. From that follow
both ends of a recursion that has no structure to follow: the path is never longer than the formula
cells are many, and what is reported when evaluation returns to a cell of the path is a circle.
-/

namespace SheetCompiler.Evaluation

open Dependency (Graph circular_of_closedChain)
open Formula (Expr)

/-- The path along which evaluation got to a cell, the innermost formula first. -/
structure Linked (w : Workbook) (path : List Address) (cell : Address) : Prop where
  nodup : path.Nodup
  formula : ∀ p ∈ path, (w.formula? p).isSome
  reads : path.reverse.IsChain w.Reads
  /-- The innermost formula references the cell. -/
  last : ∀ p, path.head? = some p → ∃ e, w.formula? p = some e ∧ cell ∈ e.references

namespace Linked

variable {w : Workbook} {path : List Address} {cell next : Address} {e : Expr}

/-- Evaluation starts at a cell with an empty path. -/
theorem nil (w : Workbook) (cell : Address) : Linked w [] cell :=
  ⟨List.nodup_nil, by simp, List.isChain_nil, by simp⟩

/-- Among formula cells the innermost one reads the cell. -/
theorem reads_last (h : Linked w path cell) (formula : (w.formula? cell).isSome) {p : Address}
    (innermost : path.head? = some p) : w.Reads p cell := by
  obtain ⟨e, found, reference⟩ := h.last p innermost
  exact ⟨e, found, reference, formula⟩

/-- From a formula cell off the path, evaluation goes on to what the formula references. -/
theorem cons (h : Linked w path cell) (found : w.formula? cell = some e) (off : cell ∉ path)
    (reference : next ∈ e.references) : Linked w (cell :: path) next := by
  have formula : (w.formula? cell).isSome := Option.isSome_iff_exists.mpr ⟨e, found⟩
  refine ⟨List.nodup_cons.mpr ⟨off, h.nodup⟩, ?_, ?_, ?_⟩
  · intro p member
    rcases List.mem_cons.mp member with rfl | earlier
    · exact formula
    · exact h.formula p earlier
  · rw [List.reverse_cons]
    refine h.reads.append (List.isChain_singleton cell) ?_
    intro p outer q same
    obtain rfl : q = cell := by simpa using same.symm
    exact h.reads_last formula (by simpa using outer)
  · intro p same
    obtain rfl : cell = p := by simpa using same
    exact ⟨e, found, reference⟩

/-- Returning to a formula cell of the path closes a circle, and no cell occurs in it twice. -/
theorem circle (h : Linked w path cell) (formula : (w.formula? cell).isSome) (on : cell ∈ path) :
    w.ClosedChain (circle path cell) ∧ (circle path cell).Nodup := by
  obtain ⟨inner, outer, rfl, fresh⟩ := List.eq_append_cons_of_mem on
  have reported : Evaluation.circle (inner ++ cell :: outer) cell = cell :: inner.reverse := by
    have all : ∀ p ∈ inner, decide (p ≠ cell) = true := by
      intro p member
      exact decide_eq_true fun same => fresh (same ▸ member)
    rw [Evaluation.circle, List.takeWhile_append_of_pos all]
    simp
  have split : (inner ++ cell :: outer).reverse = outer.reverse ++ (cell :: inner.reverse) := by
    simp
  rw [reported]
  constructor
  · refine ⟨List.cons_ne_nil _ _, ?_⟩
    have reads := h.reads
    rw [split] at reads
    refine (List.isChain_append.mp reads).2.1.append (List.isChain_singleton cell) ?_
    -- The last cell of the circle is the innermost one of the path.
    intro p innermost q same
    obtain rfl : q = cell := by simpa using same.symm
    have reversed : q :: inner.reverse = (inner ++ [q]).reverse := by simp
    rw [reversed, List.getLast?_reverse] at innermost
    refine h.reads_last formula ?_
    cases inner <;> simpa using innermost
  · have nodup := List.nodup_reverse.mpr h.nodup
    rw [split] at nodup
    exact (List.nodup_append.mp nodup).2.1

/-- The path is not longer than the formula cells are many. -/
theorem length_le (h : Linked w path cell) : path.length ≤ w.formulaCount := by
  have inside : path ⊆ w.formulas.keys := by
    intro p member
    rw [OrderedMap.mem_keys_iff, Workbook.get?_formulas]
    exact h.formula p member
  have shorter := (List.subperm_of_subset h.nodup inside).length_le
  simpa [OrderedMap.keys, Workbook.formulaCount, OrderedMap.size] using shorter

end Linked

section Failures

variable {w : Workbook} {P : CompileError → Prop} {path : List Address} {cell : Address}

/-- The failures of a cell have a property if circles have it and the failures of every formula by
itself: its selections and, where it is not well formed, its faults. -/
theorem failsOnly_valueOf
    (circles : ∀ chain, w.ClosedChain chain → chain.Nodup → P (.cyclicDependency chain))
    (selects : ∀ c e, w.formula? c = some e → ∀ s ∈ e.selectors, ∀ path,
      Selects P c (eval (valueOf Memory.none w path) c s))
    (faults : ∀ c e, w.formula? c = some e → e.wellFormed = false → ∀ err, IsFault c err → P err)
    (linked : Linked w path cell) : FailsOnly P (valueOf Memory.none w path cell) := by
  generalize size : (unvisited w path).length = n
  induction n using Nat.strongRecOn generalizing path cell with
  | ind n ih =>
      rw [valueOf_none_eq]
      cases found : w.cell? cell with
      | none => exact failsOnly_ok _
      | some c =>
          cases content : c.content with
          | value literal =>
              simp only [content]
              exact failsOnly_ok _
          | formula text expr =>
              have formula : w.formula? cell = some expr := by
                simp [Workbook.formula?, found, Cell.expr?, content]
              simp only [content]
              split
              case isTrue on =>
                have circle := linked.circle (Option.isSome_iff_exists.mpr ⟨expr, formula⟩)
                  (List.contains_iff_mem.mp on)
                exact failsOnly_throw (circles _ circle.1 circle.2)
              case isFalse off =>
                have fewer := length_unvisited_cons_lt (mem_formulas_of_cell? found content)
                  (Bool.eq_false_iff.mpr off)
                refine failsOnly_eval expr (fun a reference => ?_)
                  (fun s member => selects cell expr formula s member _) (faults cell expr formula)
                refine ih _ (size ▸ fewer) (linked.cons formula ?_ reference) rfl
                exact fun on => off (List.contains_iff_mem.mpr on)

end Failures

section Guard

variable {m : Type → Type} [Monad m] [MonadExceptOf CompileError m]

/-- Evaluation under guard. `room` is how many evaluations may still be nested, and the alarm is
raised where there is none left, where a cell is under evaluation twice, and where more cells are
than there are formulas. -/
def guardedValueOf (memory : Memory m) (w : Workbook) (alarm : CompileError) :
    Nat → List Address → Address → m Value
  | 0, _, _ => throw alarm
  | room + 1, path, cell =>
    if path.Nodup ∧ path.length ≤ w.formulaCount then do
      match ← memory.find? cell with
      | some v => return v
      | none =>
        match w.cell? cell with
        | none => return .blank
        | some c =>
          match c.content with
          | .value literal =>
            memory.record cell (.ofLiteral literal)
            return .ofLiteral literal
          | .formula _ expr =>
            if path.contains cell then throw (.cyclicDependency (circle path cell))
            else
              let v ← eval (guardedValueOf memory w alarm room (cell :: path)) cell expr
              memory.record cell v
              return v
    else throw alarm

/-- The value that a cell shows, evaluated under guard. -/
def evaluateGuarded (w : Workbook) (alarm : CompileError) (cell : Address) : Evaluator Value := do
  return shown w cell (← guardedValueOf Memory.cache w alarm (w.formulaCount + 1) [] cell)

/-- Computations that are the same. -/
def same : Simulation m m where
  rel x y := x = y
  rel_pure := fun _ => rfl
  rel_bind := by
    intro α β x y f g first next
    rw [first, funext next]
  rel_throw := fun _ => rfl

/-- Along a linked path the alarm is never raised, as long as there is room for every formula off
the path. -/
theorem guardedValueOf_eq (memory : Memory m) {w : Workbook} (alarm : CompileError) {room : Nat}
    {path : List Address} {cell : Address} (linked : Linked w path cell)
    (enough : w.formulaCount < room + path.length) :
    guardedValueOf memory w alarm room path cell = valueOf memory w path cell := by
  induction room generalizing path cell with
  | zero =>
      have short := linked.length_le
      omega
  | succ room ih =>
      rw [guardedValueOf, if_pos ⟨linked.nodup, linked.length_le⟩, valueOf_eq]
      congr 1
      funext found
      cases found with
      | some v => rfl
      | none =>
          simp only [computed]
          cases present : w.cell? cell with
          | none => rfl
          | some c =>
              cases content : c.content with
              | value literal => simp only [content]
              | formula text expr =>
                  simp only [content]
                  split
                  case isTrue => rfl
                  case isFalse off =>
                    have formula : w.formula? cell = some expr := by
                      simp [Workbook.formula?, present, Cell.expr?, content]
                    have evaluated :
                        eval (guardedValueOf memory w alarm room (cell :: path)) cell expr =
                          eval (valueOf memory w (cell :: path)) cell expr := by
                      refine same.rel_eval expr fun a reference => ?_
                      refine ih (linked.cons formula ?_ reference) ?_
                      · exact fun on => off (List.contains_iff_mem.mpr on)
                      · rw [List.length_cons]
                        omega
                    rw [evaluated]

end Guard

/-- What is reported as a circle is one, and lists no cell twice. -/
theorem circle_of_evaluateWith_error {w : Workbook} {cell : Address} {chain : List Address}
    (h : evaluateWith Memory.none w cell = .error (.cyclicDependency chain)) :
    w.ClosedChain chain ∧ chain.Nodup := by
  have fails : FailsOnly
      (fun e => ∀ chain, e = .cyclicDependency chain → w.ClosedChain chain ∧ chain.Nodup)
      (valueOf Memory.none w [] cell) := by
    apply failsOnly_valueOf
    case circles =>
      intro chain closed nodup other same
      cases same
      exact ⟨closed, nodup⟩
    case selects =>
      intro c e formula s member path v x value number notNumber chain same
      cases same
    case faults =>
      intro c e formula bad err fault chain same
      cases fault <;> cases same
    case linked => exact .nil w cell
  exact fails.bind (fun v _ => failsOnly_ok _) _ h chain rfl

/-- Evaluation ends: under guard it is the same computation, so never is a cell under evaluation
twice and never are more cells than there are formulas. What one evaluator reports as a circle,
whatever it was asked before, is a circle without repetition; and a workbook that can be ordered has
none to report. -/
theorem evaluate_eq_evaluateGuarded_and_circles (w : Workbook) :
    (∀ alarm cell, evaluateGuarded w alarm cell = evaluate w cell) ∧
      (∀ cells chain, .error (.cyclicDependency chain) ∈ evaluateAll w cells →
        w.ClosedChain chain ∧ chain.Nodup) ∧
      ((∃ order, (Graph.ofWorkbook w).order = .ok order) →
        ∀ cells chain, .error (.cyclicDependency chain) ∉ evaluateAll w cells) := by
  have guarded : ∀ alarm cell, evaluateGuarded w alarm cell = evaluate w cell := by
    intro alarm cell
    have same := guardedValueOf_eq Memory.cache alarm (Linked.nil w cell)
      (Nat.lt_succ_self w.formulaCount)
    rw [evaluateGuarded, same]
    rfl
  have circles : ∀ cells chain, .error (.cyclicDependency chain) ∈ evaluateAll w cells →
      w.ClosedChain chain ∧ chain.Nodup := by
    intro cells chain reported
    rw [evaluateAll, run_mapM_evaluate w cells (sound_empty w)] at reported
    obtain ⟨cell, -, failed⟩ := List.mem_map.mp reported
    exact circle_of_evaluateWith_error failed
  refine ⟨guarded, circles, ?_⟩
  rintro ⟨order, ordered⟩ cells chain reported
  obtain ⟨closed, -⟩ := circles cells chain reported
  obtain ⟨first, member⟩ := List.exists_mem_of_ne_nil chain closed.1
  exact (Graph.evaluationOrder_of_order_eq_ok ordered).acyclic first
    (circular_of_closedChain closed member)

/-- `C1` leads into the circle of `A1` and `B1` without being on it. -/
def entangled : Workbook where
  name := "Entangled"
  sheets := ["S"]
  cells := .ofList [(⟨"S", 0, 0⟩, ⟨.formula "-B1" (.unary .neg (.cell ⟨"S", 0, 1⟩)), none, none⟩),
    (⟨"S", 0, 1⟩, ⟨.formula "A1" (.cell ⟨"S", 0, 0⟩), none, none⟩),
    (⟨"S", 0, 2⟩, ⟨.formula "A1" (.cell ⟨"S", 0, 0⟩), none, none⟩)]

theorem entangled_circle :
    .error (.cyclicDependency [⟨"S", 0, 0⟩, ⟨"S", 0, 1⟩]) ∈ evaluateAll entangled [⟨"S", 0, 2⟩] ∧
      entangled.ClosedChain [⟨"S", 0, 0⟩, ⟨"S", 0, 1⟩] := by
  have reported : .error (.cyclicDependency [⟨"S", 0, 0⟩, ⟨"S", 0, 1⟩]) ∈
      evaluateAll entangled [⟨"S", 0, 2⟩] := by
    rw [evaluateAll, run_mapM_evaluate entangled _ (sound_empty entangled)]
    refine List.mem_singleton.mpr ?_
    with_unfolding_all rfl
  exact ⟨reported, ((evaluate_eq_evaluateGuarded_and_circles entangled).2.1 _ _ reported).1⟩

end SheetCompiler.Evaluation
