import SheetCompiler.Proofs.Evaluation.Path
import SheetCompiler.Proofs.Lowering.CallCode
import SheetCompiler.Proofs.Lowering.Positions

/-!
# What compilation checks

Whatever can be wrong with a formula is found before anything is evaluated: a workbook that can be
ordered has no circle, and a formula that can be lowered is well formed. One failure is left, since
it depends on values: a choice or a table lookup by an index that is not a number.
-/

namespace SheetCompiler.Evaluation

open Dependency (EvaluationOrder Graph circular_of_closedChain)
open Lowering (statements exists_formula_statement exists_lower_of_kind wellFormed_of_lower)

variable {w : Workbook}

/-- In the formula of the cell something is selected by a value that is no number. -/
def StraysAt (w : Workbook) (cell : Address) : Prop :=
  ∃ e, w.formula? cell = some e ∧ ∃ s ∈ e.selectors, ∃ v x,
    eval (valueOf Memory.none w []) cell s = .ok v ∧ v.toNumber = .ok x ∧ x.isNaN

/-- What an expression is evaluated to below some path, it is evaluated to from the start. -/
theorem eval_of_eval_below {path : List Address} {cell : Address} {e : Formula.Expr} {v : Value}
    (h : eval (valueOf Memory.none w path) cell e = .ok v) :
    eval (valueOf Memory.none w []) cell e = .ok v := by
  refine keepsOk.rel_eval e (fun a _ u below => ?_) v h
  exact valueOf_none_eq_ok (hasValue_of_valueOf_none below) (by simp)

section Statements

variable {order : List Address} {inlineValues : Bool} {program : List Lowering.Statement}

/-- In a workbook that can be ordered and lowered, in whichever mode, a cell has a value unless an
index that is no number strays. -/
theorem failsOnly_valueOf_of_statements (ordered : EvaluationOrder w order)
    (lowered : statements w inlineValues order = .ok program) (cell : Address) :
    FailsOnly (fun e => ∃ c, e = .strayIndex c ∧ StraysAt w c) (valueOf Memory.none w [] cell) := by
  apply failsOnly_valueOf
  case circles =>
    intro chain closed _
    obtain ⟨first, member⟩ := List.exists_mem_of_ne_nil chain closed.1
    exact absurd (circular_of_closedChain closed member) (ordered.acyclic first)
  case selects =>
    intro c e formula s selector path v x value number notNumber
    exact ⟨c, rfl, e, formula, s, selector, v, x, eval_of_eval_below value, number, notNumber⟩
  case faults =>
    intro c e formula bad
    obtain ⟨s, member, rfl, kind⟩ :=
      exists_formula_statement ordered lowered (Option.isSome_iff_exists.mpr ⟨e, formula⟩)
    obtain ⟨types, e', found, code⟩ := exists_lower_of_kind lowered member kind
    obtain rfl : e = e' := Option.some.inj (formula.symm.trans found)
    rw [wellFormed_of_lower e code] at bad
    cases bad
  case linked => exact .nil w cell

/-- A workbook that can be ordered and lowered, in whichever mode, is evaluated: every cell that an
evaluator is asked for has a value, unless an index that is no number strays. -/
theorem evaluateAll_of_statements (ordered : (Graph.ofWorkbook w).order = .ok order)
    (lowered : statements w inlineValues order = .ok program) (cells : List Address) :
    ∀ outcome ∈ evaluateAll w cells, (∃ v, outcome = .ok v) ∨
      ∃ cell, outcome = .error (.strayIndex cell) ∧ StraysAt w cell := by
  have placed := Graph.evaluationOrder_of_order_eq_ok ordered
  intro outcome reported
  rw [evaluateAll, run_mapM_evaluate w cells (sound_empty w)] at reported
  obtain ⟨cell, -, rfl⟩ := List.mem_map.mp reported
  cases result : evaluateWith Memory.none w cell with
  | ok v => exact .inl ⟨v, rfl⟩
  | error e =>
      have fails := failsOnly_valueOf_of_statements placed lowered cell
      obtain ⟨c, rfl, strays⟩ := fails.bind (fun v _ => failsOnly_ok _) e result
      exact .inr ⟨c, rfl, strays⟩

end Statements

/-- The choice `CHOOSE(x*10-x*10,1,2)`, which is an error value unless the product is infinite. -/
def choice (x : Float) : Formula.Expr :=
  let product := .binary .mul (.literal (.number x)) (.literal (.integer 10))
  .call "CHOOSE" [.binary .sub product product, .literal (.integer 1), .literal (.integer 2)]

/-- The choice in a cell. -/
def choiceBy (x : Float) : Workbook where
  name := "Choice"
  sheets := ["S"]
  cells := .ofList [(⟨"S", 0, 0⟩, ⟨.formula "CHOOSE(x*10-x*10,1,2)" (choice x), none, none⟩)]

theorem cell?_choiceBy (x : Float) : (choiceBy x).cell? ⟨"S", 0, 0⟩ =
    some ⟨.formula "CHOOSE(x*10-x*10,1,2)" (choice x), none, none⟩ := by
  cbv

theorem order_choiceBy (x : Float) : (Graph.ofWorkbook (choiceBy x)).order = .ok [⟨"S", 0, 0⟩] := by
  cbv

theorem exists_statements_choiceBy (x : Float) :
    ∃ program, statements (choiceBy x) false [⟨"S", 0, 0⟩] = .ok program := by
  obtain ⟨t, lowered⟩ : ∃ t, Lowering.lower (Lowering.Scope.ofWorkbook (choiceBy x) false)
      (Lowering.typesOf (Lowering.Scope.ofWorkbook (choiceBy x) false).inputs) ⟨"S", 0, 0⟩
      (choice x) = .ok t :=
    ⟨_, rfl⟩
  have found : (choiceBy x).formula? ⟨"S", 0, 0⟩ = some (choice x) := by
    simp [Workbook.formula?, cell?_choiceBy, Cell.expr?]
  have none (types : Lowering.Types) :
      (Lowering.Scope.ofWorkbook (choiceBy x) false).formulas types [] = .ok [] := rfl
  obtain ⟨s, formulas⟩ := Lowering.exists_formulas_cons found lowered (none _)
  exact ⟨_, Lowering.statements_eq_ok.mpr ⟨[s], formulas, rfl⟩⟩

theorem evaluateAll_choiceBy {x : Float} (stray : (x * 10 - x * 10).isNaN) :
    evaluateAll (choiceBy x) [⟨"S", 0, 0⟩] = [.error (.strayIndex ⟨"S", 0, 0⟩)] := by
  have failed : valueOf Memory.none (choiceBy x) [] ⟨"S", 0, 0⟩ =
      .error (.strayIndex ⟨"S", 0, 0⟩) := by
    rw [valueOf_none_eq, cell?_choiceBy]
    have chosen : ∀ options : List (Argument (Except CompileError)),
        choose ⟨"S", 0, 0⟩ options (x * 10 - x * 10) = .error (.strayIndex ⟨"S", 0, 0⟩) := by
      intro options
      rw [choose, if_pos stray]
      rfl
    exact chosen _
  rw [evaluateAll, run_mapM_evaluate _ _ (sound_empty _), List.map_singleton, evaluateWith, failed]
  rfl

/-- Twice the same product that is too large for a number. -/
theorem choiceBy_strays :
    (Graph.ofWorkbook (choiceBy 1e308)).order = .ok [⟨"S", 0, 0⟩] ∧
      (∃ program, statements (choiceBy 1e308) false [⟨"S", 0, 0⟩] = .ok program) ∧
      evaluateAll (choiceBy 1e308) [⟨"S", 0, 0⟩] = [.error (.strayIndex ⟨"S", 0, 0⟩)] ∧
      StraysAt (choiceBy 1e308) ⟨"S", 0, 0⟩ := by
  obtain ⟨program, lowered⟩ := exists_statements_choiceBy 1e308
  have failed := evaluateAll_choiceBy (x := 1e308) (by decide +kernel)
  refine ⟨order_choiceBy _, ⟨program, lowered⟩, failed, ?_⟩
  have outcome := evaluateAll_of_statements (order_choiceBy _) lowered [⟨"S", 0, 0⟩]
    (.error (.strayIndex ⟨"S", 0, 0⟩)) (failed ▸ List.mem_singleton.mpr rfl)
  obtain ⟨v, value⟩ | ⟨cell, same, strays⟩ := outcome
  · cases value
  · cases same
    exact strays

end SheetCompiler.Evaluation
