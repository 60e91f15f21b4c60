import SheetCompiler.Evaluation.Call
import SheetCompiler.Workbook

/-!
# Evaluating cells

A cell is evaluated by evaluating its formula, reading the cells it references in the same way. The
path holds the cells whose formulas are being evaluated, the innermost first; a formula that reads a
cell of the path closes a circle. The path never repeats a cell, so evaluation ends.

How values are remembered between reads is left to a `Memory`. Without one, evaluation is a plain
function of the workbook; with one, each cell is evaluated once.
-/

namespace SheetCompiler.Evaluation

open Formula (Expr Function)

section Expressions

variable {m : Type → Type} [Monad m] [MonadExceptOf CompileError m]

mutual

/-- The value of an expression in the formula of `cell`. -/
def eval (read : Address → m Value) (cell : Address) : Expr → m Value
  | .literal literal => pure (.ofLiteral literal)
  | .cell address => read address
  | .range _ _ => throw (.invalidArguments cell .rangeAsValue)
  | .unary op operand => do
    return unary op (← eval read cell operand)
  | .binary op left right => do
    let l ← eval read cell left
    let r ← eval read cell right
    return binary op l r
  | .call name args =>
    match Function.ofName? name with
    | none => throw (.unsupportedFunction name cell)
    | some f =>
      let fault := .invalidArguments cell (.arity name f.arity args.length)
      if f.arity.admits args.length then call read cell fault f (arguments read cell args)
      else throw fault

/-- The arguments of a call, each with the computation of its value. -/
def arguments (read : Address → m Value) (cell : Address) : List Expr → List (Argument m)
  | [] => []
  | e :: rest => ⟨e, eval read cell e⟩ :: arguments read cell rest

end

end Expressions

/-- The formula cells that are not on the path. -/
def unvisited (w : Workbook) (path : List Address) : List Address :=
  w.formulas.keys.filter fun cell => !path.contains cell

theorem mem_formulas_of_cell? {w : Workbook} {cell : Address} {c : Cell} {text : String}
    {expr : Expr} (h : w.cell? cell = some c) (hc : c.content = .formula text expr) :
    cell ∈ w.formulas.keys := by
  have entry := OrderedMap.mem_of_get? h
  rw [OrderedMap.keys, List.mem_map]
  refine ⟨(cell, expr), List.mem_filterMap.mpr ⟨(cell, c), entry, ?_⟩, rfl⟩
  simp [Cell.expr?, hc]

theorem length_unvisited_cons_lt {w : Workbook} {path : List Address} {cell : Address}
    (formula : cell ∈ w.formulas.keys) (off : path.contains cell = false) :
    (unvisited w (cell :: path)).length < (unvisited w path).length := by
  have sub : unvisited w (cell :: path) = (unvisited w path).filter (· ≠ cell) := by
    rw [unvisited, unvisited, List.filter_filter]
    congr 1
    funext a
    by_cases h : a = cell <;> simp [h]
  rw [sub]
  refine List.length_filter_lt_length_iff_exists.mpr ⟨cell, ?_, by simp⟩
  exact List.mem_filter.mpr ⟨formula, by simpa using off⟩

/-- How values of cells are kept while evaluating. -/
structure Memory (m : Type → Type) where
  /-- The value kept for a cell. -/
  find? : Address → m (Option Value)
  /-- Keeps a value for a cell. -/
  record : Address → Value → m Unit

section Cells

variable {m : Type → Type} [Monad m] [MonadExceptOf CompileError m]

/-- The circle that reading `cell` from the innermost cell of the path closes. -/
def circle (path : List Address) (cell : Address) : List Address :=
  (path.takeWhile (· ≠ cell) ++ [cell]).reverse

/-- The value of a cell, the formulas of the cells on the path being under evaluation. -/
def valueOf (memory : Memory m) (w : Workbook) (path : List Address) (cell : Address) :
    m Value := do
  match ← memory.find? cell with
  | some v => return v
  | none =>
    match h : w.cell? cell with
    | none => return .blank
    | some c =>
      match hc : c.content with
      | .value literal =>
        memory.record cell (.ofLiteral literal)
        return .ofLiteral literal
      | .formula _ expr =>
        match off : path.contains cell with
        | true => throw (.cyclicDependency (circle path cell))
        | false =>
          have := length_unvisited_cons_lt (mem_formulas_of_cell? h hc) off
          let v ← eval (fun a => valueOf memory w (cell :: path) a) cell expr
          memory.record cell v
          return v
termination_by (unvisited w path).length

/-- The value that a cell shows: a formula with a blank value shows zero. -/
def shown (w : Workbook) (cell : Address) (v : Value) : Value :=
  match v with
  | .blank => if (w.formula? cell).isSome then .number 0.0 else .blank
  | v => v

/-- The value that a cell shows, found with a memory. -/
def evaluateWith (memory : Memory m) (w : Workbook) (cell : Address) : m Value := do
  return shown w cell (← valueOf memory w [] cell)

end Cells

/-- The values found so far. -/
abbrev Cache := OrderedMap Address Value

/-- Computations that keep the values of cells. What is found before a failure is kept too. -/
abbrev Evaluator := ExceptT CompileError (StateM Cache)

/-- Keeps values in the cache. -/
def Memory.cache : Memory Evaluator where
  find? cell := do return (← get).get? cell
  record cell v := modify (·.insert cell v)

/-- Keeps nothing. -/
def Memory.none : Memory (Except CompileError) where
  find? _ := pure .none
  record _ _ := pure ()

/-- The value that a cell shows, with the values found on the way kept for later evaluations. -/
def evaluate (w : Workbook) (cell : Address) : Evaluator Value :=
  evaluateWith Memory.cache w cell

/-- The values of cells one after the other, each evaluation using what earlier ones found. -/
def evaluateAll (w : Workbook) (cells : List Address) : List (Except CompileError Value) :=
  ((cells.mapM fun cell => (evaluate w cell).run).run .empty).1

/-- The value that a cell shows. -/
def evaluateCell (w : Workbook) (cell : Address) : Except CompileError Value :=
  ((evaluate w cell).run.run .empty).1

end SheetCompiler.Evaluation
