import SheetCompiler.Proofs.Dependency.Order
import SheetCompiler.Proofs.Evaluation.Failure
import SheetCompiler.Proofs.Lowering.CallCode
import SheetCompiler.Proofs.Lowering.Statements

/-!
# How lowering fails

A formula fails to be lowered for a fault of its own, or because a cell that it references has not
been lowered yet. In an evaluation order the second never happens: what a formula reads has its
statement before it, so a workbook whose formulas can be ordered only fails by the faults of single
formulas.
-/

namespace SheetCompiler.Lowering

open Dependency (EvaluationOrder)
open Evaluation (FailsOnly failsOnly_ok failsOnly_throw)
open Formula (Expr Function referencesOf)

/-- What is wrong with the formula of `cell` by itself. -/
inductive IsFormulaFault (cell : Address) : CompileError → Prop
  | function (name : String) : IsFormulaFault cell (.unsupportedFunction name cell)
  | rangeAsValue : IsFormulaFault cell (.invalidArguments cell .rangeAsValue)
  | rangeNeeded : IsFormulaFault cell (.invalidArguments cell .rangeNeeded)
  | arity (name : String) (expected : Function.Arity) (count : Nat) :
      IsFormulaFault cell (.invalidArguments cell (.arity name expected count))
  /-- A constant is divided by the constant zero. -/
  | division : IsFormulaFault cell (.divisionByZero cell)

section Arguments

variable {P : CompileError → Prop} {scope : Scope} {types : Types} {cell : Address}
variable {args : List Argument} {arg : Argument}

theorem failsOnly_map {α β : Type} {x : Except CompileError α} {f : α → β} (h : FailsOnly P x) :
    FailsOnly P (x.map f) := by
  cases x with
  | error e => exact failsOnly_throw (h e rfl)
  | ok a => exact failsOnly_ok _

theorem failsOnly_division {left right : Code.Expr} (fault : P (.divisionByZero cell)) :
    FailsOnly P (division cell left right) := by
  rw [division]
  split
  case h_1 =>
    split
    case isTrue => exact failsOnly_throw fault
    case isFalse => exact failsOnly_ok _
  case h_2 => exact failsOnly_ok _
  case h_3 => exact failsOnly_ok _

theorem failsOnly_binary {op : Formula.BinaryOp} {left right : Typed}
    (fault : P (.divisionByZero cell)) : FailsOnly P (binary cell op left right) := by
  cases op with
  | div => exact failsOnly_map (failsOnly_division fault)
  | concat | add | sub | mul | pow | eq | ne | lt | le | gt | ge => exact failsOnly_ok _

variable (P scope types cell) in
/-- An argument whose code and whose references fail only with the property. -/
structure Tame (arg : Argument) : Prop where
  typed : FailsOnly P arg.typed
  reads : ∀ a ∈ arg.expr.references, FailsOnly P (scope.reference types cell a)

theorem failsOnly_rectangle {first last : Address}
    (h : ∀ a ∈ Address.rectangle first last, FailsOnly P (scope.reference types cell a)) :
    FailsOnly P (scope.rectangle types cell first last) := by
  refine FailsOnly.mapM fun a member => ?_
  split
  case isTrue => exact failsOnly_map (h a member)
  case isFalse => exact failsOnly_ok _

theorem Tame.failsOnly_itemsOf (h : Tame P scope types cell arg) :
    FailsOnly P (itemsOf scope types cell arg) := by
  obtain ⟨expr, typed⟩ := arg
  cases expr with
  | range first last => exact (failsOnly_rectangle h.reads).bind fun cells _ => failsOnly_ok _
  | literal | cell | binary | unary | call => exact h.typed.bind fun t _ => failsOnly_ok _

theorem failsOnly_items (h : ∀ arg ∈ args, Tame P scope types cell arg) :
    FailsOnly P (items scope types cell args) :=
  (FailsOnly.mapM fun arg member => (h arg member).failsOnly_itemsOf).bind fun _ _ => failsOnly_ok _

theorem Tame.failsOnly_block (h : Tame P scope types cell arg)
    (fault : P (.invalidArguments cell .rangeNeeded)) :
    FailsOnly P (block scope types cell arg) := by
  obtain ⟨expr, typed⟩ := arg
  cases expr with
  | range first last => exact (failsOnly_rectangle h.reads).bind fun cells _ => failsOnly_ok _
  | cell address =>
      refine (failsOnly_rectangle fun a member => h.reads a ?_).bind fun cells _ => failsOnly_ok _
      simpa [Address.rectangle_self, Expr.references] using member
  | literal | binary | unary | call => exact failsOnly_throw fault

theorem failsOnly_optional {args : List Argument} {absent : Literal} {f : Typed → Code.Expr}
    (h : ∀ arg ∈ args, Tame P scope types cell arg) :
    FailsOnly P (optional args.head? absent f) := by
  cases args with
  | nil => exact failsOnly_ok _
  | cons arg rest => exact failsOnly_map (h arg List.mem_cons_self).typed

/-- A call fails like its arguments, or for a missing range. -/
theorem failsOnly_call {fault : CompileError} {f : Function}
    (h : ∀ arg ∈ args, Tame P scope types cell arg) (arity : P fault)
    (range : P (.invalidArguments cell .rangeNeeded)) :
    FailsOnly P (call scope types cell fault f args) := by
  unfold call
  split
  case h_1 | h_2 | h_3 | h_4 | h_5 | h_7 | h_8 | h_9 =>
    exact (failsOnly_items h).bind fun its _ => failsOnly_ok _
  case h_6 rate payments =>
    rw [List.forall_mem_cons] at h
    refine h.1.typed.bind fun r _ => ?_
    exact (failsOnly_items h.2).bind fun its _ => failsOnly_ok _
  case h_10 | h_15 | h_16 | h_17 | h_24 | h_25 | h_26 | h_27 =>
    exact (h _ List.mem_cons_self).typed.bind fun a _ => failsOnly_ok _
  case h_11 | h_13 | h_18 | h_19 | h_20 | h_21 | h_22 =>
    rw [List.forall_mem_cons, List.forall_mem_singleton] at h
    refine h.1.typed.bind fun a _ => ?_
    exact h.2.typed.bind fun b _ => failsOnly_ok _
  case h_12 =>
    rw [List.forall_mem_cons, List.forall_mem_cons, List.forall_mem_singleton] at h
    refine h.1.typed.bind fun t _ => h.2.1.typed.bind fun y _ => ?_
    exact h.2.2.typed.bind fun n _ => failsOnly_ok _
  case h_14 =>
    rw [List.forall_mem_cons] at h
    refine h.1.typed.bind fun i _ => ?_
    exact (FailsOnly.mapM fun arg member => (h.2 arg member).typed).bind fun os _ => failsOnly_ok _
  case h_23 =>
    refine (FailsOnly.mapM fun arg member => ?_).bind fun parts _ => failsOnly_ok _
    exact failsOnly_map (h arg member).typed
  case h_28 =>
    rw [List.forall_mem_cons, List.forall_mem_cons] at h
    refine (h.1.failsOnly_block range).bind fun b _ => ?_
    refine (failsOnly_optional h.2.2).bind fun c _ => ?_
    exact h.2.1.typed.bind fun r _ => failsOnly_ok _
  case h_29 =>
    rw [List.forall_mem_cons, List.forall_mem_cons] at h
    refine h.1.typed.bind fun k _ => (h.2.1.failsOnly_block range).bind fun b _ => ?_
    exact (failsOnly_optional h.2.2).bind fun c _ => failsOnly_ok _
  case h_30 =>
    rw [List.forall_mem_cons, List.forall_mem_cons, List.forall_mem_cons] at h
    refine h.1.typed.bind fun k _ => (h.2.1.failsOnly_block range).bind fun b _ => ?_
    refine (failsOnly_optional h.2.2.2).bind fun a _ => ?_
    exact h.2.2.1.typed.bind fun c _ => failsOnly_ok _
  case h_31 => exact failsOnly_throw arity

end Arguments

section Expressions

variable {scope : Scope} {types : Types} {cell : Address}

mutual

/-- Where every reference is known, a formula fails by its own faults only. -/
theorem failsOnly_lower : (e : Expr) →
    (∀ a ∈ e.references, FailsOnly (IsFormulaFault cell) (scope.reference types cell a)) →
    FailsOnly (IsFormulaFault cell) (lower scope types cell e)
  | .literal _, _ => failsOnly_ok _
  | .cell target, reads => reads target List.mem_cons_self
  | .range _ _, _ => failsOnly_throw .rangeAsValue
  | .unary _ operand, reads => (failsOnly_lower operand reads).bind fun t _ => failsOnly_ok _
  | .binary _ left right, reads => by
      have first := failsOnly_lower left fun a member => reads a (List.mem_append_left _ member)
      have second := failsOnly_lower right fun a member => reads a (List.mem_append_right _ member)
      exact first.bind fun l _ => second.bind fun r _ => failsOnly_binary .division
  | .call name args, reads => by
      rw [lower]
      split
      case h_1 => exact failsOnly_throw (.function name)
      case h_2 f named =>
        split
        case isFalse => exact failsOnly_throw (.arity name f.arity args.length)
        case isTrue =>
          exact failsOnly_call (tame_arguments args reads) (.arity name f.arity args.length)
            .rangeNeeded

theorem tame_arguments : (args : List Expr) →
    (∀ a ∈ referencesOf args, FailsOnly (IsFormulaFault cell) (scope.reference types cell a)) →
    ∀ arg ∈ arguments scope types cell args, Tame (IsFormulaFault cell) scope types cell arg
  | [], _ => nofun
  | e :: rest, reads => by
      have own : ∀ a ∈ e.references,
        FailsOnly (IsFormulaFault cell) (scope.reference types cell a) :=
        fun a member => reads a (List.mem_append_left _ member)
      rw [arguments, List.forall_mem_cons]
      exact ⟨⟨failsOnly_lower e own, own⟩,
        tame_arguments rest fun a member => reads a (List.mem_append_right _ member)⟩

end

end Expressions

section Orders

variable {w : Workbook} {inlineValues : Bool} {order : List Address}

/-- A failure is the fault of some formula. -/
def FormulaFault (e : CompileError) : Prop :=
  ∃ cell, IsFormulaFault cell e

/-- A cell that is no formula, or whose type is known, can be referenced. -/
theorem failsOnly_reference {P : CompileError → Prop} {scope : Scope} {types : Types}
    {cell target : Address}
    (known : (scope.workbook.formula? target).isSome → (types.get? target).isSome) :
    FailsOnly P (scope.reference types cell target) := by
  rw [Scope.reference]
  split
  case h_1 => exact failsOnly_ok _
  case h_2 noLiteral =>
    split
    case h_1 => exact failsOnly_ok _
    case h_2 unknown =>
      have absent : scope.workbook.cell? target = none := by
        rcases scope.workbook.cell_cases target with absent | ⟨l, literal⟩ | ⟨e, formula⟩
        · exact absent
        · rw [noLiteral] at literal
          cases literal
        · have typed := known (by rw [formula]; rfl)
          rw [unknown] at typed
          cases typed
      rw [absent, if_neg (by simp)]
      split
      case isTrue => exact failsOnly_ok _
      case isFalse => exact failsOnly_ok _

/-- The rest of an evaluation order is lowered with the types of what was lowered before. -/
theorem failsOnly_formulas (ordered : EvaluationOrder w order) {scope : Scope}
    (same : scope.workbook = w) {types : Types} (done rest : List Address)
    (split : order = done ++ rest) (known : ∀ a ∈ done, (types.get? a).isSome) :
    FailsOnly FormulaFault (scope.formulas types rest) := by
  subst same
  induction rest generalizing types done with
  | nil => exact failsOnly_ok _
  | cons cell rest ih =>
      have isFormula : (scope.workbook.formula? cell).isSome :=
        (ordered.mem_iff cell).mp (split ▸ List.mem_append_right _ List.mem_cons_self)
      obtain ⟨e, found⟩ := Option.isSome_iff_exists.mp isFormula
      obtain ⟨c, present, expr⟩ := Option.bind_eq_some_iff.mp found
      have lowered : FailsOnly FormulaFault (lower scope types cell e) := by
        intro err failed
        refine ⟨cell,
          failsOnly_lower e (fun a member => failsOnly_reference fun formula => ?_) err failed⟩
        exact known a (ordered.reads_before done cell rest split a ⟨e, found, member, formula⟩)
      simp only [Scope.formulas, present, expr]
      refine lowered.bind fun typed _ => ?_
      refine (ih (done ++ [cell]) (by rw [split, List.append_assoc]; rfl) ?_).bind fun later _ =>
        failsOnly_ok _
      intro a member
      rw [OrderedMap.get?_insert]
      split
      case isTrue => rfl
      case isFalse other =>
        rcases List.mem_append.mp member with before | last
        · exact known a before
        · exact absurd (List.mem_singleton.mp last) other

/-- In evaluation order a workbook fails to be lowered only by the fault of some formula. -/
theorem failsOnly_statements (ordered : EvaluationOrder w order) :
    FailsOnly FormulaFault (statements w inlineValues order) := by
  have formulas : FailsOnly FormulaFault ((Scope.ofWorkbook w inlineValues).formulas
      (typesOf (Scope.ofWorkbook w inlineValues).inputs) order) :=
    failsOnly_formulas ordered rfl [] order rfl (by simp)
  exact formulas.bind fun later _ => failsOnly_ok _

end Orders

end SheetCompiler.Lowering
