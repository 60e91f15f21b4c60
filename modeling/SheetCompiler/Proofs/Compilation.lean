import SheetCompiler.Compilation
import SheetCompiler.Proofs.ClassFile.Renaming
import SheetCompiler.Proofs.Lowering.Failure

/-!
# How a compilation ends

Under default options a compilation goes wrong in what the workbook says, never in what the compiler
makes of it: the class name it derives is usable, formulas come in an order in which everything is
computed before it is read, every statement finds a name, and every identifier has one.
-/

namespace SheetCompiler

open Dependency (Graph)
open Evaluation (FailsOnly failsOnly_ok failsOnly_throw)

namespace Compilation

/-- No reserved word ends like a derived class name. -/
theorem append_model_notMem_keywords (base : String) : base ++ "Model" ∉ Code.keywords := by
  have endings : ∀ word ∈ Code.keywords, ¬ "Model".toList <:+ word.toList := by decide +kernel
  intro reserved
  refine endings _ reserved ?_
  rw [String.toList_append]
  exact List.suffix_append _ _

/-- Whatever a workbook is called, its name makes a usable class name. -/
theorem isUsable_defaultClassName (workbookName : String) :
    Naming.isUsable (defaultClassName workbookName) := by
  rw [defaultClassName]
  split
  case isTrue => decide +kernel
  case isFalse some =>
    have base : Naming.isIdentifier (Naming.pascalCase (Naming.camelCase workbookName)) := by
      refine Naming.isIdentifier_pascalCase (Naming.isIdentifier_camelCase ?_)
      rw [Bool.eq_false_iff]
      intro empty
      rw [String.isEmpty_iff.mp empty] at some
      exact some rfl
    have ending : "Model".toList.all Naming.continuesIdentifier := by decide +kernel
    have name := Naming.isIdentifier_append base (List.all_eq_true.mp ending)
    simpa [Naming.isUsable, name, Code.isKeyword] using append_model_notMem_keywords _

theorem checkedClassName_default (w : Workbook) :
    checkedClassName w {} = .ok (defaultClassName w.name) := by
  simp only [checkedClassName, Option.getD_none, isUsable_defaultClassName, if_true]

end Compilation

/-- No other fault is worded like a cell that is read too early. -/
theorem ArgumentFault.exists_notComputed_of_message {fault : ArgumentFault} {text : String}
    (h : fault.message = text ++ " is referenced before it is computed") :
    ∃ cell, fault = .notComputed cell := by
  have ending : " is referenced before it is computed".toList <:+ fault.message.toList := by
    rw [h, String.toList_append]
    exact List.suffix_append _ _
  cases fault with
  | notComputed cell => exact ⟨cell, rfl⟩
  | rangeAsValue => exact absurd ending (by decide +kernel)
  | rangeNeeded => exact absurd ending (by decide +kernel)
  | arity name expected count =>
      -- The words end in a number.
      have digits := List.ne_nil_of_length_pos (Nat.length_toDigits_pos (b := 10) (n := count))
      have last := congrArg List.getLast? (congrArg String.toList h)
      simp only [message, String.toList_append, Nat.toString_eq_ofList_toDigits,
        String.toList_ofList, List.getLast?_append_of_ne_nil _ digits] at last
      have letter : 'd' ∈ Nat.toDigits 10 count := by
        refine List.mem_of_getLast? (last.trans ?_)
        rw [List.getLast?_append_of_ne_nil _ (by decide +kernel)]
        decide +kernel
      have digit := Nat.isDigit_of_mem_toDigits (by decide) (by decide) letter
      exact absurd digit (by decide)

/-- Formulas are put in order, unless they reference one another in a circle. -/
theorem failsOnly_order (g : Graph) :
    FailsOnly (fun e => ∃ chain, e = .cyclicDependency chain) g.order := by
  rw [Graph.order_eq]
  split
  case isTrue => exact failsOnly_ok _
  case isFalse => exact failsOnly_throw ⟨_, rfl⟩

/-- A workbook whose formulas can be ordered and lowered is compiled. -/
theorem exists_compile_default {w : Workbook} {order : List Address}
    {program : List Lowering.Statement} (ordered : (Graph.ofWorkbook w).order = .ok order)
    (lowered : Lowering.statements w false order = .ok program) :
    ∃ c, compile w {} = .ok c ∧ c.order = order := by
  let className := Compilation.defaultClassName w.name
  let outputs := Compilation.unread (Graph.ofWorkbook w) order
  obtain ⟨names, assigned, named⟩ := Naming.exists_assigned [className] program
  have complete : ∀ s ∈ program, (names.get? s.raw).isSome :=
    fun s member => (named.defined_iff s.raw).mpr ⟨s, member, rfl⟩
  have placed := Graph.evaluationOrder_of_order_eq_ok ordered
  obtain ⟨text, written⟩ :=
    ClassFile.exists_source placed lowered complete ⟨className, none, w.name, true⟩ outputs
  refine ⟨⟨text, names, className, order, outputs, none⟩, ?_, rfl⟩
  simp only [compile, bind_eq_ok, pure_eq_ok]
  exact ⟨className, Compilation.checkedClassName_default w, ⟨⟩, rfl, order, ordered, program,
    lowered, names, assigned, outputs, rfl, text, written, none, rfl, rfl⟩

/-- After the formulas are ordered and lowered nothing can fail any more. -/
theorem failsOnly_compile_default (w : Workbook) :
    FailsOnly (fun e => (∃ chain, e = .cyclicDependency chain) ∨ Lowering.FormulaFault e)
      (compile w {}) := by
  rw [compile, Compilation.checkedClassName_default]
  refine (failsOnly_ok _).bind fun className _ => (failsOnly_ok _).bind fun _ _ => ?_
  refine FailsOnly.bind (fun e failed => .inl (failsOnly_order _ e failed)) fun order ordered => ?_
  have placed := Graph.evaluationOrder_of_order_eq_ok ordered
  refine FailsOnly.bind (fun e failed => .inr (Lowering.failsOnly_statements placed e failed))
    fun program lowered => ?_
  obtain ⟨names, assigned, named⟩ := Naming.exists_assigned [className] program
  rw [assigned]
  refine (failsOnly_ok _).bind fun names' same => ?_
  cases same
  refine (failsOnly_ok _).bind fun outputs _ => ?_
  have complete : ∀ s ∈ program, (names.get? s.raw).isSome :=
    fun s member => (named.defined_iff s.raw).mpr ⟨s, member, rfl⟩
  refine FailsOnly.bind (fun e failed => ?_) fun text _ => failsOnly_ok _
  obtain ⟨text, written⟩ := ClassFile.exists_source placed lowered complete _ outputs
  rw [written] at failed
  cases failed

/-- Under default options a compilation succeeds, or it fails on a circle of formulas or on a fault
of some formula: a function that does not exist, arguments that do not fit, or a constant divided by
the constant zero. A formula is never reported for reading a cell too early. -/
theorem compile_default_outcome (w : Workbook) :
    (∃ compilation, compile w {} = .ok compilation) ∨
      ∃ e, compile w {} = .error e ∧
        ((∃ chain, e = .cyclicDependency chain) ∨
          (∃ name cell, e = .unsupportedFunction name cell) ∨ (∃ cell, e = .divisionByZero cell) ∨
          ∃ cell fault, e = .invalidArguments cell fault ∧
            ∀ text, fault.message ≠ text ++ " is referenced before it is computed") := by
  cases outcome : compile w {} with
  | ok compilation => exact .inl ⟨compilation, rfl⟩
  | error e =>
      refine .inr ⟨e, rfl, ?_⟩
      have timely {fault : ArgumentFault} (other : ∀ cell, fault ≠ .notComputed cell)
        (text : String) :
          fault.message ≠ text ++ " is referenced before it is computed" := by
        intro worded
        obtain ⟨cell, same⟩ := ArgumentFault.exists_notComputed_of_message worded
        exact other cell same
      rcases failsOnly_compile_default w e outcome with circle | ⟨cell, fault⟩
      · exact .inl circle
      · cases fault with
        | function name => exact .inr (.inl ⟨name, cell, rfl⟩)
        | division => exact .inr (.inr (.inl ⟨cell, rfl⟩))
        | rangeAsValue => exact .inr (.inr (.inr ⟨cell, _, rfl, timely nofun⟩))
        | rangeNeeded => exact .inr (.inr (.inr ⟨cell, _, rfl, timely nofun⟩))
        | arity name expected count => exact .inr (.inr (.inr ⟨cell, _, rfl, timely nofun⟩))

end SheetCompiler
