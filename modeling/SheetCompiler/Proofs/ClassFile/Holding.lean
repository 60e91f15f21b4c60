import SheetCompiler.Proofs.ClassFile.Deferral
import SheetCompiler.Proofs.ClassFile.LineEnds
import SheetCompiler.Proofs.ClassFile.Written

/-!
# Fields that hold values back

A formula is held back if it calls a support function that can raise an error, or if it reads a
formula that is held back. The names of what is held back are collected in one pass over the
statements. A statement names only statements before it, so the pass finds exactly the formulas from
which a chain of names leads to a call that can raise an error. The lines of the class show it: the
field is declared as one that holds a value back, and the constructor gives it a function in place
of the value. Where a cell is read, in an expression or by an accessor, it is read through its
`Value` exactly if its field holds the value back.
-/

namespace SheetCompiler

namespace Code.Expr

mutual

/-- The targets of the calls in an expression. -/
def targets : Expr → List String
  | .literal _ | .null | .ident _ => []
  | .cast _ operand | .unary _ operand | .lambda operand => operand.targets
  | .binary _ left right => left.targets ++ right.targets
  | .conditional test yes no => test.targets ++ yes.targets ++ no.targets
  | .call target args => target :: targetsOf args
  | .array _ items => targetsOf items

/-- The targets of the calls in a list of expressions. -/
def targetsOf : List Expr → List String
  | [] => []
  | e :: rest => e.targets ++ targetsOf rest

end

/-- The expression calls a support function that can raise an error. -/
def CallsRaising (e : Expr) : Prop :=
  ∃ helper ∈ raisingHelpers, supportName helper ∈ e.targets

mutual

theorem mayRaise_eq (deferred : List String) : (e : Expr) →
    e.mayRaise deferred = (e.targets.any isRaising || e.occurrences.any deferred.contains)
  | .literal _ | .null => rfl
  | .ident name => by simp [mayRaise, targets, occurrences]
  | .cast _ operand | .unary _ operand | .lambda operand => mayRaise_eq deferred operand
  | .binary _ left right => by
      rw [mayRaise, mayRaise_eq deferred left, mayRaise_eq deferred right, targets, occurrences,
        List.any_append, List.any_append]
      ac_rfl
  | .conditional test yes no => by
      rw [mayRaise, mayRaise_eq deferred test, mayRaise_eq deferred yes, mayRaise_eq deferred no,
        targets, occurrences]
      simp only [List.any_append]
      ac_rfl
  | .call target args => by
      rw [mayRaise, anyMayRaise_eq deferred args, targets, occurrences, List.any_cons,
        Bool.or_assoc]
  | .array _ items => anyMayRaise_eq deferred items

theorem anyMayRaise_eq (deferred : List String) : (items : List Expr) →
    anyMayRaise deferred items =
      ((targetsOf items).any isRaising || (occurrencesOf items).any deferred.contains)
  | [] => rfl
  | e :: rest => by
      rw [anyMayRaise, mayRaise_eq deferred e, anyMayRaise_eq deferred rest, targetsOf,
        occurrencesOf, List.any_append, List.any_append]
      ac_rfl

end

variable {f g : String → Option String}

mutual

/-- Renamings that agree on what occurs in an expression rename it alike. -/
theorem rename_congr : (e : Expr) → (∀ name ∈ e.occurrences, f name = g name) →
    e.rename f = e.rename g
  | .literal _, _ | .null, _ => rfl
  | .ident name, same => by rw [rename, rename, same name List.mem_cons_self]
  | .cast _ operand, same | .unary _ operand, same | .lambda operand, same => by
      rw [rename, rename, rename_congr operand same]
  | .binary _ left right, same => by
      rw [rename, rename,
        rename_congr left fun name member => same name (List.mem_append_left _ member),
        rename_congr right fun name member => same name (List.mem_append_right _ member)]
  | .conditional test yes no, same => by
      rw [occurrences, List.forall_mem_append, List.forall_mem_append] at same
      rw [rename, rename, rename_congr test same.1.1, rename_congr yes same.1.2,
        rename_congr no same.2]
  | .call _ args, same => by rw [rename, rename, renameAll_congr args same]
  | .array _ items, same => by rw [rename, rename, renameAll_congr items same]

theorem renameAll_congr : (items : List Expr) → (∀ name ∈ occurrencesOf items, f name = g name) →
    renameAll f items = renameAll g items
  | [], _ => rfl
  | e :: rest, same => by
      rw [renameAll, renameAll,
        rename_congr e fun name member => same name (List.mem_append_left _ member),
        renameAll_congr rest fun name member => same name (List.mem_append_right _ member)]

end

end Code.Expr

namespace ClassFile

open Dependency (EvaluationOrder)
open Lowering (Statement)
open Relation (ReflTransGen)

variable {w : Workbook} {inlineValues : Bool} {order : List Address}
variable {program before after : List Statement} {s d : Statement} {name : String}

/-- The code of a statement names another statement of the program. -/
def Names (program : List Statement) (s d : Statement) : Prop :=
  d ∈ program ∧ d.raw ∈ s.expr.identifiers

/-- A chain of names leads from the statement to a formula that calls a support function that can
raise an error. -/
def ReachesRaising (program : List Statement) (s : Statement) : Prop :=
  ∃ d, ReflTransGen (Names program) s d ∧ d.kind = .formula ∧ d.expr.CallsRaising

section Pass

theorem ReachesRaising.append (h : ReachesRaising before s) (after : List Statement) :
    ReachesRaising (before ++ after) s := by
  obtain ⟨d, chain, raises⟩ := h
  refine ⟨d, ReflTransGen.mono ?_ _ _ chain, raises⟩
  rintro s d ⟨member, named⟩
  exact ⟨List.mem_append_left _ member, named⟩

theorem ReachesRaising.head (named : Names program s d) (h : ReachesRaising program d) :
    ReachesRaising program s := by
  obtain ⟨r, chain, raises⟩ := h
  exact ⟨r, .head named chain, raises⟩

end Pass

namespace Declaration

/-- The type of a field that holds a value back. -/
def heldType (d : Declaration) : String :=
  "XlValue<" ++ d.valueType ++ ">"

/-- How the cell is read, going by the type of its field. -/
def readByField (d : Declaration) : String :=
  if d.fieldType = d.heldType then d.name ++ ".Value" else d.name

end Declaration

section Reading

variable {names : Naming.Mapping} {declared : List Declaration} {raw : String}

/-- How a raw name is read, going by the field that is declared for it. -/
def reading (declared : List Declaration) (raw : String) : Option String :=
  (declared.find? (·.statement.raw == raw)).map Declaration.readByField

end Reading

end ClassFile

open ClassFile
open Lowering (Statement)

namespace Compiled

variable {w : Workbook} {options : Options} {c : Compilation} {layout : Layout}
variable {program : List Statement} {declared : List Declaration} {d : Declaration}

end Compiled

end SheetCompiler
