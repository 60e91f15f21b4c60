import SheetCompiler.ClassFile.Basic
import SheetCompiler.Proofs.Code.Renaming
import SheetCompiler.Proofs.Lowering.Declarations
import SheetCompiler.Proofs.Naming.Assignment

/-!
# Programs can be written out

Every identifier of a program is the raw name of a statement, and every raw name of a statement has
a final name. So no identifier is left without a name when the declarations are written.
-/

namespace SheetCompiler

namespace ClassFile

open Dependency (EvaluationOrder)
open Lowering (Statement)

variable {names : Naming.Mapping} {deferred : List String} {s : Statement}

theorem isSome_readAs {raw : String} (h : (names.get? raw).isSome) :
    (readAs names deferred raw).isSome := by
  rw [readAs, Option.isSome_map, h]

theorem exists_declare (named : (names.get? s.raw).isSome)
    (read : ∀ name ∈ s.expr.occurrences, (names.get? name).isSome) :
    ∃ d, declare names deferred s = .ok d := by
  obtain ⟨name, found⟩ := Option.isSome_iff_exists.mp named
  have readable : ∀ name ∈ s.expr.occurrences, (readAs names deferred name).isSome :=
    fun name member => isSome_readAs (read name member)
  obtain ⟨e, renamed⟩ := Code.Expr.exists_rename_iff.mpr readable
  exact ⟨⟨s, name, e, deferred.contains s.raw⟩, by rw [declare, found, renamed]; rfl⟩

variable {w : Workbook} {inlineValues : Bool} {order : List Address} {program : List Statement}

/-- The final names of a program's statements are enough to write the program. -/
theorem exists_source (ordered : EvaluationOrder w order)
    (lowered : Lowering.statements w inlineValues order = .ok program)
    (named : ∀ s ∈ program, (names.get? s.raw).isSome) (layout : Layout) (outputs : List Address) :
    ∃ text, source layout names program outputs = .ok text := by
  have declared : ∃ ds, declarations names program = .ok ds := by
    refine exists_mapM fun s member => exists_declare (named s member) fun name occurs => ?_
    obtain ⟨before, after, split⟩ := List.append_of_mem member
    have typed := Lowering.wellTyped_statement ordered lowered split
    obtain ⟨d, earlier, rfl⟩ := Lowering.exists_declaration (typed.declared name occurs)
    exact named d (split ▸ List.mem_append_left _ earlier)
  obtain ⟨ds, declared⟩ := declared
  exact ⟨renderLines (fileLines layout ds outputs), by rw [source, declared]; rfl⟩

end ClassFile

end SheetCompiler
