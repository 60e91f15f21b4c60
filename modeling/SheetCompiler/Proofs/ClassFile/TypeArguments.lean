import SheetCompiler.Proofs.ClassFile.LineEnds
import SheetCompiler.Proofs.Compilation
import SheetCompiler.Proofs.Lowering.Arrays

/-!
# Type arguments in the generated file

The code of a cell can be read token by token, since its identifiers are names that are no words of
the language. It holds what reads as a call with type arguments exactly if arguments of `And`, `Or`
or
`Compare` look like it: one ends in a comparison of a name with a name, and behind it, over
identifiers, one begins with the comparison of a name with what is in parentheses.
-/

namespace SheetCompiler

namespace ClassFile

open Code (HasTypeArguments IsName tokens?)
open Lowering (Statement)

variable {names : Naming.Mapping} {deferred : List String}

theorem lookup_words_of_notMem {name : String} (free : name ∉ Code.keywords) :
    Code.words.lookup name = none := by
  have reserved : ∀ p ∈ Code.words, p.1 ∈ Code.keywords := by decide
  refine List.lookup_eq_none_iff.mpr fun p member => ?_
  rw [bne_iff_ne]
  rintro rfl
  exact free (reserved p member)

theorem lookup_words_value (name : String) : Code.words.lookup (name ++ ".Value") = none := by
  have undotted : ∀ p ∈ Code.words, '.' ∉ p.1.toList := by decide
  refine List.lookup_eq_none_iff.mpr fun p member => ?_
  rw [bne_iff_ne]
  intro same
  refine undotted p member ?_
  rw [← same, String.toList_append]
  exact List.mem_append_right _ (by decide)

/-- What a cell is read as is a name. -/
theorem isName_readAs (legal : ∀ raw name, names.get? raw = some name →
      Naming.isIdentifier name ∧ name ∉ Code.keywords) (raw name : String)
    (read : readAs names deferred raw = some name) : IsName name := by
  obtain ⟨final, found, rfl⟩ := Option.map_eq_some_iff.mp read
  obtain ⟨identifier, free⟩ := legal raw final found
  split
  · exact Code.isName_append identifier rfl (lookup_words_value final)
  · have alone : Code.words.lookup (final ++ "") = none → IsName (final ++ "") :=
      Code.isName_append identifier rfl
    rw [String.append_empty] at alone
    exact alone (lookup_words_of_notMem free)

/-- What is written for a statement is misread where its code is. -/
theorem hasTypeArguments_of_declare {s : Statement} {d : Declaration} {Γ : Code.Context}
    {τ : Code.CodeType} (legal : ∀ raw name, names.get? raw = some name →
      Naming.isIdentifier name ∧ name ∉ Code.keywords)
    (h : declare names deferred s = .ok d) (typed : Code.HasType Γ s.expr τ) :
    ∃ ts, tokens? d.expr.render.toList = some ts ∧ (HasTypeArguments ts ↔ s.expr.misread) := by
  have renamed := rename_of_declare h
  refine ⟨d.expr.tokens, typed.tokens?_render_rename renamed (isName_readAs legal), ?_⟩
  rw [Code.hasTypeArguments_tokens, (Code.renamed_of_rename _ renamed).misread]

end ClassFile

open ClassFile
open Code (HasTypeArguments comparing tokens?)
open Dependency (Graph)
open Lowering (Scope Statement statements_eq_ok typesOf)

/-- The code of a cell in a compiled file reads as a call with type arguments exactly where
arguments of `And`, `Or` or `Compare` do. -/
theorem compile_hasTypeArguments_iff {w : Workbook} {options : Options} {c : Compilation}
    (h : compile w options = .ok c) :
    ∃ (layout : Layout) (program : List Statement) (declared : List Declaration),
      Lowering.statements w options.inlineValues c.order = .ok program ∧
        declarations c.names program = .ok declared ∧
        c.source = renderLines (fileLines layout declared c.outputs) ∧
        ∀ d ∈ declared, ∃ ts, tokens? d.expr.render.toList = some ts ∧ (HasTypeArguments ts ↔
          ∃ helper ∈ comparing, ∃ before first between last after,
            .support helper (before ++ first :: (List.map .ident between ++ last :: after)) ∈
                d.statement.expr.nodes ∧ first.opens ∧ last.closes) := by
  obtain ⟨layout, program, declared, compiled⟩ := exists_compiled h
  have named := compiled.declares
  refine ⟨layout, program, declared, compiled.lowered, named, compiled.written, fun d member => ?_⟩
  rw [declarations, mapM_eq_ok] at named
  obtain ⟨s, listed, made⟩ := exists_left_of_forall₂ named member
  obtain ⟨before, after, split⟩ := List.append_of_mem listed
  have typed := Lowering.wellTyped_statement compiled.evaluationOrder compiled.lowered split
  obtain ⟨ts, spelled, iff⟩ :=
    hasTypeArguments_of_declare (fun raw name => compiled.legal) made typed
  refine ⟨ts, spelled, iff.trans ?_⟩
  rw [(declare_eq_ok made).1]
  exact typed.misread_iff fun element items inside =>
    Lowering.mistaken_of_array compiled.evaluationOrder compiled.lowered listed inside

/-- Two comparisons side by side: of one cell with another, and of that with a sum. -/
def between : Workbook where
  name := "book"
  sheets := ["S"]
  cells := .ofList [(⟨"S", 0, 0⟩, ⟨.value (.integer 1), none, none⟩),
    (⟨"S", 0, 1⟩, ⟨.value (.integer 3), none, none⟩),
    (⟨"S", 0, 2⟩, ⟨.formula "AND(A1<B1,B1>A1+A1)" (.call "AND" [
      .binary .lt (.cell ⟨"S", 0, 0⟩) (.cell ⟨"S", 0, 1⟩),
      .binary .gt (.cell ⟨"S", 0, 1⟩) (.binary .add (.cell ⟨"S", 0, 0⟩) (.cell ⟨"S", 0, 0⟩))]),
      none, none⟩)]

theorem between_hasTypeArguments : ∃ c, compile between {} = .ok c ∧
    ∃ (layout : Layout) (declared : List Declaration),
      c.source = renderLines (fileLines layout declared c.outputs) ∧
        ∃ d ∈ declared, ∃ ts, tokens? d.expr.render.toList = some ts ∧ HasTypeArguments ts := by
  have ordered : (Graph.ofWorkbook between).order = .ok [⟨"S", 0, 2⟩] := by cbv
  have referenced : Lowering.directlyReferenced between = [⟨"S", 0, 0⟩, ⟨"S", 0, 1⟩] := by cbv
  have types : typesOf (Scope.ofWorkbook between false).inputs =
      .ofList [(⟨"S", 0, 0⟩, .integer), (⟨"S", 0, 1⟩, .integer)] := by
    rw [Lowering.typesOf_inputs, referenced]
    rfl
  obtain ⟨s, low, high, sum, made, code, parens⟩ : ∃ s low high sum,
      (Scope.ofWorkbook between false).formulas
        (.ofList [(⟨"S", 0, 0⟩, .integer), (⟨"S", 0, 1⟩, .integer)]) [⟨"S", 0, 2⟩] = .ok [s] ∧
      s.expr = .support "And" [.binary .lt (.ident low) (.ident high),
        .binary .gt (.ident high) sum] ∧ sum.operandInParens :=
    ⟨_, _, _, _, rfl, rfl, rfl⟩
  rw [← types] at made
  have lowered := statements_eq_ok.mpr ⟨[s], made, rfl⟩
  obtain ⟨c, compiled, order⟩ := exists_compile_default ordered lowered
  obtain ⟨layout, program, declared, lowered', named, written, read⟩ :=
    compile_hasTypeArguments_iff compiled
  rw [order] at lowered'
  obtain rfl := Except.ok.inj (lowered'.symm.trans lowered)
  rw [declarations, mapM_eq_ok] at named
  obtain ⟨d, member, declared⟩ :=
    exists_right_of_forall₂ named (List.mem_append_right _ (List.mem_singleton_self s))
  obtain ⟨ts, spelled, iff⟩ := read d member
  refine ⟨c, compiled, layout, _, written, d, member, ts, spelled, iff.mpr ?_⟩
  rw [(declare_eq_ok declared).1, code]
  exact ⟨"And", by decide, [], _, [], _, [], Code.Expr.mem_nodes _, rfl, parens⟩

end SheetCompiler
