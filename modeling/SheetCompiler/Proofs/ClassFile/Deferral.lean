import SheetCompiler.ClassFile.Declaration
import SheetCompiler.Proofs.Lowering.Checked
import SheetCompiler.Proofs.Lowering.Declarations
import SheetCompiler.Proofs.Lowering.Quiet

/-!
# Formulas that are not held back

A formula that can raise an error is held back until it is read, and so is a formula that reads one.
The others are computed at once, and nothing catches what they raise. Along a program, the value of
a formula that is computed at once is no error, unless an error has slipped somewhere on the way to
it: in its own formula, or in that of a cell it depends on.
-/

namespace SheetCompiler.ClassFile

open Dependency (EvaluationOrder Graph)
open Evaluation (Memory StraysAt eval evaluateCell evaluateWith eval_of_eval_below
  failsOnly_valueOf_of_statements shown valueOf valueOf_none_eq valueOf_none_eq_ok
  valueWithin_literal)
open Lowering
open Relation (ReflTransGen)

variable {program before after : List Statement} {s : Statement} {name : String}

section Names

theorem deferredNames_concat (before : List Statement) (s : Statement) :
    deferredNames (before ++ [s]) =
      if s.kind = .formula && s.expr.mayRaise (deferredNames before) then
        s.raw :: deferredNames before
      else deferredNames before := by
  rw [deferredNames, List.foldl_append]
  rfl

/-- What is held back stays held back. -/
theorem mem_deferredNames_append (h : name ∈ deferredNames before) (after : List Statement) :
    name ∈ deferredNames (before ++ after) := by
  induction after using List.reverseRecOn with
  | nil => rwa [List.append_nil]
  | append_singleton after s ih =>
      rw [← List.append_assoc, deferredNames_concat]
      split
      case isTrue => exact List.mem_cons_of_mem _ ih
      case isFalse => exact ih

/-- A formula that is not held back has quiet code. -/
theorem quiet_of_notMem_deferredNames (split : program = before ++ s :: after)
    (kind : s.kind = .formula) (direct : s.raw ∉ deferredNames program) :
    s.expr.mayRaise (deferredNames before) = false := by
  by_contra raises
  apply direct
  rw [split, List.append_cons]
  refine mem_deferredNames_append ?_ after
  rw [deferredNames_concat, if_pos (by simpa [kind] using raises)]
  exact List.mem_cons_self

end Names

variable {w : Workbook} {order : List Address}

/-- The cell holds a formula with quiet code in which an error slips. -/
def SlipsAt (w : Workbook) (program : List Statement) (cell : Address) : Prop :=
  ∃ before s after e name args, program = before ++ s :: after ∧ s.cell = cell ∧
    s.expr.mayRaise (deferredNames before) = false ∧ w.formula? cell = some e ∧
    (name, args) ∈ e.calls ∧
    Slips (Scope.ofWorkbook w false) (typesOf before) cell (valueOf Memory.none w []) name args

/-- An error slips in the formula of the cell, or in a formula that it depends on. -/
def SlipsBelow (w : Workbook) (program : List Statement) (cell : Address) : Prop :=
  ∃ c, ReflTransGen w.Reads cell c ∧ SlipsAt w program c

section References

variable {a cell : Address} {t : Typed} {v : Value} {e : Formula.Expr} {types : Types}

/-- A reference is to the identifier of the cell, with the type of what the cell holds. -/
theorem reference_spec (h : (Scope.ofWorkbook w false).reference types cell a = .ok t) :
    t.expr = .ident (rawName (sheetPrefixes w) a) ∧
      (∀ l, w.literal? a = some l → t.type = .ofLiteral l) ∧
      ((w.formula? a).isSome → types.get? a = some t.type) := by
  rw [Scope.reference] at h
  split at h
  case h_1 l literal =>
    cases h
    refine ⟨rfl, fun l' found => ?_, fun formula => ?_⟩
    · obtain rfl := Option.some.inj (literal.symm.trans found)
      rfl
    · obtain ⟨e, found⟩ := Option.isSome_iff_exists.mp formula
      cases literal.symm.trans (Workbook.literal?_eq_none_of_formula found)
  case h_2 none =>
    have noLiteral : ∀ l, w.literal? a ≠ some l := by
      intro l found
      cases none.symm.trans found
    split at h
    case h_1 type known =>
      cases h
      exact ⟨rfl, fun l found => absurd found (noLiteral l), fun _ => known⟩
    case h_2 =>
      split at h
      case isTrue => cases h
      case isFalse missing =>
        cases h
        refine ⟨rfl, fun l found => absurd found (noLiteral l), fun formula => ?_⟩
        obtain ⟨e, found⟩ := Option.isSome_iff_exists.mp formula
        exact absurd (Workbook.isSome_cell?_of_formula found) missing

theorem eval_of_valueOf (found : w.formula? a = some e) (h : valueOf Memory.none w [] a = .ok v) :
    eval (valueOf Memory.none w []) a e = .ok v := by
  obtain ⟨c, present, expr⟩ := Option.bind_eq_some_iff.mp found
  cases content : c.content with
  | value l => simp [Cell.expr?, content] at expr
  | formula text e' =>
      obtain rfl : e' = e := by simpa [Cell.expr?, content] using expr
      rw [valueOf_none_eq, present] at h
      simp only [content, List.contains_nil, Bool.false_eq_true, if_false] at h
      exact eval_of_eval_below h

/-- A reference in quiet code stands for the value of its cell, if formulas before it that are not
held back do. -/
theorem fits_reference (named : ∀ d ∈ before, d.raw = rawName (sheetPrefixes w) d.cell)
    (earlier : ∀ d ∈ before, d.cell = a → (w.formula? a).isSome → d.raw ∉ deferredNames before →
      Conforms d.type v)
    (h : (Scope.ofWorkbook w false).reference (typesOf before) cell a = .ok t)
    (quiet : t.expr.mayRaise (deferredNames before) = false)
    (value : valueOf Memory.none w [] a = .ok v) : Fits t v := by
  obtain ⟨expr, type⟩ := t
  obtain ⟨rfl, literal, formula⟩ := reference_spec h
  refine fits_of_isComputed ?_ rfl
  obtain absent | ⟨l, found⟩ | ⟨e, found⟩ := w.cell_cases a
  · rw [valueOf_none_eq, absent] at value
    cases value
    trivial
  · have known : valueOf Memory.none w [] a = .ok (.ofLiteral l) :=
      valueOf_none_eq_ok ⟨1, valueWithin_literal found 0⟩ (by simp)
    obtain rfl := Except.ok.inj (known.symm.trans value)
    rw [show type = .ofLiteral l from literal l found]
    exact conforms_literal l
  · have isFormula := Option.isSome_iff_exists.mpr ⟨e, found⟩
    obtain ⟨d, member, entry⟩ := List.mem_map.mp (OrderedMap.mem_of_get?_ofList (formula isFormula))
    obtain ⟨same, rfl⟩ := Prod.mk.inj entry
    refine earlier d member same isFormula ?_
    rw [named d member, same]
    simpa [Code.Expr.mayRaise] using quiet

end References

section Programs

theorem kind_of_formula? (lowered : statements w false order = .ok program) (member : s ∈ program)
    (formula : (w.formula? s.cell).isSome) : s.kind = .formula := by
  obtain ⟨before, after, split⟩ := List.append_of_mem member
  rcases statement_cases lowered split with input | ⟨kind, -⟩
  · obtain ⟨a, label, rfl, absent, -⟩ := mem_inputs input
    rw [show w.formula? ((Scope.ofWorkbook w false).input a label _).cell = none from absent]
      at formula
    cases formula
  · exact kind

/-- Along a program: a formula with quiet code has a value of its type, unless an error slips. -/
theorem conforms_of_quiet (ordered : EvaluationOrder w order)
    (lowered : statements w false order = .ok program) (split : program = before ++ s :: after)
    (kind : s.kind = .formula) (quiet : s.expr.mayRaise (deferredNames before) = false) {v : Value}
    (value : valueOf Memory.none w [] s.cell = .ok v) (tight : ¬ SlipsBelow w program s.cell) :
    Conforms s.type v := by
  -- What the formula reads stands before it, in a shorter part of the program.
  generalize size : before.length = n
  induction n using Nat.strongRecOn generalizing before s after v with
  | ind n ih =>
      rcases ahead_or_mem_inputs ordered lowered split with input | ⟨ahead, e, found, code⟩
      · obtain ⟨a, label, rfl, -, -⟩ := mem_inputs input
        cases kind
      have calm : Calm (Scope.ofWorkbook w false) (typesOf before) s.cell (valueOf Memory.none w [])
          (deferredNames before) e.references e.calls := by
        constructor
        case missing =>
          intro a absent
          rw [valueOf_none_eq, show w.cell? a = none from absent]
        case reads =>
          intro a reference t u typed quiet value
          refine fits_reference ahead.named (fun d member same formula direct => ?_)
            typed quiet value
          subst same
          obtain ⟨earlier, between, cut⟩ := List.append_of_mem member
          have inside : d ∈ program := split ▸ List.mem_append_left _ member
          have kind := kind_of_formula? lowered inside formula
          have split' : program = earlier ++ d :: (between ++ s :: after) := by
            rw [split, cut, List.append_assoc, List.cons_append]
          have shorter : earlier.length < n := by
            rw [← size, cut, List.length_append, List.length_cons]
            omega
          refine ih _ shorter split' kind (quiet_of_notMem_deferredNames cut kind direct)
            value ?_ rfl
          rintro ⟨c, below, slips⟩
          exact tight ⟨c, .head ⟨e, found, reference, formula⟩ below, slips⟩
        case tight =>
          intro name args call slips
          exact tight
            ⟨s.cell, .refl, before, s, after, e, name, args, split, rfl, quiet, found, call,
            slips⟩
      exact (Calm.settled e calm _ v code quiet (eval_of_valueOf found value)).conforms

end Programs

/-- Only an error shows as an error. -/
theorem shown_eq_error_iff {cell : Address} {v : Value} {e : ErrorValue} :
    shown w cell v = .error e ↔ v = .error e := by
  cases v with
  | blank =>
      rw [shown]
      split <;> simp
  | number | text | boolean | error => exact Iff.rfl

/-- A formula that is not held back shows a value that is no error. Otherwise an error has slipped,
in its formula or in one that it depends on, or it is not evaluated at all, since an index that is
no number strays. -/
theorem evaluateCell_of_notMem_deferredNames (ordered : (Graph.ofWorkbook w).order = .ok order)
    (lowered : statements w false order = .ok program) (member : s ∈ program)
    (kind : s.kind = .formula) (direct : s.raw ∉ deferredNames program) :
    (∃ v, evaluateCell w s.cell = .ok v ∧ ∀ e, v ≠ .error e) ∨
      (∃ e, evaluateCell w s.cell = .ok (.error e) ∧ SlipsBelow w program s.cell) ∨
      ∃ c, evaluateCell w s.cell = .error (.strayIndex c) ∧ StraysAt w c := by
  have placed := Graph.evaluationOrder_of_order_eq_ok ordered
  obtain ⟨before, after, split⟩ := List.append_of_mem member
  have quiet := quiet_of_notMem_deferredNames split kind direct
  rw [Evaluation.evaluateCell_eq, evaluateWith]
  cases value : valueOf Memory.none w [] s.cell with
  | error e =>
      obtain ⟨c, rfl, strays⟩ := failsOnly_valueOf_of_statements placed lowered s.cell e value
      exact .inr (.inr ⟨c, rfl, strays⟩)
  | ok v =>
      by_cases failed : ∃ e, shown w s.cell v = .error e
      · obtain ⟨e, failed⟩ := failed
        refine .inr (.inl ⟨e, congrArg Except.ok failed, ?_⟩)
        by_contra tight
        have conforms := conforms_of_quiet placed lowered split kind quiet value tight
        exact conforms.ne_error e (shown_eq_error_iff.mp failed)
      · exact .inl ⟨_, rfl, fun e same => failed ⟨e, same⟩⟩

/-- A text that is taken for a number in `B1` and joined to another text, and a sum in `C1` that
passes over texts. -/
def shares : Workbook where
  name := "Shares"
  sheets := ["S"]
  cells := .ofList [(⟨"S", 0, 0⟩, ⟨.value (.text "n/a"), none, none⟩),
    (⟨"S", 0, 1⟩, ⟨.formula "-A1&\"%\"" (.binary .concat
      (.unary .neg (.cell ⟨"S", 0, 0⟩)) (.literal (.text "%"))), none, none⟩),
    (⟨"S", 0, 2⟩,
      ⟨.formula "SUM(A1:B1)" (.call "SUM" [.range ⟨"S", 0, 0⟩ ⟨"S", 0, 1⟩]), none, none⟩)]

/-- The text is held back, but the sum is not, and the error slips. -/
theorem shares_slip : ∃ program s,
    (Graph.ofWorkbook shares).order = .ok [⟨"S", 0, 1⟩, ⟨"S", 0, 2⟩] ∧
      statements shares false [⟨"S", 0, 1⟩, ⟨"S", 0, 2⟩] = .ok program ∧ s ∈ program ∧
      s.cell = ⟨"S", 0, 2⟩ ∧ s.kind = .formula ∧ s.raw ∉ deferredNames program ∧
      evaluateCell shares s.cell = .ok (.error .value) ∧ SlipsBelow shares program s.cell := by
  have ordered : (Graph.ofWorkbook shares).order = .ok [⟨"S", 0, 1⟩, ⟨"S", 0, 2⟩] := by cbv
  have held : (statements shares false [⟨"S", 0, 1⟩, ⟨"S", 0, 2⟩]).map deferredNames =
      .ok ["S_B1"] := by decide +kernel
  obtain ⟨program, lowered, held⟩ := map_eq_ok.mp held
  obtain ⟨s, member, cell, kind⟩ := exists_formula_statement
    (Graph.evaluationOrder_of_order_eq_ok ordered) lowered (a := ⟨"S", 0, 2⟩) rfl
  have direct : s.raw ∉ deferredNames program := by
    rw [held, (raw_of_mem lowered member).1, cell]
    decide +kernel
  have value : evaluateCell shares s.cell = .ok (.error .value) := by
    rw [cell]
    with_unfolding_all rfl
  refine ⟨program, s, ordered, lowered, member, cell, kind, direct, value, ?_⟩
  obtain ⟨v, shown, noError⟩ | ⟨e, -, slips⟩ | ⟨c, failed, -⟩ :=
    evaluateCell_of_notMem_deferredNames ordered lowered member kind direct
  · exact absurd (Except.ok.inj (shown.symm.trans value)) (noError .value)
  · exact slips
  · cases failed.symm.trans value

end SheetCompiler.ClassFile
