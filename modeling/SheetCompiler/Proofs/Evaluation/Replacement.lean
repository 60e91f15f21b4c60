import SheetCompiler.Proofs.Evaluation.Path
import SheetCompiler.Proofs.Workbook

/-!
# Replacing a formula by its value

What a cell reads from another one is its value and nothing else: two workbooks that differ in one
cell only, and have the same value there, give every other cell the same outcome. The values are the
same by the depth of references. The failures are the same because a cell without a value is never
the one that differs, and below a path of such cells both workbooks are evaluated by the same steps.

The value of a formula is not always what it shows. A formula with a blank value shows zero, and its
readers still read the blank; such a formula cannot be replaced by the zero it shows.
-/

namespace SheetCompiler.Evaluation

open Formula (Expr)

/-- The workbooks differ at most in one cell, and there they have the same value. -/
structure Interchangeable (w w' : Workbook) (a : Address) : Prop where
  elsewhere : ∀ b, b ≠ a → w.cell? b = w'.cell? b
  value : ∃ v, HasValue w a v ∧ HasValue w' a v

namespace Interchangeable

variable {w w' : Workbook} {a b : Address} {v : Value}

theorem symm (h : Interchangeable w w' a) : Interchangeable w' w a := by
  obtain ⟨v, first, second⟩ := h.value
  exact ⟨fun b other => (h.elsewhere b other).symm, v, second, first⟩

/-- A value is found in the other workbook too, deeper by what the differing cell needs there. -/
theorem hasValue (h : Interchangeable w w' a) (value : HasValue w b v) : HasValue w' b v := by
  obtain ⟨u, first, extra, second⟩ := h.value
  obtain ⟨depth, found⟩ := value
  refine ⟨depth + extra, ?_⟩
  induction depth generalizing b v with
  | zero => cases found
  | succ depth ih =>
      by_cases same : b = a
      · subst same
        rw [HasValue.unique ⟨depth + 1, found⟩ first]
        exact valueWithin_mono second (Nat.le_add_left extra (depth + 1))
      · rw [Nat.succ_add]
        rw [valueWithin] at found ⊢
        rw [← h.elsewhere b same]
        cases cell : w.cell? b with
        | none => simpa [cell] using found
        | some c =>
            cases content : c.content with
            | value literal => simpa [cell, content] using found
            | formula text expr =>
                simp only [cell, content] at found ⊢
                exact keepsOk.rel_eval expr (fun r _ u known => ih known) v found

theorem hasValue_iff (h : Interchangeable w w' a) : HasValue w b v ↔ HasValue w' b v :=
  ⟨h.hasValue, h.symm.hasValue⟩

/-- Below a path of cells without a value, both workbooks give every cell the same outcome. -/
theorem valueOf_eq (h : Interchangeable w w' a) {path : List Address}
    (valueless : ∀ p ∈ path, ∀ u, ¬ HasValue w p u) (b : Address) :
    valueOf Memory.none w path b = valueOf Memory.none w' path b := by
  generalize size : (unvisited w path).length = n
  induction n using Nat.strongRecOn generalizing path b with
  | ind n ih =>
      by_cases known : ∃ v, HasValue w b v
      · obtain ⟨v, value⟩ := known
        rw [valueOf_none_eq_ok value valueless, valueOf_none_eq_ok (h.hasValue value)]
        intro p member u found
        exact valueless p member u (h.hasValue_iff.mpr found)
      · have own : ∀ v, ¬ HasValue w b v := fun v value => known ⟨v, value⟩
        have other : b ≠ a := by
          rintro rfl
          obtain ⟨v, value, -⟩ := h.value
          exact own v value
        obtain ⟨c, text, expr, found, content⟩ := exists_formula_of_valueless own
        have found' : w'.cell? b = some c := h.elsewhere b other ▸ found
        rw [valueOf_none_eq, valueOf_none_eq]
        simp only [found, found', content]
        split
        case isTrue => rfl
        case isFalse off =>
          have fewer := length_unvisited_cons_lt (mem_formulas_of_cell? found content)
            (Bool.eq_false_iff.mpr off)
          refine same.rel_eval expr fun r _ => ih _ (size ▸ fewer) ?_ r rfl
          intro p member
          cases List.mem_cons.mp member with
          | inl here => exact here ▸ own
          | inr earlier => exact valueless p earlier

theorem evaluateCell_eq (h : Interchangeable w w' a) (other : b ≠ a) :
    evaluateCell w b = evaluateCell w' b := by
  have top : ∀ p ∈ ([] : List Address), ∀ u, ¬ HasValue w p u := by simp
  have formula : w.formula? b = w'.formula? b := by
    rw [Workbook.formula?, Workbook.formula?, h.elsewhere b other]
  have shows : shown w b = shown w' b := by
    funext v
    cases v <;> simp only [shown, formula]
  rw [Evaluation.evaluateCell_eq, Evaluation.evaluateCell_eq, evaluateWith, evaluateWith,
    h.valueOf_eq top b, shows]

end Interchangeable

section Literals

open Workbook (cell?_insert)

variable {w : Workbook} {a : Address} {v : Value} {l : Literal} {c : Cell}

theorem hasValue_insert_literal (literal : c.literal? = some l) :
    HasValue (w.insert a c) a (.ofLiteral l) := by
  refine ⟨1, valueWithin_literal ?_ 0⟩
  rw [Workbook.literal?, cell?_insert, if_pos rfl]
  exact literal

/-- What a cell shows is its value, unless that is blank. -/
theorem hasValue_of_evaluateCell (h : evaluateCell w a = .ok v)
    (filled : valueOf Memory.none w [] a ≠ .ok .blank) : HasValue w a v := by
  obtain ⟨u, found, shows⟩ := exists_valueOf_of_evaluateCell h
  have same : shown w a u = u := by
    cases u with
    | blank => exact absurd found filled
    | number | text | boolean | error => rfl
  rw [shows, same]
  exact hasValue_of_valueOf_none found

/-- A formula whose own value is not blank may be replaced by the literal it shows: no other cell
shows anything else for it. -/
theorem evaluateCell_insert_literal {b : Address} (result : evaluateCell w a = .ok (.ofLiteral l))
    (filled : valueOf Memory.none w [] a ≠ .ok .blank) (literal : c.literal? = some l)
    (other : b ≠ a) : evaluateCell (w.insert a c) b = evaluateCell w b := by
  have value : HasValue w a (.ofLiteral l) := hasValue_of_evaluateCell result filled
  have interchangeable : Interchangeable w (w.insert a c) a := by
    refine ⟨?_, .ofLiteral l, value, hasValue_insert_literal literal⟩
    intro b different
    rw [cell?_insert, if_neg different]
  exact (interchangeable.evaluateCell_eq other).symm

/-- `A1` joins two texts, `B1` compares `A1` with one of them, and `C1` joins both. -/
def joinedTexts : Workbook where
  name := "Joined"
  sheets := ["S"]
  cells := .ofList [
    (⟨"S", 0, 0⟩, ⟨.formula "\"a\"&\"b\""
      (.binary .concat (.literal (.text "a")) (.literal (.text "b"))), none, none⟩),
    (⟨"S", 0, 1⟩, ⟨.formula "A1=\"a\"" (.binary .eq (.cell ⟨"S", 0, 0⟩) (.literal (.text "a"))),
      none, none⟩),
    (⟨"S", 0, 2⟩, ⟨.formula "A1&B1" (.binary .concat (.cell ⟨"S", 0, 0⟩) (.cell ⟨"S", 0, 1⟩)),
      none, none⟩)]

theorem joinedTexts_insert_literal :
    evaluateCell joinedTexts ⟨"S", 0, 0⟩ = .ok (.text "ab") ∧
      evaluateCell (joinedTexts.insert ⟨"S", 0, 0⟩ ⟨.value (.text "ab"), none, none⟩) ⟨"S", 0, 2⟩ =
        evaluateCell joinedTexts ⟨"S", 0, 2⟩ := by
  have result : evaluateCell joinedTexts ⟨"S", 0, 0⟩ = .ok (.text "ab") :=
    evaluateCell_eq_ok (v := .text "ab") ⟨2, rfl⟩
  have filled : valueOf Memory.none joinedTexts [] ⟨"S", 0, 0⟩ ≠ .ok .blank := by
    have found : valueOf Memory.none joinedTexts [] ⟨"S", 0, 0⟩ = .ok (.text "ab") := by
      with_unfolding_all rfl
    intro blank
    rw [found] at blank
    cases blank
  exact ⟨result, evaluateCell_insert_literal (l := .text "ab") result filled rfl (by decide)⟩

/-- `A1` refers to a cell that does not exist, and `B1` compares it with the empty text. -/
def blankLink : Workbook where
  name := "Blank"
  sheets := ["S"]
  cells := .ofList [
    (⟨"S", 0, 0⟩, ⟨.formula "C1" (.cell ⟨"S", 0, 2⟩), none, none⟩),
    (⟨"S", 0, 1⟩, ⟨.formula "A1=\"\"" (.binary .eq (.cell ⟨"S", 0, 0⟩) (.literal (.text ""))),
      none, none⟩)]

/-- `A1` shows zero. A zero in its place is not equal to the empty text. -/
theorem blankLink_insert_zero :
    blankLink.Acyclic ∧ blankLink.formula? ⟨"S", 0, 0⟩ = some (.cell ⟨"S", 0, 2⟩) ∧
      evaluateCell blankLink ⟨"S", 0, 0⟩ = .ok (.ofLiteral (.number 0.0)) ∧
      evaluateCell blankLink ⟨"S", 0, 1⟩ = .ok (.boolean true) ∧
      evaluateCell (blankLink.insert ⟨"S", 0, 0⟩ ⟨.value (.number 0.0), none, none⟩) ⟨"S", 0, 1⟩ =
        .ok (.boolean false) := by
  have order : (Dependency.Graph.ofWorkbook blankLink).order = .ok [⟨"S", 0, 0⟩, ⟨"S", 0, 1⟩] := by
    decide +kernel
  have acyclic := (Dependency.Graph.evaluationOrder_of_order_eq_ok order).acyclic
  exact ⟨acyclic, rfl, evaluateCell_eq_ok (v := .blank) ⟨2, rfl⟩,
    evaluateCell_eq_ok (v := .boolean true) ⟨3, rfl⟩,
    evaluateCell_eq_ok (v := .boolean false) ⟨3, rfl⟩⟩

end Literals

end SheetCompiler.Evaluation
