import SheetCompiler.Proofs.Evaluation.Selection

/-!
# Indexing a range

`INDEX` takes a row and a column of a range, and finds the value in the list of the range's values.
The cell it reads is told here from the corners of the range alone.
-/

namespace SheetCompiler

/-- The cell between two corners that a row and a column mean, both counted from one. Column zero
counts along a single column, or along a single row. -/
def Address.indexed? (first last : Address) (row col : Int) : Option Address :=
  let height : Int := last.row - first.row + 1
  let width : Int := last.col - first.col + 1
  if 1 ≤ row ∧ row ≤ height ∧ 1 ≤ col ∧ col ≤ width then
    some ⟨first.sheet, first.row + (row - 1).toNat, first.col + (col - 1).toNat⟩
  else if col = 0 ∧ width = 1 ∧ 1 ≤ row ∧ row ≤ height then
    some ⟨first.sheet, first.row + (row - 1).toNat, first.col⟩
  else if col = 0 ∧ height = 1 ∧ 1 ≤ row ∧ row ≤ width then
    some ⟨first.sheet, first.row, first.col + (row - 1).toNat⟩
  else
    none

theorem within_of_indexed? {first last a : Address} {row col : Int} (rows : first.row ≤ last.row)
    (cols : first.col ≤ last.col) (h : Address.indexed? first last row col = some a) :
    a.Within first last := by
  rw [Address.indexed?] at h
  split_ifs at h with inside column single
  all_goals
    cases h
    refine ⟨rfl, ⟨?_, ?_⟩, ?_, ?_⟩
  all_goals
    dsimp only
    omega

namespace Evaluation

open Formula (Expr)

/-- The value of the cell that a row and a column mean, and `#REF!` where they mean none. -/
def indexed (first last : Address) (held : Address → Value) (row col : Int) : Value :=
  match Address.indexed? first last row col with
  | some a => held a
  | none => .error .reference

section Tables

variable {t : Table} {row col : Float}

theorem natCast_height (t : Table) : (t.height : Int) = t.last.row - t.first.row + 1 := by
  have rows := t.rows_le
  rw [Table.height]
  omega

theorem natCast_width (t : Table) : (t.width : Int) = t.last.col - t.first.col + 1 := by
  have cols := t.cols_le
  rw [Table.width]
  omega

/-- The cell at a place of the table. -/
def cellAt (t : Table) (p : Place) : Address :=
  ⟨t.first.sheet, t.first.row + (p.row - 1).toNat, t.first.col + (p.col - 1).toNat⟩

/-- A row and a column mean the cell at their place, if the table has it. -/
theorem indexed?_eq (t : Table) (row col : Float) [Decidable (t.Has (t.place row col))] :
    Address.indexed? t.first t.last (Decimal.toInteger row) (Decimal.toInteger col) =
      if t.Has (t.place row col) then some (cellAt t (t.place row col)) else none := by
  rw [Address.indexed?, ← natCast_height, ← natCast_width]
  by_cases column : Decimal.toInteger col = 0
  · by_cases narrow : t.width = 1
    · have place : t.place row col = ⟨Decimal.toInteger row, 1⟩ := by
        simp [Table.place, column, narrow]
      by_cases inside : 1 ≤ Decimal.toInteger row ∧ Decimal.toInteger row ≤ t.height
      · simp [place, Table.has_iff, column, narrow, inside, cellAt]
      · -- A single cell is a column and a row, and both ways of counting stop at it.
        have beyond : ¬ (t.height = 1 ∧ 1 ≤ Decimal.toInteger row ∧ Decimal.toInteger row ≤ 1) := by
          omega
        simp [place, Table.has_iff, column, narrow, inside, beyond]
    · by_cases flat : t.height = 1
      · have place : t.place row col = ⟨1, Decimal.toInteger row⟩ := by
          simp [Table.place, column, narrow, flat]
        simp [place, Table.has_iff, column, narrow, flat, cellAt]
      · have place : t.place row col = ⟨Decimal.toInteger row, 0⟩ := by
          simp [Table.place, column, narrow, flat]
        simp [place, Table.has_iff, column, narrow, flat]
  · have place : t.place row col = ⟨Decimal.toInteger row, Decimal.toInteger col⟩ := by
      simp [Table.place, column]
    simp [place, Table.has_iff, column, cellAt, and_assoc]

end Tables

section Formulas

variable {w : Workbook} {cell first last : Address} {row col : Expr} {r c : Float}
  {held : Address → Value}

/-- `INDEX` comes to the value of the cell that its row and column mean. -/
theorem eval_index {read : Address → Except CompileError Value} (rows : first.row ≤ last.row)
    (cols : first.col ≤ last.col) (values : ∀ a, a.Within first last → read a = .ok (held a))
    (rowed : ComesTo read cell Value.toNumber row r)
    (coled : ComesTo read cell Value.toNumber col c) :
    eval read cell (.call "INDEX" [.range first last, row, col]) =
      .ok (indexed first last held (Decimal.toInteger r) (Decimal.toInteger c)) := by
  classical
  let t : Table := ⟨first, last, rows, cols, held⟩
  have named : Names read (.range first last) t := ⟨rfl, values⟩
  have outcome : Indexes t r c
      (eval read cell (.call "INDEX" (.range first last :: row :: (some col).toList))) :=
    indexes_eval named rowed coled
  rw [indexed, show Address.indexed? first last _ _ = _ from indexed?_eq t r c]
  by_cases has : t.Has (t.place r c)
  · rw [if_pos has]
    exact outcome.inside has
  · rw [if_neg has]
    exact outcome.outside has

/-- A formula shows a blank as zero, wherever the blank comes from. -/
theorem shown_shown {a : Address} (formula : (w.formula? cell).isSome) (v : Value) :
    shown w cell (shown w a v) = shown w cell v := by
  cases v with
  | blank =>
      by_cases other : (w.formula? a).isSome
      · simp [shown, formula, other]
      · simp [shown, other]
  | number | text | boolean | error => rfl

/-- `INDEX` reads the cell that its row and column mean, and is `#REF!` where they mean none. It
does so inside any formula, below any path; and a cell with such a formula shows what that cell
shows. -/
theorem index_reads (w : Workbook) (cell : Address) {first last : Address}
    (rows : first.row ≤ last.row) (cols : first.col ≤ last.col) (row col : Expr) (r c : Float)
    (held : Address → Value) :
    (∀ path, (∀ a, a.Within first last → valueOf Memory.none w path a = .ok (held a)) →
      ComesTo (valueOf Memory.none w path) cell Value.toNumber row r →
      ComesTo (valueOf Memory.none w path) cell Value.toNumber col c →
      eval (valueOf Memory.none w path) cell (.call "INDEX" [.range first last, row, col]) =
        .ok (indexed first last held (Decimal.toInteger r) (Decimal.toInteger c))) ∧
    (w.formula? cell = some (.call "INDEX" [.range first last, row, col]) →
      (∀ a, a.Within first last → evaluateCell w a = .ok (held a)) →
      ComesTo (valueOf Memory.none w []) cell Value.toNumber row r →
      ComesTo (valueOf Memory.none w []) cell Value.toNumber col c →
      evaluateCell w cell = .ok
        (shown w cell (indexed first last held (Decimal.toInteger r) (Decimal.toInteger c)))) := by
  refine ⟨fun path => eval_index rows cols, fun formula shows rowed coled => ?_⟩
  have values : ∀ a, ∃ u, a.Within first last →
      valueOf Memory.none w [] a = .ok u ∧ held a = shown w a u := by
    intro a
    by_cases within : a.Within first last
    · obtain ⟨u, value, same⟩ := exists_valueOf_of_evaluateCell (shows a within)
      exact ⟨u, fun _ => ⟨value, same⟩⟩
    · exact ⟨.blank, fun inside => absurd inside within⟩
  choose own known using values
  have value := eval_index rows cols (fun a within => (known a within).1) rowed coled
  rw [evaluateCell_eq_ok (hasValue_of_eval formula value), indexed, indexed]
  cases meant : Address.indexed? first last (Decimal.toInteger r) (Decimal.toInteger c) with
  | none => rfl
  | some a =>
      have same := (known a (within_of_indexed? rows cols meant)).2
      have shown_eq := shown_shown (a := a) (Option.isSome_iff_exists.mpr ⟨_, formula⟩) (own a)
      simp only [same, shown_eq]

end Formulas

/-- `INDEX` of a range by a row and a column that are written out. -/
def indexOf (first last : Address) (row col : Float) : Expr :=
  .call "INDEX" [.range first last, .literal (.number row), .literal (.number col)]

/-- The words of `words`, by their cells. -/
def word (a : Address) : Value :=
  match a.row, a.col with
  | 0, 0 => .text "one"
  | 0, _ => .text "un"
  | 1, 0 => .text "two"
  | 1, _ => .text "deux"
  | _, 0 => .text "three"
  | _, _ => .text "trois"

/-- Words in `A1:B3`, and in `C1` the one in a row and a column. -/
def words (row col : Float) : Workbook where
  name := "Words"
  sheets := ["S"]
  cells := .ofList [
    (⟨"S", 0, 0⟩, ⟨.value (.text "one"), none, none⟩),
    (⟨"S", 0, 1⟩, ⟨.value (.text "un"), none, none⟩),
    (⟨"S", 1, 0⟩, ⟨.value (.text "two"), none, none⟩),
    (⟨"S", 1, 1⟩, ⟨.value (.text "deux"), none, none⟩),
    (⟨"S", 2, 0⟩, ⟨.value (.text "three"), none, none⟩),
    (⟨"S", 2, 1⟩, ⟨.value (.text "trois"), none, none⟩),
    (⟨"S", 0, 2⟩, ⟨.formula "INDEX" (indexOf ⟨"S", 0, 0⟩ ⟨"S", 2, 1⟩ row col), none, none⟩)]

theorem words_word (row col : Float) (a : Address) (h : a.Within ⟨"S", 0, 0⟩ ⟨"S", 2, 1⟩) :
    valueOf Memory.none (words row col) [] a = .ok (word a) ∧
      evaluateCell (words row col) a = .ok (word a) := by
  have listed :
    a ∈ [⟨"S", 0, 0⟩, ⟨"S", 0, 1⟩, ⟨"S", 1, 0⟩, ⟨"S", 1, 1⟩, ⟨"S", 2, 0⟩, ⟨"S", 2, 1⟩] :=
    Address.mem_rectangle_iff.mpr h
  simp only [List.mem_cons, List.not_mem_nil, or_false] at listed
  rw [evaluateCell_eq, evaluateWith, valueOf_none_eq]
  rcases listed with rfl | rfl | rfl | rfl | rfl | rfl
  all_goals
    constructor
    · cbv
    · cbv

theorem formula?_words (row col : Float) : (words row col).formula? ⟨"S", 0, 2⟩ =
    some (indexOf ⟨"S", 0, 0⟩ ⟨"S", 2, 1⟩ row col) := by
  cbv

/-- The third word of the second column is found by numbers with a fraction; the second word of a
single column needs no column; and in two columns a row alone means no word. -/
theorem words_index : evaluateCell (words 3.5 2.9) ⟨"S", 0, 2⟩ = .ok (.text "trois") ∧
    eval (valueOf Memory.none (words 3.5 2.9) []) ⟨"S", 0, 3⟩
      (indexOf ⟨"S", 0, 0⟩ ⟨"S", 2, 0⟩ 2 0) = .ok (.text "two") ∧
    eval (valueOf Memory.none (words 3.5 2.9) []) ⟨"S", 0, 3⟩
      (indexOf ⟨"S", 0, 0⟩ ⟨"S", 2, 1⟩ 2 0) = .ok (.error .reference) := by
  have number (x : Float) (cell : Address) : ComesTo (valueOf Memory.none (words 3.5 2.9) []) cell
      Value.toNumber (.literal (.number x)) x := ⟨_, rfl, rfl⟩
  have third : Decimal.toInteger 3.5 = 3 := by decide +kernel
  have second : Decimal.toInteger 2.9 = 2 := by decide +kernel
  have row : Decimal.toInteger 2 = 2 := by decide +kernel
  have none : Decimal.toInteger 0 = 0 := by decide +kernel
  refine ⟨?_, ?_, ?_⟩
  · have shows :=
      (index_reads (words 3.5 2.9) ⟨"S", 0, 2⟩ (by decide) (by decide) _ _ 3.5 2.9 word).2
        (formula?_words 3.5 2.9) (fun a within => (words_word _ _ a within).2)
        (number _ _) (number _ _)
    rw [shows, third, second]
    rfl
  · have column : ∀ a : Address, a.Within ⟨"S", 0, 0⟩ ⟨"S", 2, 0⟩ →
        valueOf Memory.none (words 3.5 2.9) [] a = .ok (word a) := fun a within =>
      (words_word _ _ a ⟨within.sheet, within.row, within.col.1, within.col.2.trans (by decide)⟩).1
    have reads :=
      (index_reads (words 3.5 2.9) ⟨"S", 0, 3⟩ (by decide) (by decide) _ _ 2 0 word).1 []
        column (number _ _) (number _ _)
    rw [row, none] at reads
    exact reads
  · have reads :=
      (index_reads (words 3.5 2.9) ⟨"S", 0, 3⟩ (by decide) (by decide) _ _ 2 0 word).1 []
      (fun a within => (words_word _ _ a within).1) (number _ _) (number _ _)
    rw [row, none] at reads
    exact reads

end Evaluation

end SheetCompiler
