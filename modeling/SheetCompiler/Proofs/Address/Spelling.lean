import Mathlib.Data.List.Basic
import SheetCompiler.Address.Basic
import SheetCompiler.Proofs.Text.Characters

/-!
# Spelled addresses

The letters of a column have the value of the column, so no two columns share their letters. A local
address is letters followed by digits and falls apart into them in one way only: two cells of a
sheet never share their local address.
-/

namespace SheetCompiler.Address

/-- The bijective base 26 value of letters, `A` being one. -/
def lettersValue (cs : List Char) : Nat :=
  cs.foldl (fun n c => 26 * n + letterValue c) 0

theorem letterValue_letter : ∀ n < 26, letterValue (letter n) = n + 1 := by decide

theorem isAlpha_letter : ∀ n < 26, (letter n).isAlpha := by decide

/-- The letters of a column are letters. -/
theorem isAlpha_of_mem_columnChars {col : Nat} {c : Char} (h : c ∈ columnChars col) :
    c.isAlpha := by
  fun_induction columnChars col with
  | case1 col small =>
      rw [List.mem_singleton.mp h]
      exact isAlpha_letter col small
  | case2 col large ih =>
      rcases List.mem_append.mp h with before | last
      · exact ih before
      · rw [List.mem_singleton.mp last]
        exact isAlpha_letter _ (Nat.mod_lt _ (by decide))

theorem columnChars_ne_nil (col : Nat) : columnChars col ≠ [] := by
  rw [columnChars]
  split <;> simp

theorem lettersValue_concat (cs : List Char) (c : Char) :
    lettersValue (cs ++ [c]) = 26 * lettersValue cs + letterValue c := by
  rw [lettersValue, List.foldl_append]
  rfl

/-- The value of a column's letters, counted from one. -/
theorem lettersValue_columnChars (col : Nat) : lettersValue (columnChars col) = col + 1 := by
  fun_induction columnChars col with
  | case1 col small =>
      rw [← List.nil_append [letter col], lettersValue_concat, letterValue_letter col small]
      simp [lettersValue]
  | case2 col large ih =>
      rw [lettersValue_concat, ih, letterValue_letter _ (Nat.mod_lt _ (by decide))]
      omega

theorem columnChars_injective : Function.Injective columnChars := by
  intro a b same
  have values := congrArg lettersValue same
  rw [lettersValue_columnChars, lettersValue_columnChars] at values
  exact Nat.succ.inj values

/-- The characters of a local address: the letters of its column, then the digits of its row. -/
theorem toList_localText (a : Address) :
    a.localText.toList = columnChars a.col ++ Nat.toDigits 10 (a.row + 1) := by
  simp [localText, columnLetters]

/-- The column's letters are the leading letters of a local address. -/
theorem takeWhile_localText (a : Address) :
    a.localText.toList.takeWhile Char.isAlpha = columnChars a.col := by
  rw [toList_localText, List.takeWhile_append_of_pos fun c => isAlpha_of_mem_columnChars]
  have none : (Nat.toDigits 10 (a.row + 1)).takeWhile Char.isAlpha = [] := by
    cases digits : Nat.toDigits 10 (a.row + 1) with
    | nil => rfl
    | cons first rest =>
        have member : first ∈ Nat.toDigits 10 (a.row + 1) := digits ▸ List.mem_cons_self
        have digit := Nat.isDigit_of_mem_toDigits (by decide) (by decide) member
        exact List.takeWhile_cons_of_neg (by simp [Text.not_isAlpha_of_isDigit digit])
  rw [none, List.append_nil]

/-- Cells of one sheet with the same local address are the same cell. -/
theorem eq_of_localText {a b : Address} (sheet : a.sheet = b.sheet)
    (same : a.localText = b.localText) : a = b := by
  have letters : columnChars a.col = columnChars b.col := by
    rw [← takeWhile_localText, ← takeWhile_localText, same]
  have digits : Nat.toDigits 10 (a.row + 1) = Nat.toDigits 10 (b.row + 1) := by
    have chars := congrArg String.toList same
    rw [toList_localText, toList_localText, letters] at chars
    exact List.append_cancel_left chars
  have row : a.row + 1 = b.row + 1 := by
    rw [← Nat.ofDigitChars_ten_toDigits (n := a.row + 1), digits, Nat.ofDigitChars_ten_toDigits]
  have col := columnChars_injective letters
  cases a
  cases b
  simp_all

/-- A local address holds letters and digits only. -/
theorem underscore_notMem_localText (a : Address) : '_' ∉ a.localText.toList := by
  rw [toList_localText, List.mem_append]
  rintro (letter | digit)
  · exact absurd (isAlpha_of_mem_columnChars letter) (by decide)
  · exact Nat.underscore_not_in_toDigits digit

end SheetCompiler.Address
