import Mathlib.Data.List.Induction
import Mathlib.Data.Nat.Digits.Defs
import SheetCompiler.Proofs.Address.Spelling

/-!
# Columns and their letters

Columns are read letter by letter, and every number on the way is checked to fit a word. Numbers
only grow on the way, so the checks come to one: that the value of all the letters fits. Main
statement: reading inverts spelling, up to the case of the letters, and refuses only what spells no
column or one that does not fit.
-/

namespace SheetCompiler.Address

section Values

theorem letterValue_le {c : Char} (h : c.isAlpha) : letterValue c ≤ 26 := by
  obtain ⟨-, last⟩ := Text.toNat_toUpper_of_isAlpha h
  change c.toUpper.toNat - 65 + 1 ≤ 26
  omega

/-- A letter is the one at its place in the alphabet, in upper case. -/
theorem letter_letterValue {c : Char} (h : c.isAlpha) : letter (letterValue c - 1) = c.toUpper := by
  obtain ⟨first, -⟩ := Text.toNat_toUpper_of_isAlpha h
  have place : 'A'.toNat + (letterValue c - 1) = c.toUpper.toNat := by
    change 65 + (c.toUpper.toNat - 65 + 1 - 1) = c.toUpper.toNat
    omega
  rw [letter, place, Char.ofNat_toNat]

theorem lettersValue_pos {letters : List Char} (h : letters ≠ []) : 0 < lettersValue letters := by
  rw [← List.dropLast_append_getLast h, lettersValue_concat]
  exact Nat.lt_of_lt_of_le (Nat.succ_pos _) (Nat.le_add_left _ _)

/-- The letters are digits, of which the last one counts for least. -/
theorem lettersValue_eq_ofDigits (cs : List Char) :
    lettersValue cs = Nat.ofDigits 26 (cs.reverse.map letterValue) := by
  induction cs using List.reverseRecOn with
  | nil => rfl
  | append_singleton cs c ih =>
      rw [lettersValue_concat, List.reverse_concat, List.map_cons, Nat.ofDigits_cons, ih,
        Nat.add_comm]

/-- The column that letters spell has these letters, in upper case. -/
theorem columnChars_lettersValue {cs : List Char} (some : cs ≠ []) (h : ∀ c ∈ cs, c.isAlpha) :
    columnChars (lettersValue cs - 1) = cs.map Char.toUpper := by
  induction cs using List.reverseRecOn with
  | nil => exact absurd rfl some
  | append_singleton front c ih =>
      have last : c.isAlpha := h c (by simp)
      have least : 1 ≤ letterValue c := Nat.succ_pos _
      have most := letterValue_le last
      rw [lettersValue_concat, List.map_append, List.map_singleton, ← letter_letterValue last,
        columnChars]
      by_cases single : front = []
      · rw [single]
        have value : 26 * lettersValue [] + letterValue c - 1 = letterValue c - 1 := by
          rw [show lettersValue [] = 0 from rfl, Nat.mul_zero, Nat.zero_add]
        rw [value, if_pos (by omega)]
        rfl
      · have positive := lettersValue_pos single
        have before := ih single fun d member => h d (List.mem_append_left _ member)
        rw [if_neg (by omega), ← before,
          show (26 * lettersValue front + letterValue c - 1) / 26 - 1 =
            lettersValue front - 1 by omega,
          show (26 * lettersValue front + letterValue c - 1) % 26 = letterValue c - 1 by omega]

end Values

section Words

variable {n m : Nat} {c : Char} {cs : List Char}

theorem word?_eq_some_iff : word? n = some m ↔ n < UInt32.size ∧ n = m := by
  rw [word?]
  split
  case isTrue fits => simp [fits]
  case isFalse large => simp [large]

/-- Of the two checks for a letter the second one decides. -/
theorem lettersWord?_cons (h : c.isAlpha) :
    lettersWord? n (c :: cs) = (word? (26 * n + letterValue c)).bind (lettersWord? · cs) := by
  rw [lettersWord?, if_pos h, Nat.mul_comm]
  by_cases fits : 26 * n < UInt32.size
  · rw [word?_eq_some_iff.mpr ⟨fits, rfl⟩]
    rfl
  · have shifted : word? (26 * n) = none := if_neg fits
    have added : word? (26 * n + letterValue c) = none := if_neg (by omega)
    rw [shifted, added]
    rfl

/-- Further letters do not make the value smaller. -/
theorem le_foldl_letterValue (n : Nat) (cs : List Char) :
    n ≤ cs.foldl (fun n c => 26 * n + letterValue c) n := by
  induction cs generalizing n with
  | nil => exact Nat.le_refl n
  | cons c rest ih =>
      have step : n ≤ 26 * n + letterValue c := by omega
      exact Nat.le_trans step (ih _)

/-- The checks on the way come to one for the value of all letters. -/
theorem lettersWord?_eq (h : ∀ c ∈ cs, c.isAlpha) (fits : n < UInt32.size) :
    lettersWord? n cs = word? (cs.foldl (fun n c => 26 * n + letterValue c) n) := by
  induction cs generalizing n with
  | nil => exact (word?_eq_some_iff.mpr ⟨fits, rfl⟩).symm
  | cons c rest ih =>
      rw [List.forall_mem_cons] at h
      rw [lettersWord?_cons h.1, List.foldl_cons]
      by_cases small : 26 * n + letterValue c < UInt32.size
      · rw [word?_eq_some_iff.mpr ⟨small, rfl⟩]
        exact ih h.2 small
      · have grown := le_foldl_letterValue (26 * n + letterValue c) rest
        have early : word? (26 * n + letterValue c) = none := if_neg small
        rw [early, word?, if_neg (by omega)]
        rfl

theorem isAlpha_of_lettersWord? (h : lettersWord? n cs = some m) : ∀ c ∈ cs, c.isAlpha := by
  induction cs generalizing n with
  | nil => simp
  | cons c rest ih =>
      by_cases first : c.isAlpha
      · rw [lettersWord?_cons first, Option.bind_eq_some_iff] at h
        obtain ⟨next, -, others⟩ := h
        exact List.forall_mem_cons.mpr ⟨first, ih others⟩
      · rw [lettersWord?, if_neg first] at h
        cases h

/-- Letters are read as a column exactly if they spell it and it fits a word. -/
theorem columnOfChars?_eq_some_iff {col : Nat} : columnOfChars? cs = some col ↔
    (∀ c ∈ cs, c.isAlpha) ∧ lettersValue cs = col + 1 ∧ col + 1 < UInt32.size := by
  by_cases none : cs = []
  · rw [none]
    refine iff_of_false nofun ?_
    rintro ⟨-, value, -⟩
    exact absurd value (Nat.succ_ne_zero col).symm
  · have positive := lettersValue_pos none
    rw [columnOfChars?, if_neg (by simpa using none), Option.map_eq_some_iff]
    constructor
    · rintro ⟨value, read, rfl⟩
      have letters := isAlpha_of_lettersWord? read
      rw [lettersWord?_eq letters (by decide), ← lettersValue, word?_eq_some_iff] at read
      obtain ⟨fits, rfl⟩ := read
      exact ⟨letters, by omega, by omega⟩
    · rintro ⟨letters, value, fits⟩
      refine ⟨lettersValue cs, ?_, by omega⟩
      rw [lettersWord?_eq letters (by decide), ← lettersValue, word?_eq_some_iff]
      exact ⟨by omega, rfl⟩

end Words

/-- Letters and columns correspond. The letters of a column are read as the column; what is read as
a column are its letters in either case; and what is not read has no letters, something else among
them, or a value that does not fit. -/
theorem columnOfLetters?_columnLetters :
    (∀ col < 2 ^ 32 - 1, columnOfLetters? (columnLetters col) = some col) ∧
      (∀ s col, columnOfLetters? s = some col →
        s ≠ "" ∧ (∀ c ∈ s.toList, c.isAlpha) ∧ col < 2 ^ 32 - 1 ∧ columnLetters col = s.toUpper) ∧
      ∀ s, columnOfLetters? s = none ↔ s = "" ∨ (∃ c ∈ s.toList, ¬ c.isAlpha) ∨
        2 ^ 32 - 1 < Nat.ofDigits 26 (s.toList.reverse.map letterValue) := by
  have size : UInt32.size = 2 ^ 32 := rfl
  refine ⟨?_, ?_, ?_⟩
  · intro col small
    rw [columnOfLetters?, columnLetters, String.toList_ofList, columnOfChars?_eq_some_iff]
    exact ⟨fun c => isAlpha_of_mem_columnChars, lettersValue_columnChars col, by omega⟩
  · intro s col read
    obtain ⟨letters, value, fits⟩ := columnOfChars?_eq_some_iff.mp read
    have some : s.toList ≠ [] := by
      intro none
      rw [none] at value
      exact absurd value (Nat.succ_ne_zero col).symm
    refine ⟨fun none => some (by rw [none]; rfl), letters, by omega, ?_⟩
    rw [← String.toList_inj, columnLetters, String.toList_ofList, String.toUpper, String.toList_map,
      ← columnChars_lettersValue some letters, value, Nat.add_sub_cancel]
  · intro s
    rw [columnOfLetters?, ← lettersValue_eq_ofDigits, Option.eq_none_iff_forall_ne_some]
    constructor
    · intro unread
      by_contra readable
      obtain ⟨some, letters, small⟩ : s ≠ "" ∧ (∀ c ∈ s.toList, c.isAlpha) ∧
          lettersValue s.toList ≤ 2 ^ 32 - 1 := by
        simpa using readable
      have positive := lettersValue_pos (mt String.toList_eq_nil_iff.mp some)
      refine unread (lettersValue s.toList - 1) (columnOfChars?_eq_some_iff.mpr ⟨letters, ?_, ?_⟩)
      · omega
      · omega
    · rintro refused col read
      obtain ⟨letters, value, fits⟩ := columnOfChars?_eq_some_iff.mp read
      rcases refused with rfl | ⟨c, member, other⟩ | large
      · exact absurd value (Nat.succ_ne_zero col).symm
      · exact other (letters c member)
      · omega

/-- The last column that fits, and the letters that come next. -/
theorem columnOfLetters?_last :
    columnOfLetters? (columnLetters 4294967294) = some 4294967294 ∧
      columnLetters 4294967294 = "mwlqKWU".toUpper ∧ columnOfLetters? "MWLQKWV" = none := by
  obtain ⟨spelled, read, refused⟩ := columnOfLetters?_columnLetters
  have last : columnOfLetters? "mwlqKWU" = some 4294967294 := by decide +kernel
  have value : 2 ^ 32 - 1 < Nat.ofDigits 26 ("MWLQKWV".toList.reverse.map letterValue) := by
    decide +kernel
  exact ⟨spelled _ (by decide), (read _ _ last).2.2.2, (refused _).mpr (.inr (.inr value))⟩

end SheetCompiler.Address
