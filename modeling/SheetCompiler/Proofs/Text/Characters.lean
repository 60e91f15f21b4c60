/-!
# Characters by their codes

Letters and digits are ranges of codes, and a letter of one case is 32 codes away from the other.
With that, what case does to letters and digits is arithmetic.
-/

namespace SheetCompiler.Text

variable {c : Char}

theorem isAlpha_iff_toNat :
    c.isAlpha ↔ 65 ≤ c.toNat ∧ c.toNat ≤ 90 ∨ 97 ≤ c.toNat ∧ c.toNat ≤ 122 := by
  change (decide ('A'.val ≤ c.val ∧ c.val ≤ 'Z'.val) ||
    (decide ('a'.val ≤ c.val) && decide (c.val ≤ 'z'.val))) = true ↔ _
  simp only [Bool.or_eq_true, Bool.and_eq_true, decide_eq_true_eq, UInt32.le_iff_toNat_le]
  rfl

theorem isLower_iff_toNat : c.isLower ↔ 97 ≤ c.toNat ∧ c.toNat ≤ 122 := by
  change (decide ('a'.val ≤ c.val) && decide (c.val ≤ 'z'.val)) = true ↔ _
  simp only [Bool.and_eq_true, decide_eq_true_eq, UInt32.le_iff_toNat_le]
  rfl

theorem not_isAlpha_of_isDigit (h : c.isDigit) : c.isAlpha = false := by
  have digit : 48 ≤ c.toNat ∧ c.toNat ≤ 57 := Char.isDigit_iff_toNat.mp h
  rw [← Bool.not_eq_true, isAlpha_iff_toNat]
  omega

theorem toNat_toUpper (c : Char) :
    c.toUpper.toNat = if 97 ≤ c.toNat ∧ c.toNat ≤ 122 then c.toNat - 32 else c.toNat := by
  have range : c.val ≥ 'a'.val ∧ c.val ≤ 'z'.val ↔ 97 ≤ c.toNat ∧ c.toNat ≤ 122 := by
    simp only [ge_iff_le, UInt32.le_iff_toNat_le]
    rfl
  delta Char.toUpper
  split
  case isTrue small =>
    obtain ⟨low, high⟩ := range.mp small
    rw [if_pos ⟨low, high⟩]
    change (c.val + ('A'.val - 'a'.val)).toNat = c.toNat - 32
    rw [UInt32.toNat_add]
    -- The difference of the cases is negative, so the sum wraps around.
    change (c.toNat + 4294967264) % 4294967296 = c.toNat - 32
    omega
  case isFalse other => rw [if_neg (mt range.mpr other)]

theorem toNat_toLower (c : Char) :
    c.toLower.toNat = if 65 ≤ c.toNat ∧ c.toNat ≤ 90 then c.toNat + 32 else c.toNat := by
  have range : c.val ≥ 'A'.val ∧ c.val ≤ 'Z'.val ↔ 65 ≤ c.toNat ∧ c.toNat ≤ 90 := by
    simp only [ge_iff_le, UInt32.le_iff_toNat_le]
    rfl
  delta Char.toLower
  split
  case isTrue capital =>
    obtain ⟨low, high⟩ := range.mp capital
    rw [if_pos ⟨low, high⟩]
    change (c.val + ('a'.val - 'A'.val)).toNat = c.toNat + 32
    rw [UInt32.toNat_add]
    change (c.toNat + 32) % 4294967296 = c.toNat + 32
    omega
  case isFalse other => rw [if_neg (mt range.mpr other)]

/-- The capital of a letter is a capital letter. -/
theorem toNat_toUpper_of_isAlpha (h : c.isAlpha) : 65 ≤ c.toUpper.toNat ∧ c.toUpper.toNat ≤ 90 := by
  rw [isAlpha_iff_toNat] at h
  rw [toNat_toUpper]
  split <;> omega

theorem isAlpha_toUpper (h : c.isAlpha) : c.toUpper.isAlpha :=
  isAlpha_iff_toNat.mpr (.inl (toNat_toUpper_of_isAlpha h))

theorem isLower_toLower (h : c.isAlpha) : c.toLower.isLower := by
  rw [isAlpha_iff_toNat] at h
  rw [isLower_iff_toNat, toNat_toLower]
  split <;> omega

theorem isAlpha_toLower (h : c.isAlpha) : c.toLower.isAlpha :=
  isAlpha_iff_toNat.mpr (.inr (isLower_iff_toNat.mp (isLower_toLower h)))

theorem toUpper_of_isDigit (h : c.isDigit) : c.toUpper = c := by
  have digit : 48 ≤ c.toNat ∧ c.toNat ≤ 57 := Char.isDigit_iff_toNat.mp h
  rw [← Char.toNat_inj, toNat_toUpper, if_neg (by omega)]

theorem toLower_of_isDigit (h : c.isDigit) : c.toLower = c := by
  have digit : 48 ≤ c.toNat ∧ c.toNat ≤ 57 := Char.isDigit_iff_toNat.mp h
  rw [← Char.toNat_inj, toNat_toLower, if_neg (by omega)]

end SheetCompiler.Text
