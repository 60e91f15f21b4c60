import Mathlib.Algebra.Group.Nat.Defs

/-!
# Zero

A number is zero exactly if its negative is. Numbers are packed, and negation packs the number with
the other sign, so this is about what packing keeps: neither the exponent nor the mantissa of a
number that is not zero gets lost.
-/

namespace SheetCompiler.Decimal

open Float.Model (UnpackedFloat Format)
open Float.Model.UnpackedFloat

/-- The unpacked number is zero, with either sign. -/
def IsZero : UnpackedFloat → Prop
  | .zero _ => True
  | .notANumber | .infinity _ | .finite .. => False

theorem beq_zero_iff (u : UnpackedFloat) (s : Sign) : u.beq (.zero s) = true ↔ IsZero u := by
  cases u with
  | notANumber => exact iff_of_false nofun id
  | zero => exact iff_of_true rfl trivial
  | infinity sign | finite sign => cases sign <;> exact iff_of_false nofun id

variable {b : BitVec Format.binary64.numBits}

/-- What bits unpack to, by their exponent and mantissa. -/
inductive Unpacks (b : BitVec Format.binary64.numBits) : UnpackedFloat → Prop
  | infinity (exponent : unpackExponent b = -1#_) :
      Unpacks b (.infinity (Sign.ofBitVec (unpackSign b)))
  | notANumber (exponent : unpackExponent b = -1#_) : Unpacks b .notANumber
  | zero (exponent : unpackExponent b = 0#_) (mantissa : unpackMantissa b = 0#_) :
      Unpacks b (.zero (Sign.ofBitVec (unpackSign b)))
  | subnormal {e : Int} {pos : 0 < (unpackMantissa b).toNat} (mantissa : unpackMantissa b ≠ 0#_) :
      Unpacks b (.finite (Sign.ofBitVec (unpackSign b)) (unpackMantissa b).toNat e pos)
  | normal {pos : 0 < (1#1 ++ unpackMantissa b).toNat} (exponent : unpackExponent b ≠ 0#_) :
      Unpacks b (.finite (Sign.ofBitVec (unpackSign b)) (1#1 ++ unpackMantissa b).toNat
        ((unpackExponent b).toNat - (1023 + 52)) pos)

theorem unpacks (b : BitVec Format.binary64.numBits) : Unpacks b (unpack Format.binary64 b) := by
  delta unpack
  dsimp only
  by_cases special : unpackExponent b = -1#_
  · rw [if_pos special]
    by_cases none : unpackMantissa b = 0#_
    · rw [if_pos none]
      exact .infinity special
    · rw [if_neg none]
      exact .notANumber special
  · rw [if_neg special]
    by_cases small : unpackExponent b = 0#_
    · rw [if_pos small]
      by_cases none : unpackMantissa b = 0#_
      · rw [dif_pos none]
        exact .zero small none
      · rw [dif_neg none]
        exact .subnormal none
    · rw [if_neg small]
      exact .normal small

theorem isZero_unpack_iff :
    IsZero (unpack Format.binary64 b) ↔ unpackExponent b = 0#_ ∧ unpackMantissa b = 0#_ := by
  have cases := unpacks b
  generalize unpack Format.binary64 b = u at cases ⊢
  cases cases with
  | infinity exponent | notANumber exponent =>
      refine iff_of_false id fun none => ?_
      rw [none.1] at exponent
      exact absurd exponent (by decide)
  | zero exponent mantissa => exact iff_of_true trivial ⟨exponent, mantissa⟩
  | subnormal mantissa => exact iff_of_false id fun none => mantissa none.2
  | normal exponent => exact iff_of_false id fun none => exponent none.1

/-- The implicit bit of a normal number is its highest bit. -/
theorem log2_implicit (m : BitVec 52) : (1#1 ++ m).toNat.log2 = 52 := by
  have value : (1#1 ++ m).toNat = 2 ^ 52 + m.toNat := by
    rw [BitVec.toNat_append, ← Nat.shiftLeft_add_eq_or_of_lt m.isLt]
    simp [Nat.shiftLeft_eq]
  rw [value, Nat.log2_eq_iff (by omega)]
  omega

/-- What is unpacked is normal, its exponent not that of zero, or it fits into the mantissa. -/
theorem finite_unpack {s : Sign} {m : Nat} {e : Int} {pos : 0 < m}
    (h : unpack Format.binary64 b = .finite s m e pos) :
    (unpackExponent b ≠ 0#_ ∧ m.log2 = 52 ∧ (e + 1075).toNat = (unpackExponent b).toNat) ∨
      m < 2 ^ 52 := by
  have cases := unpacks b
  rw [h] at cases
  cases cases with
  | subnormal mantissa => exact .inr (unpackMantissa b).isLt
  | normal exponent =>
      refine .inl ⟨exponent, log2_implicit _, ?_⟩
      omega

theorem isZero_unpack_neg (b : BitVec Format.binary64.numBits) :
    IsZero (unpack Format.binary64 (pack Format.binary64 (unpack Format.binary64 b).neg)) ↔
      IsZero (unpack Format.binary64 b) := by
  rw [isZero_unpack_iff]
  cases u : unpack Format.binary64 b with
  | notANumber => exact iff_of_false (by decide) id
  | infinity s => cases s <;> exact iff_of_false (by decide) id
  | zero s => cases s <;> exact iff_of_true (by decide) trivial
  | finite s m e pos =>
      refine iff_of_false ?_ id
      change ¬ (unpackExponent (pack Format.binary64 (.finite (-s) m e pos)) = 0#_ ∧
        unpackMantissa (pack Format.binary64 (.finite (-s) m e pos)) = 0#_)
      delta pack
      dsimp only
      split
      case isTrue => simp [packedInfinity]
      case isFalse =>
        rcases finite_unpack u with ⟨large, normal, same⟩ | bound
        · rw [if_pos (by rw [normal]; rfl), unpackExponent_packComponents]
          rintro ⟨none, -⟩
          apply large
          rw [← none]
          change _ = BitVec.ofNat 11 (e + 1023 + 52).toNat
          rw [show e + 1023 + 52 = e + 1075 by omega, same, BitVec.ofNat_toNat, BitVec.setWidth_eq]
        · have subnormal : ¬ m.log2 + 1 = Format.binary64.mantissaBits := by
            have small := (Nat.log2_lt (Nat.ne_of_gt pos)).mpr bound
            change ¬ m.log2 + 1 = 53
            omega
          rw [if_neg subnormal, unpackMantissa_packComponents]
          rintro ⟨-, none⟩
          have value : (BitVec.ofNat 52 m).toNat = 0 := congrArg BitVec.toNat none
          rw [BitVec.toNat_ofNat, Nat.mod_eq_of_lt bound] at value
          omega

theorem beq_zero_eq (x : Float) : (x == 0.0) = x.toModel.unpack.beq (.zero .positive) := by
  have zero : (0.0 : Float).toModel.unpack = .zero .positive := by rfl
  rw [← zero]
  rfl

/-- A number is zero if its negative is. -/
theorem neg_beq_zero (x : Float) : (-x == 0.0) = (x == 0.0) := by
  rw [Bool.eq_iff_iff, beq_zero_eq, beq_zero_eq, beq_zero_iff, beq_zero_iff]
  exact isZero_unpack_neg x.toModel.toBits.toBitVec

end SheetCompiler.Decimal
