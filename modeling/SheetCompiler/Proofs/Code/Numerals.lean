import SheetCompiler.Proofs.Address.Spelling
import SheetCompiler.Proofs.Code.Tokens
import SheetCompiler.Proofs.Decimal.Zero

/-!
# Tokens of number literals

A finite number is written as one numeral, with a minus sign before it where the sign bit is set.
What has no digits is written as a word with a point and a zero behind it, which reads as a name and
a numeral. So the last token of a number is a numeral in every case.
-/

namespace SheetCompiler.Code

section Numerals

variable {read : Numeral} {ds cs : List Char}

/-- A numeral of which something has been read goes on to the end of the text. -/
def ToEnd (read : Numeral) (cs : List Char) : Prop :=
  run numeralStep read cs = (cs, [])

theorem toEnd_nil : ToEnd read [] := rfl

theorem toEnd_cons {c : Char} {next : Numeral} (step : numeralStep read c cs = some next)
    (rest : ToEnd next cs) : ToEnd read (c :: cs) := by
  rw [ToEnd] at rest
  rw [ToEnd, run, step]
  simp only [rest, withFirst]

theorem toEnd_digits (digits : ∀ d ∈ ds, d.isDigit) (inside : read ≠ .exponentMark)
    (rest : ToEnd read cs) : ToEnd read (ds ++ cs) := by
  induction ds with
  | nil => exact rest
  | cons d ds ih =>
      rw [List.forall_mem_cons] at digits
      refine toEnd_cons ?_ (ih digits.2)
      unfold numeralStep
      rw [if_pos digits.1, if_neg inside]

theorem digitFirst_of_forall (digits : ∀ d ∈ ds, d.isDigit) (nonempty : ds ≠ []) (cs : List Char) :
    digitFirst (ds ++ cs) := by
  cases ds with
  | nil => exact absurd rfl nonempty
  | cons d ds => exact digits d List.mem_cons_self

theorem toEnd_point (digits : ∀ d ∈ ds, d.isDigit) (nonempty : ds ≠ [])
    (rest : ToEnd .fraction cs) :
    ToEnd .whole ('.' :: (ds ++ cs)) := by
  refine toEnd_cons ?_ (toEnd_digits digits (by decide) rest)
  rw [numeralStep, if_neg (by decide), digitFirst_of_forall digits nonempty]
  rfl

theorem toEnd_exponent (digits : ∀ d ∈ ds, d.isDigit) (nonempty : ds ≠ [])
    (before : read = .whole ∨ read = .fraction) {sign : List Char} (signed : sign ∈ [[], ['-']]) :
    ToEnd read ('e' :: (sign ++ ds)) := by
  have first := digitFirst_of_forall digits nonempty []
  rw [List.append_nil] at first
  have mark : ∀ cs, exponentFirst cs → numeralStep read 'e' cs = some .exponentMark := by
    intro cs follows
    rcases before with rfl | rfl <;> simp [numeralStep, follows]
  have tail : ∀ ds : List Char, (∀ d ∈ ds, d.isDigit) → ToEnd .exponent ds := by
    intro ds digits
    rw [← List.append_nil ds]
    exact toEnd_digits digits (by decide) toEnd_nil
  cases signed with
  | head =>
      cases ds with
      | nil => exact absurd rfl nonempty
      | cons d ds =>
          rw [List.forall_mem_cons] at digits
          refine toEnd_cons (mark _ ?_) (toEnd_cons ?_ (tail ds digits.2))
          · rw [List.nil_append, exponentFirst, digits.1]
            rfl
          · unfold numeralStep
            rw [if_pos digits.1]
            rfl
  | tail _ signed =>
      rw [List.mem_singleton.mp signed]
      refine toEnd_cons (mark _ ?_) (toEnd_cons rfl (tail ds digits))
      rw [List.singleton_append, exponentFirst, first]
      rfl

end Numerals

section Finite

open Decimal (NumberStyle digitChars Scientific)

variable {ds cs : List Char}

theorem isDigit_of_mem_digitChars {n : Nat} : ∀ d ∈ digitChars n, d.isDigit :=
  fun _ => Nat.isDigit_of_mem_toDigits (by decide) (by decide)

theorem digitChars_ne_nil (n : Nat) : digitChars n ≠ [] :=
  Nat.toDigits_ne_nil

theorem isDigit_of_mem_replicate {n : Nat} : ∀ d ∈ List.replicate n '0', d.isDigit := by
  intro d member
  rw [List.eq_of_mem_replicate member]
  rfl

/-- A text that reads as one numeral. -/
def IsNumeral (cs : List Char) : Prop :=
  ∃ d rest, cs = d :: rest ∧ d.isDigit ∧ ToEnd .whole rest

theorem tokens?_of_isNumeral (h : IsNumeral cs) :
    tokens? cs = some [.numeral (String.ofList cs)] := by
  obtain ⟨d, rest, rfl, digit, whole⟩ := h
  have solid : d ≠ ' ' ∧ d ≠ '"' ∧ d ≠ '.' := by
    refine ⟨?_, ?_, ?_⟩ <;> rintro rfl <;> cases digit
  have noName : startsName d = false := by
    have range : 48 ≤ d.toNat ∧ d.toNat ≤ 57 := Char.isDigit_iff_toNat.mp digit
    simp only [startsName, Naming.startsIdentifier, Text.not_isAlpha_of_isDigit digit,
      Bool.false_or, Bool.or_eq_false_iff, beq_eq_false_iff_ne, decide_eq_false_iff_not]
    refine ⟨?_, by omega⟩
    rintro rfl
    cases digit
  have first : firstToken d rest = some (.numeral (String.ofList (d :: rest)), []) := by
    rw [ToEnd] at whole
    simp only [firstToken, if_neg solid.2.1, noName, digit, numeralStart, if_neg solid.2.2, whole,
      Bool.true_or, Bool.false_eq_true, if_false, if_true]
  rw [tokens?_cons solid.1 first, tokens?_nil]
  rfl

theorem isNumeral_append (digits : ∀ d ∈ ds, d.isDigit) (nonempty : ds ≠ [])
    (rest : ToEnd .whole cs) : IsNumeral (ds ++ cs) := by
  cases ds with
  | nil => exact absurd rfl nonempty
  | cons d ds =>
      rw [List.forall_mem_cons] at digits
      exact ⟨d, ds ++ cs, rfl, digits.1, toEnd_digits digits.2 (by decide) rest⟩

theorem isNumeral_digitChars (n : Nat) : IsNumeral (digitChars n) := by
  rw [← List.append_nil (digitChars n)]
  exact isNumeral_append isDigit_of_mem_digitChars (digitChars_ne_nil n) toEnd_nil

theorem isNumeral_layout (d : Scientific) : IsNumeral (NumberStyle.literal.layout d).toList := by
  have digits := fun n => @isDigit_of_mem_digitChars n
  have point : ∀ ds : List Char, (∀ d ∈ ds, d.isDigit) → ds ≠ [] → ToEnd .whole ('.' :: ds) := by
    intro ds digits nonempty
    rw [← List.append_nil ds]
    exact toEnd_point digits nonempty toEnd_nil
  have length := List.length_pos_iff.mpr (digitChars_ne_nil d.digits)
  simp only [NumberStyle.layout]
  split
  case isTrue =>
    split
    case isTrue =>
      rw [String.toList_ofList, if_pos (by rfl)]
      refine isNumeral_append (List.forall_mem_append.mpr ⟨digits _, isDigit_of_mem_replicate⟩) ?_
        (point ['0'] (List.forall_mem_singleton.mpr rfl) (List.cons_ne_nil _ _))
      exact List.append_ne_nil_of_left_ne_nil (digitChars_ne_nil _) _
    case isFalse small =>
      split
      case isTrue large =>
        rw [String.toList_ofList]
        refine isNumeral_append (fun c member => digits _ c (List.mem_of_mem_take member)) ?_
          (point _ (fun c member => digits _ c (List.mem_of_mem_drop member)) ?_)
        · rw [← List.length_pos_iff, List.length_take]
          omega
        · rw [← List.length_pos_iff, List.length_drop]
          omega
      case isFalse =>
        rw [String.toList_ofList]
        refine isNumeral_append (List.forall_mem_singleton.mpr rfl) (List.cons_ne_nil '0' [])
          (point _ ?_ ?_)
        · exact List.forall_mem_append.mpr ⟨isDigit_of_mem_replicate, digits _⟩
        · exact List.append_ne_nil_of_right_ne_nil _ (digitChars_ne_nil _)
  case isFalse =>
    rw [String.toList_ofList]
    have digits := digits d.digits
    cases written : digitChars d.digits with
    | nil => exact absurd written (digitChars_ne_nil _)
    | cons first others =>
        rw [written, List.forall_mem_cons] at digits
        have exponent : ∀ read, read = .whole ∨ read = .fraction → ∀ lead : Int,
            ToEnd read ('e' :: ((if lead < 0 then ['-'] else []) ++ digitChars lead.natAbs)) := by
          intro read before lead
          refine toEnd_exponent isDigit_of_mem_digitChars (digitChars_ne_nil _) before ?_
          split <;> simp
        cases others with
        | nil =>
            exact isNumeral_append (List.forall_mem_singleton.mpr digits.1) (List.cons_ne_nil _ _)
              (exponent _ (.inl rfl) _)
        | cons second others =>
            have whole : ∀ d ∈ [first], d.isDigit := List.forall_mem_singleton.mpr digits.1
            have numeral := fun lead => isNumeral_append whole (List.cons_ne_nil _ _)
              (toEnd_point digits.2 (List.cons_ne_nil _ _) (exponent _ (.inr rfl) lead))
            exact numeral _

theorem any_layout (d : Scientific) :
    (NumberStyle.literal.layout d).toList.any fun c => c == '.' || c == 'e' || c == 'E' := by
  simp only [NumberStyle.layout]
  split
  · split
    · simp [NumberStyle.literal]
    · split <;> simp
  · simp

end Finite

section Numbers

open Decimal (NumberStyle isNegative)

variable {x : Float}

/-- A number literal without its sign. -/
def magnitudeCode (x : Float) : String :=
  String.ofList ((numberCode x).toList.dropWhile (· == '-'))

/-- The tokens of a number literal. -/
def numberTokens (x : Float) : List Token :=
  if x.isNaN then [.name "NaN", .numeral ".0"]
  else
    (if isNegative x then [.mark (.operator .sub)] else []) ++
      if x.isInf then [.name "inf", .numeral ".0"] else [.numeral (magnitudeCode x)]

theorem numberCode_of_nan (nan : x.isNaN = true) : numberCode x = "NaN.0" := by
  simp only [numberCode, NumberStyle.write, nan, if_true]
  rfl

theorem numberCode_of_inf (nan : x.isNaN = false) (inf : x.isInf = true) :
    numberCode x = if isNegative x then "-inf.0" else "inf.0" := by
  simp only [numberCode, NumberStyle.write, nan, inf, if_true, Bool.false_eq_true, if_false]
  cases isNegative x <;> rfl

theorem numberCode_of_finite (nan : x.isNaN = false) (inf : x.isInf = false) :
    IsNumeral (magnitudeCode x).toList ∧
      (numberCode x).toList = (if isNegative x then ['-'] else []) ++ (magnitudeCode x).toList := by
  let layout := NumberStyle.literal.layout ((Decimal.Binary.ofFloat x).shortest .away)
  have numeral : IsNumeral layout.toList := isNumeral_layout _
  have written : (numberCode x).toList = (if isNegative x then ['-'] else []) ++ layout.toList := by
    have text : (NumberStyle.literal.write x).toList =
        (if isNegative x then ['-'] else []) ++ layout.toList := by
      simp only [NumberStyle.write, nan, inf, Bool.false_eq_true, if_false, String.toList_append,
        layout]
      split <;> rfl
    simp only [numberCode]
    rw [text, List.any_append, any_layout, Bool.or_true, if_pos rfl, text]
  have magnitude : (magnitudeCode x).toList = layout.toList := by
    rw [magnitudeCode, String.toList_ofList, written]
    obtain ⟨d, rest, same, digit, -⟩ := numeral
    have unsigned : (d == '-') = false := by
      rw [beq_eq_false_iff_ne]
      rintro rfl
      cases digit
    rw [same]
    split <;> simp [unsigned]
  rw [magnitude]
  exact ⟨numeral, written⟩

theorem any_numberCode (x : Float) :
    (numberCode x).toList.any fun c => c == '.' || c == 'e' || c == 'E' := by
  simp only [numberCode]
  split
  · assumption
  · rw [String.toList_append, List.any_append]
    exact Bool.or_true _

/-- The literal of a finite number has a point or an exponent. -/
theorem not_all_isDigit_magnitudeCode (nan : x.isNaN = false) (inf : x.isInf = false) :
    (magnitudeCode x).toList.all Char.isDigit = false := by
  have marked := any_numberCode x
  have unsigned : ((if isNegative x then ['-'] else []).any
      fun c => c == '.' || c == 'e' || c == 'E') = false := by
    split <;> rfl
  rw [(numberCode_of_finite nan inf).2, List.any_append, unsigned, Bool.false_or,
    List.any_eq_true] at marked
  obtain ⟨c, member, mark⟩ := marked
  refine List.all_eq_false.mpr ⟨c, member, ?_⟩
  simp only [Bool.or_eq_true, beq_iff_eq] at mark
  rcases mark with (rfl | rfl) | rfl <;> decide

/-- A number literal is a numeral, with a minus sign or a word before it. -/
theorem tokens?_numberCode (x : Float) : tokens? (numberCode x).toList = some (numberTokens x) := by
  rw [numberTokens]
  cases nan : x.isNaN with
  | true =>
      rw [numberCode_of_nan nan, if_pos rfl]
      decide +kernel
  | false =>
      rw [if_neg Bool.false_ne_true]
      cases inf : x.isInf with
      | true =>
          rw [numberCode_of_inf nan inf, if_pos rfl]
          cases isNegative x <;> decide +kernel
      | false =>
          obtain ⟨numeral, written⟩ := numberCode_of_finite nan inf
          have read := tokens?_of_isNumeral numeral
          rw [String.ofList_toList] at read
          rw [written, if_neg Bool.false_ne_true]
          split
          · rw [List.singleton_append, tokens?_minus_numeral read, List.singleton_append]
          · rw [List.nil_append, List.nil_append, read]

end Numbers

section Sign

open Float.Model (UnpackedFloat Format)
open Float.Model.UnpackedFloat

theorem eq_of_lt_zero {u : UnpackedFloat} {s : Sign} (h : u.lt (.zero s) = true) :
    u = .infinity .negative ∨ ∃ m e pos, u = .finite .negative m e pos := by
  cases u with
  | notANumber => cases h
  | zero => cases h
  | infinity sign =>
      cases sign with
      | negative => exact .inl rfl
      | positive => cases h
  | finite sign m e pos =>
      cases sign with
      | negative => exact .inr ⟨m, e, pos, rfl⟩
      | positive => cases h

theorem unpackSign_of_lt_zero {b : BitVec Format.binary64.numBits} {s : Sign}
    (h : (unpack Format.binary64 b).lt (.zero s) = true) :
    Sign.ofBitVec (unpackSign b) = .negative := by
  have cases := Decimal.unpacks b
  generalize unpack Format.binary64 b = u at cases h
  cases cases with
  | notANumber => cases h
  | zero => cases h
  | infinity =>
      rcases eq_of_lt_zero h with same | ⟨m, e, pos, other⟩
      · exact infinity.inj same
      · cases other
  | subnormal | normal =>
      rcases eq_of_lt_zero h with other | ⟨m, e, pos, same⟩
      · cases other
      · exact (finite.inj same).1

theorem isNegative_of_unpackSign {x : Float}
    (h : Sign.ofBitVec (@unpackSign Format.binary64 x.toBits.toBitVec) = .negative) :
    Decimal.isNegative x := by
  have set : @unpackSign Format.binary64 x.toBits.toBitVec ≠ 0#1 := by
    intro clear
    rw [clear] at h
    cases h
  have value : x.toBits.toNat / 2 ^ 63 % 2 ≠ 0 := by
    intro zero
    apply set
    apply BitVec.eq_of_toNat_eq
    delta unpackSign
    simpa [Nat.shiftRight_eq_div_pow] using zero
  have bound := x.toBits.toNat_lt
  rw [Decimal.isNegative, beq_iff_eq, ← UInt64.toNat_inj]
  simp [Nat.shiftRight_eq_div_pow]
  omega

/-- A number below zero is written with a minus sign. -/
theorem isNegative_of_lt_zero {x : Float} (h : x < 0.0) : Decimal.isNegative x := by
  have zero : (0.0 : Float).toModel.unpack = .zero .positive := by rfl
  have below : x.toModel.unpack.lt (.zero .positive) = true := by
    have lower : Float.lt x 0.0 = true := h
    rw [Float.lt] at lower
    rw [← zero]
    exact of_decide_eq_true lower
  exact isNegative_of_unpackSign (unpackSign_of_lt_zero below)

end Sign

/-- The literal of the number is one numeral, behind a minus sign only if the number is below
zero. -/
def OneNumeral (x : Float) : Prop :=
  ∃ numeral, tokens? (numberCode x).toList = some [.numeral numeral] ∨
    x < 0.0 ∧ tokens? (numberCode x).toList = some [.mark (.operator .sub), .numeral numeral]

/-- Such a number has digits, and a minus sign exactly if it is below zero. -/
theorem OneNumeral.numberTokens_eq {x : Float} (h : OneNumeral x) :
    (magnitudeCode x).toList.all Char.isDigit = false ∧ numberTokens x =
      (if x < 0.0 then [.mark (.operator .sub)] else []) ++ [.numeral (magnitudeCode x)] := by
  obtain ⟨numeral, h⟩ := h
  rw [tokens?_numberCode, Option.some.injEq, Option.some.injEq] at h
  cases nan : x.isNaN with
  | true =>
      rw [numberTokens, nan] at h
      simp at h
  | false =>
      cases inf : x.isInf with
      | true =>
          rw [numberTokens, nan, inf] at h
          cases sign : Decimal.isNegative x <;> simp [sign] at h
      | false =>
          refine ⟨not_all_isDigit_magnitudeCode nan inf, ?_⟩
          rw [numberTokens, nan, inf] at h ⊢
          by_cases below : x < 0.0
          · simp [isNegative_of_lt_zero below, below]
          · cases sign : Decimal.isNegative x <;> simp_all

end SheetCompiler.Code
