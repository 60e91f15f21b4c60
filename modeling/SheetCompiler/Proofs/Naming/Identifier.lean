import SheetCompiler.Naming.Mapping
import SheetCompiler.Proofs.Address.Spelling

/-!
# Names are identifiers

Whatever free text a name is made from, what remains of the text are ASCII letters and digits, and a
digit never comes first. The name that a statement asks for is an identifier, and stays one when a
number is put behind it.
-/

namespace SheetCompiler.Naming

open Lowering (Statement)

section Characters

variable {c : Char}

/-- A letter or a digit is one in small as well. -/
theorem letter_or_digit_toLower (h : c.isAlpha ∨ c.isDigit) :
    c.toLower.isAlpha ∨ c.toLower.isDigit := by
  rcases h with letter | digit
  · exact .inl (Text.isAlpha_toLower letter)
  · exact .inr (by rw [Text.toLower_of_isDigit digit, digit])

theorem letter_or_digit_toUpper (h : c.isAlpha ∨ c.isDigit) :
    c.toUpper.isAlpha ∨ c.toUpper.isDigit := by
  rcases h with letter | digit
  · exact .inl (Text.isAlpha_toUpper letter)
  · exact .inr (by rw [Text.toUpper_of_isDigit digit, digit])

theorem continuesIdentifier_of_letter_or_digit (h : c.isAlpha ∨ c.isDigit) :
    continuesIdentifier c := by
  rw [continuesIdentifier]
  rcases h with letter | digit
  · rw [letter]
    rfl
  · rw [digit, Bool.or_true]
    rfl

/-- What starts an identifier has one character as its capital, and that starts one too. -/
theorem startsIdentifier_toUpper (h : startsIdentifier c) :
    Text.upperChar c = [c.toUpper] ∧ startsIdentifier c.toUpper := by
  rw [startsIdentifier, Bool.or_eq_true] at h
  rcases h with letter | underscore
  · have small : c.toNat < 0x80 := by
      have range : 65 ≤ c.toNat ∧ c.toNat ≤ 90 ∨ 97 ≤ c.toNat ∧ c.toNat ≤ 122 :=
        Text.isAlpha_iff_toNat.mp letter
      omega
    refine ⟨if_pos small, ?_⟩
    rw [startsIdentifier, Text.isAlpha_toUpper letter]
    rfl
  · rw [beq_iff_eq.mp underscore]
    decide

end Characters

section Words

/-- The parts of a split list are made of its elements, without those it is split at. -/
theorem mem_of_mem_splitOnP {α : Type} {p : α → Bool} {x : α} {part xs : List α}
    (h : part ∈ xs.splitOnP p) (member : x ∈ part) : x ∈ xs ∧ p x = false := by
  induction xs generalizing part with
  | nil =>
      rw [List.splitOnP_nil, List.mem_singleton] at h
      rw [h] at member
      cases member
  | cons first rest ih =>
      rw [List.splitOnP_cons_eq_if_modifyHead] at h
      split at h
      case isTrue =>
        rcases List.mem_cons.mp h with rfl | later
        · cases member
        · exact ⟨List.mem_cons_of_mem _ (ih later member).1, (ih later member).2⟩
      case isFalse keeps =>
        obtain ⟨head, tail, parts⟩ := List.exists_cons_of_ne_nil (List.splitOnP_ne_nil p rest)
        have older : ∀ part ∈ head :: tail, x ∈ part → x ∈ first :: rest ∧ p x = false := by
          intro part listed inside
          have found := ih (parts ▸ listed) inside
          exact ⟨List.mem_cons_of_mem _ found.1, found.2⟩
        rw [parts, List.modifyHead_cons] at h
        rcases List.mem_cons.mp h with rfl | later
        · rcases List.mem_cons.mp member with rfl | inside
          · exact ⟨List.mem_cons_self, by simpa using keeps⟩
          · exact older head List.mem_cons_self inside
        · exact older part (List.mem_cons_of_mem _ later) member

variable {s : String} {word : List Char} {c : Char}

theorem letter_or_digit_of_mem_words (h : word ∈ words s) (member : c ∈ word) :
    c.isAlpha ∨ c.isDigit := by
  obtain ⟨kept, inner⟩ := mem_of_mem_splitOnP (List.mem_filter.mp h).1 member
  have remains := (List.mem_filter.mp kept).2
  simpa only [inner, Bool.or_false, Bool.or_eq_true] using remains

theorem letter_or_digit_of_mem_capitalized (h : ∀ c ∈ word, c.isAlpha ∨ c.isDigit)
    (member : c ∈ capitalized word) : c.isAlpha ∨ c.isDigit := by
  cases word with
  | nil => cases member
  | cons first rest =>
      rcases List.mem_cons.mp member with rfl | later
      · exact letter_or_digit_toUpper (h first List.mem_cons_self)
      · obtain ⟨d, inside, rfl⟩ := List.mem_map.mp later
        exact letter_or_digit_toLower (h d (List.mem_cons_of_mem _ inside))

end Words

/-- An identifier with more characters behind it is an identifier. -/
theorem isIdentifier_append {s t : String} (h : isIdentifier s)
    (rest : ∀ c ∈ t.toList, continuesIdentifier c) : isIdentifier (s ++ t) := by
  rw [isIdentifier] at h ⊢
  rw [String.toList_append]
  cases chars : s.toList with
  | nil =>
      rw [chars] at h
      cases h
  | cons c more =>
      rw [chars] at h
      simp only [isIdentifierChars, Bool.and_eq_true, List.all_eq_true, List.cons_append,
        List.mem_append] at h ⊢
      refine ⟨h.1, fun d member => ?_⟩
      rcases member with before | after
      · exact h.2 d before
      · exact rest d after

/-- Letters and digits, behind an underscore if a digit comes first, are an identifier. -/
theorem isIdentifierChars_of_letters_or_digits {c : Char} {cs : List Char}
    (h : ∀ d ∈ c :: cs, d.isAlpha ∨ d.isDigit) :
    isIdentifierChars (if c.isDigit then '_' :: c :: cs else c :: cs) := by
  have continued : ∀ d ∈ c :: cs, continuesIdentifier d :=
    fun d member => continuesIdentifier_of_letter_or_digit (h d member)
  split
  case isTrue =>
    simpa only [isIdentifierChars, Bool.and_eq_true, List.all_eq_true] using ⟨by decide, continued⟩
  case isFalse noDigit =>
    have letter := (h c List.mem_cons_self).resolve_right noDigit
    simp only [isIdentifierChars, Bool.and_eq_true, List.all_eq_true]
    refine ⟨by simp [startsIdentifier, letter], fun d member => ?_⟩
    exact continued d (List.mem_cons_of_mem _ member)

/-- Free text gives an identifier, unless it gives nothing. -/
theorem isIdentifier_camelCase {s : String} (h : (camelCase s).isEmpty = false) :
    isIdentifier (camelCase s) := by
  rw [camelCase] at h ⊢
  split at h
  case h_1 => cases h
  case h_2 c rest chars =>
    rw [isIdentifier, String.toList_ofList, chars]
    refine isIdentifierChars_of_letters_or_digits fun d member => ?_
    rw [← chars] at member
    cases found : words s with
    | nil =>
        rw [found] at member
        cases member
    | cons first others =>
        rw [found] at member
        rcases List.mem_append.mp member with inFirst | later
        · obtain ⟨d, inside, rfl⟩ := List.mem_map.mp inFirst
          have listed : first ∈ words s := found ▸ List.mem_cons_self
          exact letter_or_digit_toLower (letter_or_digit_of_mem_words listed inside)
        · obtain ⟨word, other, inside⟩ := List.mem_flatMap.mp later
          have listed : word ∈ words s := found ▸ List.mem_cons_of_mem _ other
          exact letter_or_digit_of_mem_capitalized
            (fun e => letter_or_digit_of_mem_words listed) inside

theorem isIdentifier_pascalCase {s : String} (h : isIdentifier s) :
    isIdentifier (pascalCase s) := by
  rw [isIdentifier] at h
  rw [pascalCase]
  cases chars : s.toList with
  | nil =>
      rw [chars] at h
      cases h
  | cons c rest =>
      rw [chars, isIdentifierChars, Bool.and_eq_true] at h
      obtain ⟨single, starts⟩ := startsIdentifier_toUpper h.1
      simp only [single, isIdentifier, String.toList_ofList, List.singleton_append,
        isIdentifierChars, starts, h.2, Bool.and_self]

theorem isIdentifier_unlabelledName (cell : Address) : isIdentifier (unlabelledName cell) := by
  have sheet : isIdentifier
      (if (camelCase cell.sheet).isEmpty then "sheet" else camelCase cell.sheet) := by
    split
    case isTrue => decide +kernel
    case isFalse some => exact isIdentifier_camelCase (Bool.eq_false_iff.mpr some)
  have underscore : ∀ c ∈ "_".toList, continuesIdentifier c := by
    intro c member
    rw [List.mem_singleton.mp member]
    rfl
  refine isIdentifier_append (isIdentifier_append sheet underscore) fun c member => ?_
  rw [Address.toList_localText, List.mem_append] at member
  refine continuesIdentifier_of_letter_or_digit ?_
  rcases member with letter | digit
  · exact .inl (Address.isAlpha_of_mem_columnChars letter)
  · exact .inr (Nat.isDigit_of_mem_toDigits (by decide) (by decide) digit)

/-- What a statement asks for is an identifier, with or without a label. -/
theorem isIdentifier_wantedName (s : Statement) : isIdentifier (wantedName s) := by
  rw [wantedName]
  split
  case isTrue => exact isIdentifier_unlabelledName s.cell
  case isFalse labelled =>
    cases label : s.label with
    | none =>
        rw [label] at labelled
        exact absurd rfl labelled
    | some text =>
        rw [label] at labelled
        exact isIdentifier_camelCase (Bool.eq_false_iff.mpr labelled)

/-- The candidates of an identifier are identifiers. -/
theorem isIdentifier_candidate {base : String} (h : isIdentifier base) (n : Nat) :
    isIdentifier (candidate base "" n) := by
  cases n with
  | zero => exact h
  | succ n =>
      refine isIdentifier_append (isIdentifier_append h (by simp)) fun c member => ?_
      rw [Nat.toString_eq_ofList_toDigits, String.toList_ofList] at member
      exact continuesIdentifier_of_letter_or_digit
        (.inr (Nat.isDigit_of_mem_toDigits (by decide) (by decide) member))

end SheetCompiler.Naming
