import Mathlib.Data.List.TakeDrop
import SheetCompiler.Proofs.Address.Column

/-!
# Reading addresses

A local address is letters and digits, each perhaps behind an anchor, and the letters and digits
decide what it is read as. Main statement: an address whose row and column are not too large for a
spreadsheet is read back from its text, whatever the name of its sheet. Nothing is read as a place
with a larger row or column.
-/

namespace SheetCompiler.Address

section Letters

/-- The values of so many letters are bounded by those of as many `Z`. -/
theorem lettersValue_le {letters : List Char} (h : ∀ c ∈ letters, c.isAlpha) :
    lettersValue letters ≤ lettersValue (List.replicate letters.length 'Z') := by
  induction letters using List.reverseRecOn with
  | nil => exact Nat.le_refl _
  | append_singleton letters c ih =>
      have front := ih fun d member => h d (List.mem_append_left _ member)
      have back := letterValue_le (h c (by simp))
      have value : letterValue 'Z' = 26 := rfl
      rw [List.length_append, List.length_singleton, List.replicate_succ', lettersValue_concat,
        lettersValue_concat, value]
      omega

/-- Up to three letters spell one of the columns `A` to `ZZZ`. -/
theorem lettersValue_le_of_length_le {letters : List Char} (h : ∀ c ∈ letters, c.isAlpha)
    (short : letters.length ≤ 3) : lettersValue letters ≤ 18278 := by
  refine (lettersValue_le h).trans ?_
  generalize letters.length = n at short
  revert n
  decide

end Letters

/-- The value of digits is bounded by their number. -/
theorem digitsValue_lt {digits : List Char} (h : ∀ c ∈ digits, c.isDigit) :
    Decimal.digitsValue digits < 10 ^ digits.length := by
  induction digits using List.reverseRecOn with
  | nil => exact Nat.one_pos
  | append_singleton front d ih =>
      have before := ih fun c member => h c (List.mem_append_left _ member)
      have digit : d.toNat ≤ 57 := (Char.isDigit_iff_toNat.mp (h d (by simp))).2
      have value : Decimal.digitsValue (front ++ [d]) =
          10 * Decimal.digitsValue front + (d.toNat - 48) := by
        rw [Decimal.digitsValue, List.foldl_append]
        rfl
      rw [value, List.length_append, List.length_singleton, Nat.pow_succ]
      omega

section Parts

/-- An anchor, or nothing. -/
def IsAnchor (cs : List Char) : Prop :=
  cs = [] ∨ cs = ['$']

/-- The characters behind an anchor, if one stands first. -/
def unanchored : List Char → List Char
  | '$' :: rest => rest
  | rest => rest

theorem exists_anchor_append_unanchored (cs : List Char) :
    ∃ a, IsAnchor a ∧ cs = a ++ unanchored cs := by
  unfold unanchored
  split
  · exact ⟨['$'], .inr rfl, rfl⟩
  · exact ⟨[], .inl rfl, rfl⟩

theorem unanchored_append {a cs : List Char} (anchor : IsAnchor a) (h : cs.head? ≠ some '$') :
    unanchored (a ++ cs) = cs := by
  rcases anchor with rfl | rfl
  · rw [List.nil_append, unanchored]
    rintro rest rfl
    exact h rfl
  · rfl

/-- The equation of reading, with the parts of the text named. -/
theorem parseLocal?_eq (text : String) : parseLocal? text =
    (let cs := unanchored text.toList
     let letters := cs.takeWhile Char.isAlpha
     let digits := unanchored (cs.dropWhile Char.isAlpha)
     if letters.isEmpty || 3 < letters.length || digits.isEmpty || 7 < digits.length then none
     else if !digits.all Char.isDigit then none
     else
      match columnOfChars? letters, Decimal.digitsValue digits with
      | some col, row + 1 => some (row, col)
      | _, _ => none) := by
  rw [parseLocal?]
  simp only [List.span_eq_takeWhile_dropWhile]
  rfl

/-- The characters spell a place: letters for its column and digits for its row. -/
structure SpellsPlace (letters digits : List Char) (row col : Nat) : Prop where
  isAlpha : ∀ c ∈ letters, c.isAlpha
  isDigit : ∀ c ∈ digits, c.isDigit
  length_letters : letters.length ≤ 3
  length_digits : digits.length ≤ 7
  lettersValue_eq : lettersValue letters = col + 1
  digitsValue_eq : Decimal.digitsValue digits = row + 1

/-- What is read as a place are letters and digits that spell it, with or without anchors. -/
theorem exists_spellsPlace_of_parseLocal? {text : String} {row col : Nat}
    (h : parseLocal? text = some (row, col)) : ∃ a letters b digits, IsAnchor a ∧ IsAnchor b ∧
      text.toList = a ++ (letters ++ (b ++ digits)) ∧ SpellsPlace letters digits row col := by
  obtain ⟨a, anchored, whole⟩ := exists_anchor_append_unanchored text.toList
  rw [parseLocal?_eq] at h
  extract_lets cs letters digits at h
  obtain ⟨b, anchored', rest⟩ := exists_anchor_append_unanchored (cs.dropWhile Char.isAlpha)
  split at h
  case isTrue => cases h
  case isFalse sizes =>
    split at h
    case isTrue => cases h
    case isFalse all =>
      simp only [Bool.or_eq_true, decide_eq_true_eq, not_or, Nat.not_lt] at sizes
      split at h
      case h_2 => cases h
      case h_1 column value spelled number =>
        cases h
        obtain ⟨isAlpha, value, -⟩ := columnOfChars?_eq_some_iff.mp spelled
        refine ⟨a, letters, b, digits, anchored, anchored', ?_, ?_⟩
        · rw [whole, ← rest, List.takeWhile_append_dropWhile]
        · refine ⟨isAlpha, ?_, sizes.1.1.2, sizes.2, value, number⟩
          simpa using all

/-- Letters of a place spell its column. -/
theorem SpellsPlace.columnOfChars?_eq {letters digits : List Char} {row col : Nat}
    (h : SpellsPlace letters digits row col) : columnOfChars? letters = some col := by
  have few := lettersValue_le_of_length_le h.isAlpha h.length_letters
  rw [h.lettersValue_eq] at few
  refine columnOfChars?_eq_some_iff.mpr ⟨h.isAlpha, h.lettersValue_eq, ?_⟩
  change col + 1 < 4294967296
  omega

/-- A run of characters ends where the first other one stands. -/
theorem span_append {p : Char → Bool} {cs rest : List Char} (h : ∀ c ∈ cs, p c)
    (stop : ∀ c, rest.head? = some c → p c = false) :
    (cs ++ rest).takeWhile p = cs ∧ (cs ++ rest).dropWhile p = rest := by
  rw [List.takeWhile_append_of_pos h, List.dropWhile_append_of_pos h]
  cases rest with
  | nil => simp
  | cons c rest =>
      have other := stop c rfl
      simp [other]

/-- Letters and digits that spell a place are read as it, with or without anchors. -/
theorem parseLocal?_of_spellsPlace {text : String} {a letters b digits : List Char} {row col : Nat}
    (anchored : IsAnchor a) (anchored' : IsAnchor b)
    (whole : text.toList = a ++ (letters ++ (b ++ digits)))
    (h : SpellsPlace letters digits row col) :
    parseLocal? text = some (row, col) := by
  have someLetters : letters ≠ [] := by
    rintro rfl
    exact absurd h.lettersValue_eq (Nat.succ_ne_zero col).symm
  have someDigits : digits ≠ [] := by
    rintro rfl
    exact absurd h.digitsValue_eq (Nat.succ_ne_zero row).symm
  obtain ⟨first, others, rfl⟩ := List.exists_cons_of_ne_nil someLetters
  obtain ⟨digit, more, rfl⟩ := List.exists_cons_of_ne_nil someDigits
  have firstAlpha := h.isAlpha first List.mem_cons_self
  have isDigit := h.isDigit digit List.mem_cons_self
  have start : unanchored text.toList = first :: others ++ (b ++ digit :: more) := by
    rw [whole]
    refine unanchored_append anchored fun same => ?_
    rw [Option.some.inj same] at firstAlpha
    cases firstAlpha
  have stop : ∀ c, (b ++ digit :: more).head? = some c → c.isAlpha = false := by
    intro c same
    rcases anchored' with rfl | rfl
    · rw [← Option.some.inj same]
      exact Text.not_isAlpha_of_isDigit isDigit
    · rw [← Option.some.inj same]
      rfl
  have number : unanchored (b ++ digit :: more) = digit :: more := by
    refine unanchored_append anchored' fun same => ?_
    rw [Option.some.inj same] at isDigit
    cases isDigit
  obtain ⟨taken, dropped⟩ := span_append h.isAlpha stop
  have all : (digit :: more).all Char.isDigit = true := List.all_eq_true.mpr h.isDigit
  have short := h.length_letters
  have short' := h.length_digits
  rw [parseLocal?_eq]
  simp only [start, taken, dropped, number, all, h.columnOfChars?_eq, h.digitsValue_eq]
  have fits : ¬ (3 < (first :: others).length ∨ 7 < (digit :: more).length) := by omega
  rw [if_neg (by simpa using fits)]
  rfl

end Parts

section Texts

/-- The row and the column can be spelled with seven digits and three letters. -/
structure InBounds (a : Address) : Prop where
  row : a.row < 9999999
  col : a.col < 18278

variable {a : Address}

/-- What is read as a place is in the bounds, on whatever sheet. -/
theorem inBounds_of_parseLocal? {text : String} {row col : Nat}
    (h : parseLocal? text = some (row, col)) (sheet : String) : InBounds ⟨sheet, row, col⟩ := by
  obtain ⟨-, letters, -, digits, -, -, -, spelled⟩ := exists_spellsPlace_of_parseLocal? h
  have column := lettersValue_le_of_length_le spelled.isAlpha spelled.length_letters
  have value : row + 1 < 10 ^ 7 := by
    calc row + 1 = Decimal.digitsValue digits := spelled.digitsValue_eq.symm
      _ < 10 ^ digits.length := digitsValue_lt spelled.isDigit
      _ ≤ 10 ^ 7 := Nat.pow_le_pow_right (by decide) spelled.length_digits
  rw [spelled.lettersValue_eq] at column
  exact ⟨Nat.lt_of_succ_lt_succ value, column⟩

/-- One letter more spells the columns up to 26 times as many, and 26 again. -/
theorem length_columnChars_le_succ {n bound : Nat}
    (shorter : ∀ col < bound, (columnChars col).length ≤ n) :
    ∀ col < 26 * bound + 26, (columnChars col).length ≤ n + 1 := by
  intro col h
  rw [columnChars]
  split
  · simp
  · have front := shorter (col / 26 - 1) (by omega)
    simpa using front

theorem length_columnChars_le {col : Nat} (h : col < 18278) : (columnChars col).length ≤ 3 := by
  have none : ∀ col < 0, (columnChars col).length ≤ 0 := nofun
  exact length_columnChars_le_succ (length_columnChars_le_succ (length_columnChars_le_succ none))
    col h

theorem InBounds.spellsPlace (h : a.InBounds) :
    SpellsPlace (columnChars a.col) (Nat.toDigits 10 (a.row + 1)) a.row a.col where
  isAlpha _ := isAlpha_of_mem_columnChars
  isDigit _ member := Nat.isDigit_of_mem_toDigits (by decide) (by decide) member
  length_letters := length_columnChars_le h.col
  length_digits := Nat.toDigits_length 10 _ 7 (by decide) (Nat.succ_lt_succ h.row)
  lettersValue_eq := lettersValue_columnChars a.col
  digitsValue_eq := Nat.ofDigitChars_ten_toDigits

/-- A local address is read back. -/
theorem InBounds.parseLocal?_localText (h : a.InBounds) :
    parseLocal? a.localText = some (a.row, a.col) := by
  refine parseLocal?_of_spellsPlace (.inl rfl) (.inl rfl) ?_ h.spellsPlace
  exact toList_localText a

/-- A text without `!` is what stands behind the last one. -/
theorem splitLastBang?_append (before : List Char) {after : List Char} (h : '!' ∉ after) :
    splitLastBang? (before ++ '!' :: after) = some (before, after) := by
  have none : splitLastBang? after = none := by
    induction after with
    | nil => rfl
    | cons c rest ih =>
        rw [List.mem_cons, not_or] at h
        simp [splitLastBang?, ih h.2, Ne.symm h.1]
  induction before with
  | nil => simp [splitLastBang?, none]
  | cons c before ih => simp [splitLastBang?, ih]

theorem bang_notMem_localText (a : Address) : '!' ∉ a.localText.toList := by
  rw [toList_localText, List.mem_append]
  rintro (letter | digit)
  · exact absurd (isAlpha_of_mem_columnChars letter) (by decide)
  · exact absurd (Nat.isDigit_of_mem_toDigits (by decide) (by decide) digit) (by decide)

/-- A plain name does not look like a name between apostrophes. -/
theorem exists_cons_of_isPlainSheet {cs : List Char} (h : isPlainSheet cs) :
    ∃ first rest, cs = first :: rest ∧ first ≠ '\'' := by
  cases cs with
  | nil => cases h
  | cons first rest =>
      refine ⟨first, rest, rfl, ?_⟩
      rintro rfl
      rw [isPlainSheet, List.all_cons, Bool.and_eq_true, Bool.and_eq_true] at h
      exact absurd h.2.1 (by decide +kernel)

/-- The text of an address is the name of its sheet, as it is shown, and the local address. -/
theorem toList_text (a : Address) :
    a.text.toList = (sheetText a.sheet).toList ++ '!' :: a.localText.toList := by
  simp [text]

/-- The sheet and the local address of an address are found in its text. -/
theorem splitSheet?_text (a : Address) : splitSheet? a.text = some (a.sheet, a.localText) := by
  rw [splitSheet?, toList_text, sheetText]
  cases plain : isPlainSheet a.sheet.toList with
  | true =>
      obtain ⟨first, rest, sheet, other⟩ := exists_cons_of_isPlainSheet plain
      have found := splitLastBang?_append a.sheet.toList (bang_notMem_localText a)
      rw [if_pos rfl]
      split
      case h_1 quoted same =>
        rw [sheet, List.cons_append] at same
        exact absurd (List.cons.inj same).1 other
      case h_2 =>
        rw [found, sheet]
        simp [← sheet]
  | false =>
      have follows : ('!' :: a.localText.toList).head? ≠ some '\'' := by simp
      have found := Text.readDelimited_doubled '\'' a.sheet.toList _ follows
      simp [Text.delimited, found]

/-- An address is read back, whatever its sheet is called. -/
theorem InBounds.parseFull?_text (h : a.InBounds) : parseFull? a.text = some a := by
  rw [parseFull?, splitSheet?_text]
  simp [h.parseLocal?_localText]

end Texts

end SheetCompiler.Address
