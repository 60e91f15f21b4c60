import Mathlib.Logic.Basic
import SheetCompiler.Entry
import SheetCompiler.Proofs.Formula.Parsing
import SheetCompiler.Proofs.Formula.Spelling

/-!
# Displayed addresses

The text of an address is read in two ways: as an address, and as a formula. As an address it always
gives back the cell. As a formula it gives the reference to the cell, unless the name of the sheet
is written without apostrophes and is no name to the lexer. The two ideas of a plain name differ in
one point: a name in a formula starts with a letter or an underscore, while a sheet name without
apostrophes may also start with any number sign but the ten digits.
-/

namespace SheetCompiler

namespace Address

/-- Different cells have different texts. -/
theorem text_injective : Function.Injective text := by
  intro a b same
  have parts := splitSheet?_text a
  rw [same, splitSheet?_text b, Option.some.injEq, Prod.mk.injEq] at parts
  exact (eq_of_localText parts.1 parts.2).symm

theorem InBounds.parse?_text {a : Address} (h : a.InBounds) (defaultSheet : String) :
    parse? a.text defaultSheet = some a := by
  simp only [parse?, splitSheet?_text, Option.getD_some, h.parseLocal?_localText, Option.map_some]

/-- An address is read back from its text, with and without a sheet to fall back on. -/
theorem read_text (a : Address) (h : a.InBounds) : readFull a.text = .ok a ∧
    (∀ defaultSheet, read a.text defaultSheet = .ok a) ∧ ∀ b :
    Address, b.text = a.text → b = a := by
  refine ⟨?_, fun defaultSheet => ?_, fun b same => text_injective same⟩
  · rw [readFull, h.parseFull?_text]
  · unfold Address.read
    rw [h.parse?_text]

/-- The last cell that can be spelled, on a sheet whose name looks like the text of an address. -/
def remoteCell : Address :=
  ⟨"'It''s'!A1", 9999998, 18277⟩

theorem remoteCell_read_text : remoteCell.InBounds ∧
    remoteCell.text = "'''It''''s''!A1'!ZZZ9999999" ∧
    readFull remoteCell.text = .ok remoteCell ∧
    (∀ defaultSheet, read remoteCell.text defaultSheet = .ok remoteCell) ∧
    ∀ b : Address, b.text = remoteCell.text → b = remoteCell := by
  have inBounds : remoteCell.InBounds := ⟨by decide, by decide⟩
  exact ⟨inBounds, by decide +kernel, read_text remoteCell inBounds⟩

/-- The first character of a sheet name that is written without apostrophes but is no name in a
formula. -/
def strayStart? (sheet : List Char) : Option Char :=
  if isPlainSheet sheet then sheet.head?.filter fun c => !Formula.Lexer.startsName c else none

end Address

namespace Formula

open Address (strayStart? isPlainSheet sheetText)

variable {a : Address}

theorem isName_localText (a : Address) : Lexer.isName a.localText.toList := by
  rw [Address.toList_localText]
  have letters : ∀ c ∈ Address.columnChars a.col, Text.isAlphabetic c := fun c member =>
    Text.isAlphabetic_of_isAlpha (Address.isAlpha_of_mem_columnChars member)
  have continues : ∀ c ∈ Address.columnChars a.col ++ Nat.toDigits 10 (a.row + 1),
      Lexer.continuesName c := by
    intro c member
    have word : Text.isAlphanumeric c := by
      rcases List.mem_append.mp member with letter | digit
      · rw [Text.isAlphanumeric, letters c letter, Bool.true_or]
      · exact Text.isAlphanumeric_of_isDigit
          (Nat.isDigit_of_mem_toDigits (by decide) (by decide) digit)
    rw [Lexer.continuesName, word, Bool.true_or, Bool.true_or, Bool.true_or]
  obtain ⟨first, others, column⟩ := List.exists_cons_of_ne_nil (Address.columnChars_ne_nil a.col)
  rw [column] at letters continues ⊢
  rw [List.cons_append, Lexer.isName, Lexer.startsName, letters first List.mem_cons_self]
  exact List.all_eq_true.mpr fun c member => continues c (List.mem_cons_of_mem _ member)

theorem tokens_localText (a : Address) :
    Lexer.tokens a.localText.toList = .ok [.identifier a.localText] :=
  Lexer.tokens_spelling_end (t := .identifier a.localText) (isName_localText a)

theorem strayStart?_cons {first : Char} {others : List Char}
    (plain : isPlainSheet (first :: others)) :
    strayStart? (first :: others) = if Lexer.startsName first then none else some first := by
  rw [strayStart?, if_pos plain, List.head?_cons, Option.filter_some]
  cases Lexer.startsName first <;> rfl

theorem isPlainSheet_of_strayStart? {sheet : List Char} {c : Char}
    (h : strayStart? sheet = some c) :
    isPlainSheet sheet := by
  by_contra quoted
  rw [strayStart?, if_neg quoted] at h
  cases h

/-- A sheet name without apostrophes is a name, unless it starts astray. -/
theorem isName_of_isPlainSheet {sheet : List Char} (plain : isPlainSheet sheet)
    (h : strayStart? sheet = none) : Lexer.isName sheet := by
  cases sheet with
  | nil => cases plain
  | cons first others =>
      rw [strayStart?_cons plain, ite_eq_left_iff] at h
      have starts : Lexer.startsName first = true := by
        by_contra stray
        cases h stray
      rw [isPlainSheet, List.all_cons, Bool.and_eq_true, Bool.and_eq_true] at plain
      rw [Lexer.isName, starts, Bool.true_and, List.all_eq_true]
      intro c member
      have word := List.all_eq_true.mp plain.2.2 c member
      rw [Lexer.continuesName, word, Bool.true_or, Bool.true_or]

/-- The lexer stops at the start of a name that starts astray. -/
theorem tokens_of_strayStart? {sheet : List Char} {c : Char} (h : strayStart? sheet = some c)
    (rest : List Char) :
    Lexer.tokens (sheet ++ rest) = .error (.unexpectedCharacter c, (sheet ++ rest).length) := by
  have plain := isPlainSheet_of_strayStart? h
  cases sheet with
  | nil => cases plain
  | cons first others =>
      rw [strayStart?_cons plain, ite_eq_iff] at h
      obtain ⟨stray, rfl⟩ : ¬ Lexer.startsName first ∧ first = c := by simpa using h
      rw [isPlainSheet, List.all_cons, Bool.and_eq_true, Bool.and_eq_true, Bool.or_eq_true,
        beq_iff_eq] at plain
      -- An underscore starts a name, so that the character can only be a number sign.
      have word : Text.isAlphanumeric first := by
        refine plain.2.1.resolve_right ?_
        rintro rfl
        exact stray (by decide)
      have digit : (first.isDigit || first == '.') = false := by
        have point : (first == '.') = false := by
          rw [beq_eq_false_iff_ne]
          rintro rfl
          exact absurd word (by decide)
        rw [point, Bool.or_false, ← Bool.not_eq_true']
        exact plain.1
      have wordlike := Lexer.isWordlike_of_isAlphanumeric word
      have shown : (first :: others ++ rest).dropWhile Text.isBlank = first :: (others ++ rest) :=
        List.dropWhile_cons_of_neg (by simp [wordlike.not_isBlank])
      rw [Lexer.tokens_of_cons shown, Lexer.token_of_notMem_marks wordlike.notMem_marks, digit,
        if_neg Bool.false_ne_true, if_neg stray]
      rfl

theorem tokens_text (h : strayStart? a.sheet.toList = none) :
    Lexer.tokens a.text.toList = .ok [.sheet a.sheet, .identifier a.localText] := by
  rw [Address.toList_text, sheetText]
  cases plain : isPlainSheet a.sheet.toList with
  | true =>
      rw [if_pos rfl, Lexer.tokens_plainSheet (isName_of_isPlainSheet plain h), tokens_localText,
        String.ofList_toList]
      rfl
  | false =>
      have spelled : (Token.sheet a.sheet).spelling ++ a.localText.toList =
          Text.delimited '\'' a.sheet.toList ++ '!' :: a.localText.toList := by
        simp [Token.spelling]
      have read : Lexer.tokens ((Token.sheet a.sheet).spelling ++ a.localText.toList) = _ :=
        Lexer.tokens_spelling rfl fun c _ => rfl
      rw [spelled, tokens_localText] at read
      rw [if_neg Bool.false_ne_true, String.toList_ofList]
      exact read

open Grammar in
/-- The tokens of an address are the reference to its cell. -/
theorem parseTokens_reference (h : a.InBounds) (owner : String) :
    parseTokens [.sheet a.sheet, .identifier a.localText] owner = .ok (.cell a) := by
  refine Parser.parseTokens_eq_ok_iff_exists.mpr ?_
  let place : Corner := ⟨some a.sheet, a.localText, a.row, a.col, h.parseLocal?_localText⟩
  let operand : Derivation owner 0 := .percents (.leaf (.cell place)) 0
  exact ⟨operand.operand.operand.operand.operand.operand, rfl, rfl⟩

/-- The text of an address does not start like a formula that is entered. -/
theorem head?_text_ne (a : Address) : a.text.toList.head? ≠ some '=' := by
  rw [Address.toList_text, sheetText]
  cases plain : isPlainSheet a.sheet.toList with
  | true =>
      obtain ⟨first, others, sheet, -⟩ := Address.exists_cons_of_isPlainSheet plain
      rw [if_pos rfl, sheet]
      intro same
      rw [Option.some.inj same] at sheet
      rw [sheet, isPlainSheet, List.all_cons, Bool.and_eq_true, Bool.and_eq_true] at plain
      exact absurd plain.2.1 (by decide)
  | false => simp [Text.delimited]

/-- The text of an address is the reference to its cell, in a formula on any sheet, unless its sheet
starts astray. -/
theorem parse_text (a : Address) (h : a.InBounds) (owner : String) :
    parse a.text owner =
      match strayStart? a.sheet.toList with
      | none => .ok (.cell a)
      | some c => .error ⟨.lexical (.unexpectedCharacter c), 0⟩ := by
  rw [parse, tokenize_eq, behindEqual_of_head?_ne (head?_text_ne a)]
  cases stray : strayStart? a.sheet.toList with
  | none =>
      rw [tokens_text stray]
      exact parseTokens_reference h owner
  | some c =>
      have plain : isPlainSheet a.sheet.toList := isPlainSheet_of_strayStart? stray
      have spelled : a.text.toList = a.sheet.toList ++ '!' :: a.localText.toList := by
        rw [Address.toList_text, sheetText, if_pos plain]
      rw [spelled, tokens_of_strayStart? stray]
      simp only [Nat.sub_self]

/-- A cell of a sheet that is called 2024 in digits of another script. -/
def foreignYear : Address :=
  ⟨"٢٠٢٤", 0, 0⟩

/-- The reference to such a cell cannot be entered as it is shown. -/
theorem foreignYear_parse_text : foreignYear.InBounds ∧ foreignYear.text = "٢٠٢٤!A1" ∧
    parse foreignYear.text "Sheet1" = .error ⟨.lexical (.unexpectedCharacter '٢'), 0⟩ := by
  have inBounds : foreignYear.InBounds := ⟨by decide, by decide⟩
  have start : strayStart? foreignYear.sheet.toList = some '٢' := by decide +kernel
  have reading := parse_text foreignYear inBounds "Sheet1"
  rw [start] at reading
  exact ⟨inBounds, by decide +kernel, reading⟩

end Formula

end SheetCompiler
