import SheetCompiler.Formula.Lexer
import SheetCompiler.Proofs.Address.Reading

/-!
# Spelled tokens

The characters of a token, and how they are read back. A token ends where a character stands that it
cannot go on with, so that the spellings of two tokens need a blank between them only where the
first would swallow the start of the second. Main statement: tokens written one after the other,
with a blank between any two, are read back as they were.
-/

namespace SheetCompiler

namespace Text

/-- No code point lies in ranges of both tables. -/
def apart (ranges others : List (Nat × Nat)) : Bool :=
  ranges.all fun r => others.all fun s => r.2.blt s.1 || s.2.blt r.1

theorem exists_mem_of_inRanges {n : Nat} {ranges : List (Nat × Nat)} (h : inRanges n ranges) :
    ∃ r ∈ ranges, r.1 ≤ n ∧ n ≤ r.2 := by
  induction ranges with
  | nil => cases h
  | cons r rest ih =>
      simp only [inRanges, Bool.and_eq_true, Bool.or_eq_true, decide_eq_true_eq] at h
      rcases h with ⟨above, below | later⟩
      · exact ⟨r, List.mem_cons_self, above, below⟩
      · obtain ⟨s, member, within⟩ := ih later
        exact ⟨s, List.mem_cons_of_mem _ member, within⟩

theorem not_inRanges_of_apart {n : Nat} {ranges others : List (Nat × Nat)}
    (h : apart ranges others) (within : inRanges n ranges) : inRanges n others = false := by
  rw [← Bool.not_eq_true]
  intro within'
  obtain ⟨r, member, low, high⟩ := exists_mem_of_inRanges within
  obtain ⟨s, member', low', high'⟩ := exists_mem_of_inRanges within'
  have order := List.all_eq_true.mp (List.all_eq_true.mp h r member) s member'
  simp only [Bool.or_eq_true, Nat.blt_eq] at order
  omega

theorem not_isBlank_of_isAlphanumeric {c : Char} (h : isAlphanumeric c) : isBlank c = false := by
  have letters : apart alphabeticRanges blankRanges := by decide +kernel
  have numbers : apart numericRanges blankRanges := by decide +kernel
  rcases Bool.or_eq_true_iff.mp h with letter | number
  · exact not_inRanges_of_apart letters letter
  · exact not_inRanges_of_apart numbers number

theorem isAlphanumeric_of_isDigit {c : Char} (h : c.isDigit) : isAlphanumeric c := by
  obtain ⟨low, high⟩ : 0x30 ≤ c.toNat ∧ c.toNat ≤ 0x39 := Char.isDigit_iff_toNat.mp h
  have number : isNumeric c := by
    -- The digits are the first range of the table.
    change inRanges c.toNat ((0x30, 0x39) :: numericRanges.tail) = true
    rw [inRanges_cons, decide_eq_true low, decide_eq_true high]
    rfl
  rw [isAlphanumeric, number, Bool.or_true]

theorem isAlphabetic_of_isAlpha {c : Char} (h : c.isAlpha) : isAlphabetic c := by
  have range : 0x41 ≤ c.toNat ∧ c.toNat ≤ 0x5A ∨ 0x61 ≤ c.toNat ∧ c.toNat ≤ 0x7A :=
    Text.isAlpha_iff_toNat.mp h
  -- The letters of ASCII are the first two ranges of the table.
  change inRanges c.toNat ((0x41, 0x5A) :: (0x61, 0x7A) :: alphabeticRanges.tail.tail) = true
  simp only [inRanges_cons, Bool.and_eq_true, Bool.or_eq_true, decide_eq_true_eq]
  omega

end Text

namespace Formula.Lexer

section Tokens

/-- The characters that are a token by themselves or open one that is neither a numeral nor a
name. -/
def marks : List Char :=
  ['(', ')', ',', ':', '+', '-', '*', '/', '^', '&', '%', '=', '<', '>', '"', '\'']

variable {c : Char} {cs : List Char}

theorem singleToken?_eq_none (h : c ∉ marks) : singleToken? c = none := by
  unfold singleToken?
  split
  case h_13 => rfl
  all_goals exact absurd (by decide) h

/-- Any other character starts a numeral, a name or nothing. -/
theorem token_of_notMem_marks (h : c ∉ marks) (cs : List Char) : token c cs =
    if c.isDigit || c == '.' then numberToken c cs
    else if startsName c then .ok (nameToken c cs)
    else .error (.unexpectedCharacter c, cs.length + 1) := by
  have different : ∀ mark ∈ marks, c ≠ mark := fun mark member same => h (same ▸ member)
  rw [token, singleToken?_eq_none h]
  simp only
  rw [if_neg (different '"' (by decide)), if_neg (different '\'' (by decide)),
    if_neg (different '<' (by decide)), if_neg (different '>' (by decide))]

/-- The character is neither skipped nor one of the marks. -/
structure IsWordlike (c : Char) : Prop where
  not_isBlank : Text.isBlank c = false
  notMem_marks : c ∉ marks

theorem isWordlike_of_isAlphanumeric (h : Text.isAlphanumeric c) : IsWordlike c := by
  refine ⟨Text.not_isBlank_of_isAlphanumeric h, fun mark => ?_⟩
  have others : marks.all fun m => !Text.isAlphanumeric m := by decide
  have other := List.all_eq_true.mp others c mark
  rw [h] at other
  cases other

theorem isWordlike_of_startsName (h : startsName c) : IsWordlike c := by
  simp only [startsName, Bool.or_eq_true, beq_iff_eq] at h
  rcases h with (letter | rfl) | rfl
  · exact isWordlike_of_isAlphanumeric (by rw [Text.isAlphanumeric, letter, Bool.true_or])
  · exact ⟨by decide, by decide⟩
  · exact ⟨by decide, by decide⟩

theorem tokens_of_nil (h : cs.dropWhile Text.isBlank = []) : tokens cs = .ok [] := by
  rw [tokens]
  split
  case h_1 => rfl
  case h_2 c rest found =>
    rw [h] at found
    cases found

theorem tokens_nil : tokens [] = .ok [] :=
  tokens_of_nil rfl

/-- Behind the blanks the first token is read, and then the others. -/
theorem tokens_of_cons {rest : List Char} (h : cs.dropWhile Text.isBlank = c :: rest) :
    tokens cs = (token c rest).bind fun read => (tokens read.2).map (read.1 :: ·) := by
  rw [tokens]
  split
  case h_1 none =>
    rw [h] at none
    cases none
  case h_2 c' rest' found =>
    obtain ⟨rfl, rfl⟩ := List.cons.inj (h.symm.trans found)
    split
    case h_1 e failed =>
      rw [failed]
      rfl
    case h_2 t after read =>
      simp only [read, Except.bind]
      cases tokens after <;> rfl

theorem tokens_blank (h : Text.isBlank c) (cs : List Char) : tokens (c :: cs) = tokens cs := by
  have dropped : (c :: cs).dropWhile Text.isBlank = cs.dropWhile Text.isBlank :=
    List.dropWhile_cons_of_pos h
  cases rest : cs.dropWhile Text.isBlank with
  | nil => rw [tokens_of_nil (dropped.trans rest), tokens_of_nil rest]
  | cons d rest' => rw [tokens_of_cons (dropped.trans rest), tokens_of_cons rest]

end Tokens

section Spellings

/-- The characters are a name. -/
def isName : List Char → Bool
  | [] => false
  | first :: rest => startsName first && rest.all continuesName

/-- What starts a name starts no numeral. -/
theorem not_startsNumeral_of_startsName {c : Char} (h : startsName c) :
    (c.isDigit || c == '.') = false := by
  rw [← Bool.not_eq_true, Bool.or_eq_true, beq_iff_eq]
  intro numeral
  simp only [startsName, Bool.or_eq_true, beq_iff_eq] at h
  rcases h with (letter | rfl) | rfl
  · have letters : Text.apart Text.alphabeticRanges [(0x2E, 0x39)] := by decide +kernel
    have other := Text.not_inRanges_of_apart letters letter
    rcases numeral with digit | rfl
    · obtain ⟨low, high⟩ : 0x30 ≤ c.toNat ∧ c.toNat ≤ 0x39 := Char.isDigit_iff_toNat.mp digit
      simp [high] at other
      omega
    · cases other
  · revert numeral
    decide
  · revert numeral
    decide

theorem token_name {first : Char} (h : startsName first) (cs : List Char) :
    token first cs = .ok (nameToken first cs) := by
  rw [token_of_notMem_marks (isWordlike_of_startsName h).notMem_marks,
    not_startsNumeral_of_startsName h, if_neg Bool.false_ne_true, if_pos h]

theorem nameToken_bang {first : Char} {others : List Char} (h : others.all continuesName)
    (rest : List Char) : nameToken first (others ++ '!' :: rest) =
      (.sheet (String.ofList (first :: others)), rest) := by
  have stop : ∀ c, ('!' :: rest).head? = some c → continuesName c = false := by
    intro c same
    rw [← Option.some.inj same]
    decide
  obtain ⟨taken, dropped⟩ := Address.span_append (List.all_eq_true.mp h) stop
  rw [nameToken, taken, dropped]
  rfl

theorem nameToken_end {first : Char} {others rest : List Char} (h : others.all continuesName)
    (stop : ∀ c, rest.head? = some c → continuesName c = false ∧ c ≠ '!') :
    nameToken first (others ++ rest) = (.identifier (String.ofList (first :: others)), rest) := by
  obtain ⟨taken, dropped⟩ := Address.span_append (List.all_eq_true.mp h) fun c same =>
    (stop c same).1
  rw [nameToken, taken, dropped]
  split
  case h_1 after => exact absurd rfl (stop '!' rfl).2
  case h_2 => rfl

/-- The character lets a numeral go on. -/
def continuesNumeral (c : Char) : Bool :=
  c.isDigit || c == '.' || c == 'e' || c == 'E'

theorem numeral_append {digits rest : List Char} (h : ∀ d ∈ digits, d.isDigit)
    (stop : ∀ c, rest.head? = some c → continuesNumeral c = false) :
    numeral (digits ++ rest) = ⟨digits, [], [], rest⟩ := by
  have ends : ∀ c, rest.head? = some c → c.isDigit = false := by
    intro c same
    have other := stop c same
    simp only [continuesNumeral, Bool.or_eq_false_iff] at other
    exact other.1.1.1
  obtain ⟨taken, dropped⟩ := Address.span_append h ends
  rw [numeral, taken, dropped]
  cases rest with
  | nil => rfl
  | cons c rest =>
      have other := stop c rfl
      simp only [continuesNumeral, Bool.or_eq_false_iff, beq_eq_false_iff_ne] at other
      simp [spanFraction, spanExponent, other]

/-- Digits whose value fits 64 bits are an integer. -/
theorem token_digits {first : Char} {others rest : List Char}
    (h : ∀ d ∈ first :: others, d.isDigit)
    (fits : (Decimal.digitsValue (first :: others) : Int) ≤ Int64.maxValue.toInt)
    (stop : ∀ c, rest.head? = some c → continuesNumeral c = false) :
    token first (others ++ rest) =
      .ok (.integer (.ofNat (Decimal.digitsValue (first :: others))), rest) := by
  have digit : first.isDigit := h first List.mem_cons_self
  have word := isWordlike_of_isAlphanumeric (Text.isAlphanumeric_of_isDigit digit)
  have read : numeral (first :: (others ++ rest)) = ⟨first :: others, [], [], rest⟩ :=
    numeral_append h stop
  rw [token_of_notMem_marks word.notMem_marks, digit, Bool.true_or, if_pos rfl, numberToken, read]
  simp [Numeral.token?, fits]

theorem token_text (cs : List Char) {rest : List Char} (stop : rest.head? ≠ some '"') :
    token '"' (Text.doubled '"' cs ++ '"' :: rest) = .ok (.text (String.ofList cs), rest) := by
  change textToken _ = _
  rw [textToken, Text.readDelimited_doubled _ _ _ stop]

theorem token_quotedSheet (cs rest : List Char) :
    token '\'' (Text.doubled '\'' cs ++ '\'' :: '!' :: rest) =
      .ok (.sheet (String.ofList cs), rest) := by
  change quotedSheet _ = _
  rw [quotedSheet, Text.readDelimited_doubled '\'' cs ('!' :: rest) (by simp)]
  rfl

end Spellings

end Formula.Lexer

namespace Formula

/-- The characters of a token in a formula. -/
def Token.spelling : Token → List Char
  | .integer i => (integerText i.toInt).toList
  | .number x => (Decimal.NumberStyle.literal.write x).toList
  | .text s => Text.delimited '"' s.toList
  | .identifier name => name.toList
  | .sheet name => Text.delimited '\'' name.toList ++ ['!']
  | .operator sign => sign.text.toList
  | .openParen => ['(']
  | .closeParen => [')']
  | .comma => [',']
  | .colon => [':']

/-- The spelling of the token is that of no other tokens: a number has several spellings, and a sign
before digits is a token of its own. -/
def Token.isSpellable : Token → Bool
  | .integer i => 0 ≤ i
  | .number _ => false
  | .identifier name => Lexer.isName name.toList
  | _ => true

/-- The token would be another one if the character stood behind it. -/
def Token.growsWith : Token → Char → Bool
  | .integer _, c => Lexer.continuesNumeral c
  | .text _, c => c == '"'
  | .identifier _, c => Lexer.continuesName c || c == '!'
  | .operator .less, c => c == '=' || c == '>'
  | .operator .greater, c => c == '='
  | _, _ => false

/-- The text of a formula made of tokens, with a blank between any two. -/
def formulaText (ts : List Token) : String :=
  String.ofList ('=' :: [' '].intercalate (ts.map Token.spelling))

namespace Lexer

variable {t : Token} {rest : List Char}

/-- A token is read, and then what stands behind it. -/
theorem tokens_cons {c : Char} {cs : List Char} (shown : Text.isBlank c = false)
    (read : token c cs = .ok (t, rest)) : tokens (c :: cs) = (tokens rest).map (t :: ·) := by
  have first : (c :: cs).dropWhile Text.isBlank = c :: cs :=
    List.dropWhile_cons_of_neg (by simp [shown])
  rw [tokens_of_cons first, read]
  rfl

theorem tokens_integer {i : Int64} (h : 0 ≤ i)
    (stop : ∀ c, rest.head? = some c → continuesNumeral c = false) :
    tokens ((integerText i.toInt).toList ++ rest) = (tokens rest).map (.integer i :: ·) := by
  obtain ⟨n, value⟩ := Int.eq_ofNat_of_zero_le (Int64.le_iff_toInt_le.mp h)
  have spelled : (integerText i.toInt).toList = Nat.toDigits 10 n := by
    have unsigned : ¬ (n : Int) < 0 := by omega
    rw [integerText, value, if_neg unsigned, String.toList_ofList]
    rfl
  have valued : Decimal.digitsValue (Nat.toDigits 10 n) = n := Nat.ofDigitChars_ten_toDigits
  have same : Int64.ofNat n = i := by
    rw [← Int64.ofInt_eq_ofNat, ← value, Int64.ofInt_toInt]
  have isDigit : ∀ d ∈ Nat.toDigits 10 n, d.isDigit := fun d =>
    Nat.isDigit_of_mem_toDigits (by decide) (by decide)
  obtain ⟨first, others, digits⟩ :=
    List.exists_cons_of_ne_nil (Nat.toDigits_ne_nil (b := 10) (n := n))
  rw [digits] at valued isDigit
  have fits : (Decimal.digitsValue (first :: others) : Int) ≤ Int64.maxValue.toInt := by
    rw [valued, ← value]
    exact i.toInt_le
  have read := token_digits isDigit fits stop
  rw [valued, same] at read
  have word := isWordlike_of_isAlphanumeric
    (Text.isAlphanumeric_of_isDigit (isDigit first List.mem_cons_self))
  rw [spelled, digits]
  exact tokens_cons word.not_isBlank read

theorem tokens_operator (sign : Sign)
    (stop : ∀ c, rest.head? = some c → (Token.operator sign).growsWith c = false) :
    tokens (sign.text.toList ++ rest) = (tokens rest).map (.operator sign :: ·) := by
  cases sign with
  | less =>
      refine tokens_cons (by decide) ?_
      change Except.ok (lessSign rest) = _
      unfold lessSign
      split
      case h_1 after => exact absurd (stop '=' rfl) (by decide)
      case h_2 after => exact absurd (stop '>' rfl) (by decide)
      case h_3 => rfl
  | greater =>
      refine tokens_cons (by decide) ?_
      change Except.ok (greaterSign rest) = _
      unfold greaterSign
      split
      case h_1 after => exact absurd (stop '=' rfl) (by decide)
      case h_2 => rfl
  | _ => exact tokens_cons (by decide) rfl

theorem exists_cons_of_isName {cs : List Char} (h : isName cs) :
    ∃ first others, cs = first :: others ∧ startsName first ∧ others.all continuesName := by
  cases cs with
  | nil => cases h
  | cons first others => exact ⟨first, others, rfl, Bool.and_eq_true_iff.mp h⟩

theorem tokens_identifier {cs : List Char} (h : isName cs)
    (stop : ∀ c, rest.head? = some c → continuesName c = false ∧ c ≠ '!') :
    tokens (cs ++ rest) = (tokens rest).map (.identifier (String.ofList cs) :: ·) := by
  obtain ⟨first, others, rfl, starts, continues⟩ := exists_cons_of_isName h
  have read := token_name starts (others ++ rest)
  rw [nameToken_end continues stop] at read
  exact tokens_cons (isWordlike_of_startsName starts).not_isBlank read

/-- A name before `!` is a sheet that needs no apostrophes. -/
theorem tokens_plainSheet {cs : List Char} (h : isName cs) (rest : List Char) :
    tokens (cs ++ '!' :: rest) = (tokens rest).map (.sheet (String.ofList cs) :: ·) := by
  obtain ⟨first, others, rfl, starts, continues⟩ := exists_cons_of_isName h
  have read := token_name starts (others ++ '!' :: rest)
  rw [nameToken_bang continues] at read
  exact tokens_cons (isWordlike_of_startsName starts).not_isBlank read

/-- The spelling of a token is read as the token, up to the first character that cannot belong to
it. -/
theorem tokens_spelling (h : t.isSpellable)
    (stop : ∀ c, rest.head? = some c → t.growsWith c = false) :
    tokens (t.spelling ++ rest) = (tokens rest).map (t :: ·) := by
  cases t with
  | integer i => exact tokens_integer (of_decide_eq_true h) stop
  | number x => cases h
  | text s =>
      have opened : (Token.text s).spelling ++ rest =
          '"' :: (Text.doubled '"' s.toList ++ '"' :: rest) := by
        simp [Token.spelling, Text.delimited]
      have closed : rest.head? ≠ some '"' := by
        intro quote
        have grows : (Token.text s).growsWith '"' = true := rfl
        rw [stop '"' quote] at grows
        cases grows
      rw [opened, tokens_cons (by decide) (token_text s.toList closed), String.ofList_toList]
  | identifier name =>
      have ends : ∀ c, rest.head? = some c → continuesName c = false ∧ c ≠ '!' := by
        intro c next
        have other : (continuesName c || c == '!') = false := stop c next
        rwa [Bool.or_eq_false_iff, beq_eq_false_iff_ne] at other
      rw [Token.spelling, tokens_identifier h ends, String.ofList_toList]
  | sheet name =>
      have opened : (Token.sheet name).spelling ++ rest =
          '\'' :: (Text.doubled '\'' name.toList ++ '\'' :: '!' :: rest) := by
        simp [Token.spelling, Text.delimited]
      rw [opened, tokens_cons (by decide) (token_quotedSheet name.toList rest),
        String.ofList_toList]
  | operator sign => exact tokens_operator sign stop
  | openParen => exact tokens_cons (by decide) rfl
  | closeParen => exact tokens_cons (by decide) rfl
  | comma => exact tokens_cons (by decide) rfl
  | colon => exact tokens_cons (by decide) rfl

theorem tokens_spelling_end (h : t.isSpellable) : tokens t.spelling = .ok [t] := by
  have read : tokens (t.spelling ++ []) = _ := tokens_spelling h nofun
  rw [List.append_nil, tokens_nil] at read
  exact read

/-- A blank ends every token. -/
theorem not_growsWith_blank (t : Token) : t.growsWith ' ' = false := by
  cases t with
  | operator sign => cases sign <;> rfl
  | identifier name =>
      change (continuesName ' ' || ' ' == '!') = false
      decide
  | _ => rfl

/-- Tokens are read back from their spellings, with blanks between them. -/
theorem tokens_intercalate {ts : List Token} (h : ∀ t ∈ ts, t.isSpellable) :
    tokens ([' '].intercalate (ts.map Token.spelling)) = .ok ts := by
  induction ts with
  | nil => exact tokens_nil
  | cons t others ih =>
      rw [List.forall_mem_cons] at h
      cases others with
      | nil =>
          rw [List.map_singleton, List.intercalate_singleton]
          exact tokens_spelling_end h.1
      | cons u more =>
          have stop : ∀ c,
              (' ' :: [' '].intercalate ((u :: more).map Token.spelling)).head? = some c →
              t.growsWith c = false := by
            intro c next
            rw [← Option.some.inj next]
            exact not_growsWith_blank t
          have first := tokens_spelling h.1 stop
          rw [tokens_blank (by decide), ih h.2] at first
          rw [List.map_cons, List.map_cons, List.intercalate_cons_cons, List.append_assoc]
          exact first

end Lexer

/-- The characters of a formula behind the `=` that may stand first. -/
def behindEqual : List Char → List Char
  | '=' :: rest => rest
  | rest => rest

theorem behindEqual_of_head?_ne {cs : List Char} (h : cs.head? ≠ some '=') :
    behindEqual cs = cs := by
  unfold behindEqual
  split
  case h_1 => exact absurd rfl h
  case h_2 => rfl

/-- The equation of cutting, with the characters that are cut named. -/
theorem tokenize_eq (formula : String) : tokenize formula =
    match Lexer.tokens (behindEqual formula.toList) with
    | .ok ts => .ok ts
    | .error (fault, left) => .error ⟨fault, (behindEqual formula.toList).length - left⟩ :=
  rfl

/-- A formula is cut into the tokens it was written from. -/
theorem tokenize_formulaText (ts : List Token) (h : ∀ t ∈ ts, t.isSpellable) :
    tokenize (formulaText ts) = .ok ts := by
  rw [tokenize_eq, formulaText, String.toList_ofList, behindEqual, Lexer.tokens_intercalate h]

/-- Tokens that would be others without the blanks between them. -/
def crowdedTokens : List Token :=
  [.operator .equal, .operator .less, .operator .greater, .operator .equal, .sheet "It's '5'!",
    .identifier "$É.9", .sheet "", .identifier "_", .text "say \"\"", .text "",
    .integer Int64.maxValue, .operator .percent, .integer 0, .openParen, .closeParen, .comma,
    .colon]

theorem crowdedTokens_tokenize :
    formulaText crowdedTokens =
      "== < > = 'It''s ''5''!'! $É.9 ''! _ \"say \"\"\"\"\" \"\" 9223372036854775807 % 0 ( ) , :" ∧
    tokenize (formulaText crowdedTokens) = .ok crowdedTokens :=
  ⟨by decide +kernel, tokenize_formulaText crowdedTokens (by decide +kernel)⟩

end Formula

end SheetCompiler
