import SheetCompiler.Decimal.Reading
import SheetCompiler.Formula.Token
import SheetCompiler.Text.Blank
import SheetCompiler.Text.Delimited
import SheetCompiler.Text.Numeric

/-!
# Reading tokens

A formula is cut into tokens from left to right, white space between them being dropped and one
leading `=` ignored. Faults are reported at the number of characters read before them.
-/

namespace SheetCompiler.Formula

/-- Why a formula has no tokens. -/
inductive LexicalFault where
  | unexpectedCharacter (c : Char)
  | unterminatedText
  | unterminatedSheet
  | missingBang
  | invalidNumber (spelling : String)
deriving DecidableEq

/-- The fault in words. -/
def LexicalFault.message : LexicalFault → String
  | unexpectedCharacter c => "Unexpected character: '" ++ c.toString ++ "'"
  | unterminatedText => "Unterminated string literal"
  | unterminatedSheet => "Unterminated sheet name"
  | missingBang => "Expected '!' after quoted sheet name"
  | invalidNumber spelling => "Invalid number: " ++ spelling

/-- A fault and where it stands. -/
structure LexicalError where
  fault : LexicalFault
  /-- The number of characters before it. -/
  position : Nat
deriving DecidableEq

/-- The error in words. -/
def LexicalError.text (e : LexicalError) : String :=
  "Tokenize error at position " ++ toString e.position ++ ": " ++ e.fault.message

namespace Lexer

/-- A fault together with the number of characters that are left where it stands. -/
abbrev Reading (α : Type) := Except (LexicalFault × Nat) α

/-- The first character of a name. -/
def startsName (c : Char) : Bool :=
  Text.isAlphabetic c || c == '_' || c == '$'

/-- A later character of a name. -/
def continuesName (c : Char) : Bool :=
  Text.isAlphanumeric c || c == '_' || c == '.' || c == '$'

/-- The digits behind a point. -/
def spanFraction (cs : List Char) : List Char × List Char :=
  match cs with
  | '.' :: rest => ('.' :: rest.takeWhile Char.isDigit, rest.dropWhile Char.isDigit)
  | rest => ([], rest)

/-- The digits behind an exponent mark, with their sign. The mark alone counts too. -/
def spanExponent (cs : List Char) : List Char × List Char :=
  match cs with
  | [] => ([], [])
  | mark :: rest =>
    if mark == 'e' || mark == 'E' then
      match rest with
      | '+' :: ds => (mark :: '+' :: ds.takeWhile Char.isDigit, ds.dropWhile Char.isDigit)
      | '-' :: ds => (mark :: '-' :: ds.takeWhile Char.isDigit, ds.dropWhile Char.isDigit)
      | ds => (mark :: ds.takeWhile Char.isDigit, ds.dropWhile Char.isDigit)
    else
      ([], mark :: rest)

/-- The numeral at the start of the characters in three parts, and what follows it. -/
structure Numeral where
  whole : List Char
  fraction : List Char
  exponent : List Char
  rest : List Char

/-- Cuts off the numeral at the start of the characters. -/
def numeral (cs : List Char) : Numeral :=
  let afterWhole := cs.dropWhile Char.isDigit
  let fraction := spanFraction afterWhole
  let exponent := spanExponent fraction.2
  ⟨cs.takeWhile Char.isDigit, fraction.1, exponent.1, exponent.2⟩

/-- The token of a numeral. Digits alone are an integer while they fit 64 bits; everything else is a
finite number or no numeral at all. -/
def Numeral.token? (n : Numeral) : Option Token :=
  let number := (Decimal.readFinite? (String.ofList (n.whole ++ n.fraction ++ n.exponent))).map
    Token.number
  if n.fraction.isEmpty && n.exponent.isEmpty && !n.whole.isEmpty then
    let value := Decimal.digitsValue n.whole
    if (value : Int) ≤ Int64.maxValue.toInt then some (.integer (.ofNat value)) else number
  else
    number

/-- The comparison sign that starts with `<`. -/
def lessSign (cs : List Char) : Token × List Char :=
  match cs with
  | '=' :: rest => (.operator .lessEqual, rest)
  | '>' :: rest => (.operator .notEqual, rest)
  | rest => (.operator .less, rest)

/-- The comparison sign that starts with `>`. -/
def greaterSign (cs : List Char) : Token × List Char :=
  match cs with
  | '=' :: rest => (.operator .greaterEqual, rest)
  | rest => (.operator .greater, rest)

/-- The token of a single character. -/
def singleToken? : Char → Option Token
  | '(' => some .openParen
  | ')' => some .closeParen
  | ',' => some .comma
  | ':' => some .colon
  | '+' => some (.operator .plus)
  | '-' => some (.operator .minus)
  | '*' => some (.operator .times)
  | '/' => some (.operator .slash)
  | '^' => some (.operator .caret)
  | '&' => some (.operator .ampersand)
  | '%' => some (.operator .percent)
  | '=' => some (.operator .equal)
  | _ => none

/-- The text behind an opening double quote. -/
def textToken (cs : List Char) : Reading (Token × List Char) :=
  match Text.readDelimited '"' cs with
  | some (s, rest) => .ok (.text (String.ofList s), rest)
  | none => .error (.unterminatedText, cs.length + 1)

/-- The sheet name behind an opening apostrophe, with the `!` that has to follow. -/
def quotedSheet (cs : List Char) : Reading (Token × List Char) :=
  match Text.readDelimited '\'' cs with
  | some (s, '!' :: rest) => .ok (.sheet (String.ofList s), rest)
  | some (_, rest) => .error (.missingBang, rest.length)
  | none => .error (.unterminatedSheet, cs.length + 1)

/-- The numeral that starts with `c`. -/
def numberToken (c : Char) (cs : List Char) : Reading (Token × List Char) :=
  let n := numeral (c :: cs)
  match n.token? with
  | some token => .ok (token, n.rest)
  | none =>
    .error (.invalidNumber (String.ofList (n.whole ++ n.fraction ++ n.exponent)), cs.length + 1)

/-- The name that starts with `c`; a `!` behind it makes it a sheet. -/
def nameToken (c : Char) (cs : List Char) : Token × List Char :=
  let name := String.ofList (c :: cs.takeWhile continuesName)
  match cs.dropWhile continuesName with
  | '!' :: rest => (.sheet name, rest)
  | rest => (.identifier name, rest)

/-- The token that starts with `c`, where `cs` follows, and what is left behind it. -/
def token (c : Char) (cs : List Char) : Reading (Token × List Char) :=
  match singleToken? c with
  | some t => .ok (t, cs)
  | none =>
    if c = '"' then textToken cs
    else if c = '\'' then quotedSheet cs
    else if c = '<' then .ok (lessSign cs)
    else if c = '>' then .ok (greaterSign cs)
    else if c.isDigit || c == '.' then numberToken c cs
    else if startsName c then .ok (nameToken c cs)
    else .error (.unexpectedCharacter c, cs.length + 1)

theorem length_dropWhile_le (p : Char → Bool) (cs : List Char) :
    (cs.dropWhile p).length ≤ cs.length :=
  (List.dropWhile_sublist p).length_le

theorem spanFraction_length (cs : List Char) : (spanFraction cs).2.length ≤ cs.length := by
  unfold spanFraction
  split
  · have := length_dropWhile_le Char.isDigit
    grind
  · exact Nat.le_refl _

theorem spanExponent_length (cs : List Char) : (spanExponent cs).2.length ≤ cs.length := by
  have := length_dropWhile_le Char.isDigit
  unfold spanExponent
  split
  · exact Nat.le_refl _
  · split
    · split <;> grind
    · exact Nat.le_refl _

theorem numeral_rest_length {c : Char} (cs : List Char) (h : c.isDigit || c == '.') :
    (numeral (c :: cs)).rest.length ≤ cs.length := by
  refine Nat.le_trans (spanExponent_length _) ?_
  by_cases hd : c.isDigit
  · refine Nat.le_trans (spanFraction_length _) ?_
    rw [List.dropWhile_cons_of_pos hd]
    exact length_dropWhile_le _ _
  · have hc : c = '.' := by simpa [hd] using h
    subst hc
    rw [List.dropWhile_cons_of_neg (by decide)]
    exact length_dropWhile_le _ _

/-- A token takes at least its first character. -/
theorem token_rest_length {c : Char} {cs rest : List Char} {t : Token}
    (h : token c cs = .ok (t, rest)) : rest.length ≤ cs.length := by
  unfold token at h
  split at h
  · simp_all
  · split at h
    · unfold textToken at h
      split at h
      · have := Text.readDelimited_length (by assumption)
        simp_all
        omega
      · simp at h
    · split at h
      · unfold quotedSheet at h
        split at h
        · have := Text.readDelimited_length (by assumption)
          simp_all
          omega
        · simp at h
        · simp at h
      · split at h
        · unfold lessSign at h
          split at h <;> grind
        · split at h
          · unfold greaterSign at h
            split at h <;> grind
          · split at h
            · unfold numberToken at h
              have := numeral_rest_length cs (by assumption)
              grind
            · split at h
              · have := length_dropWhile_le continuesName cs
                unfold nameToken at h
                grind
              · simp at h

/-- What is left behind the first token is shorter than the characters. -/
theorem rest_length_lt {cs rest after : List Char} {c : Char} {t : Token}
    (hd : cs.dropWhile Text.isBlank = c :: rest) (ht : token c rest = .ok (t, after)) :
    after.length < cs.length := by
  have left := length_dropWhile_le Text.isBlank cs
  have taken := token_rest_length ht
  rw [hd, List.length_cons] at left
  omega

/-- The tokens of the characters. -/
def tokens (cs : List Char) : Reading (List Token) :=
  match hd : cs.dropWhile Text.isBlank with
  | [] => .ok []
  | c :: rest =>
    match ht : token c rest with
    | .error e => .error e
    | .ok (t, after) =>
      have := rest_length_lt hd ht
      match tokens after with
      | .error e => .error e
      | .ok ts => .ok (t :: ts)
termination_by cs.length

end Lexer

/-- The tokens of a formula, one leading `=` aside. -/
def tokenize (formula : String) : Except LexicalError (List Token) :=
  let cs := match formula.toList with
    | '=' :: rest => rest
    | rest => rest
  match Lexer.tokens cs with
  | .ok ts => .ok ts
  | .error (fault, left) => .error ⟨fault, cs.length - left⟩

end SheetCompiler.Formula
