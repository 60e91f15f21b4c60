import Mathlib.Tactic.SplitIfs
import SheetCompiler.Code.Render

/-!
# Text literals

A text is written between double quotes, with some of its characters escaped. Read by the escapes of
C#, the literal gives the text back, whatever stands behind it: an escape has a length of its own
and takes nothing from the characters that follow.
-/

namespace SheetCompiler.Code

/-- The value of a hexadecimal digit. -/
def hexValue? (c : Char) : Option Nat :=
  if '0' ≤ c ∧ c ≤ '9' then some (c.toNat - '0'.toNat)
  else if 'a' ≤ c ∧ c ≤ 'f' then some (c.toNat - 'a'.toNat + 10)
  else if 'A' ≤ c ∧ c ≤ 'F' then some (c.toNat - 'A'.toNat + 10)
  else none

/-- The character whose code point is spelled by hexadecimal digits. Half of a surrogate pair is no
character. -/
def codePoint? (digits : List Char) : Option Char := do
  let n ← digits.foldlM (fun n d => (hexValue? d).map (16 * n + ·)) 0
  if n.isValidChar then some (Char.ofNat n) else none

/-- The character that an escape of one sign stands for. -/
def escaped? (sign : Char) : Option Char :=
  [('"', '"'), ('\\', '\\'), ('n', '\n'), ('r', '\r'), ('t', '\t'), ('0', '\x00')].lookup sign

/-- The character that an escape stands for, read behind the backslash, and what follows it. -/
def readEscape : List Char → Option (Char × List Char)
  | [] => none
  | sign :: rest =>
    if sign = 'u' then
      if (rest.take 4).length = 4 then (codePoint? (rest.take 4)).map (·, rest.drop 4) else none
    else (escaped? sign).map (·, rest)

theorem length_of_readEscape {cs rest : List Char} {c : Char} (h : readEscape cs = some (c, rest)) :
    rest.length < cs.length := by
  cases cs with
  | nil => cases h
  | cons sign cs =>
      rw [readEscape] at h
      split_ifs at h
      · obtain ⟨c, -, same⟩ := Option.map_eq_some_iff.mp h
        cases same
        simp only [List.length_drop, List.length_cons]
        omega
      · obtain ⟨c, -, same⟩ := Option.map_eq_some_iff.mp h
        cases same
        exact Nat.lt_succ_self _

/-- A text that has been read, with a character before it. -/
def withFirst (c : Char) (reading : List Char × List Char) : List Char × List Char :=
  (c :: reading.1, reading.2)

/-- Reads on from behind an opening quote: the text up to the closing quote, and what follows it. -/
def readText (cs : List Char) : Option (List Char × List Char) :=
  match cs with
  | [] => none
  | c :: rest =>
    if c = '"' then some ([], rest)
    else if c = '\\' then
      match h : readEscape rest with
      | none => none
      | some (x, after) =>
        have := length_of_readEscape h
        (readText after).map (withFirst x)
    else (readText rest).map (withFirst c)
termination_by cs.length
decreasing_by all_goals simp only [List.length_cons]; omega

/-- The text of a literal: a quote, and behind it a text whose closing quote is the last
character. -/
def textOfLiteral? (literal : String) : Option String :=
  match literal.toList with
  | '"' :: rest =>
    match readText rest with
    | some (text, []) => some (String.ofList text)
    | _ => none
  | _ => none

/-- What may stand between two quotes: a backslash takes the character behind it, and no quote and
no backslash stands alone. -/
inductive Enclosed : List Char → Prop
  | nil : Enclosed []
  | plain {c : Char} {cs : List Char} : c ≠ '"' → c ≠ '\\' → Enclosed cs → Enclosed (c :: cs)
  | escape {c : Char} {cs : List Char} : Enclosed cs → Enclosed ('\\' :: c :: cs)

/-- The ways to write a character in a text literal. -/
inductive Written : Char → List Char → Prop
  | plain {c : Char} : c ≠ '"' → c ≠ '\\' → Written c [c]
  | sign {c e : Char} : escaped? e = some c → Written c ['\\', e]
  | point {c : Char} {digits : List Char} : digits.length = 4 →
      (∀ d ∈ digits, d ≠ '"' ∧ d ≠ '\\') → codePoint? digits = some c →
      Written c ('\\' :: 'u' :: digits)

section Characters

variable {c : Char} {cs rest : List Char}

/-- A control character is read from its four digits. -/
theorem codePoint?_of_lt : ∀ n < 0xA0, (fourHexDigits n).length = 4 ∧
    ((fourHexDigits n).all fun d => d ≠ '"' ∧ d ≠ '\\') ∧
    codePoint? (fourHexDigits n) = some (Char.ofNat n) := by
  decide +kernel

theorem written_charCode (c : Char) : Written c (charCode c) := by
  rw [charCode]
  split_ifs with quote backslash lineFeed carriageReturn tab zero control
  · subst quote
    exact .sign rfl
  · subst backslash
    exact .sign rfl
  · exact lineFeed ▸ .sign rfl
  · exact carriageReturn ▸ .sign rfl
  · exact tab ▸ .sign rfl
  · exact zero ▸ .sign rfl
  · have small : c.toNat < 0xA0 := by
      simp only [isControl, Bool.or_eq_true, Bool.and_eq_true, decide_eq_true_eq] at control
      omega
    obtain ⟨four, plain, read⟩ := codePoint?_of_lt c.toNat small
    rw [Char.ofNat_toNat] at read
    exact .point four (by simpa using plain) read
  · exact .plain quote backslash

theorem readText_escape {x : Char} {after : List Char} (h : readEscape cs = some (x, after)) :
    readText ('\\' :: cs) = (readText after).map (withFirst x) := by
  rw [readText, if_neg (by decide), if_pos rfl]
  split
  · case h_1 none =>
      rw [h] at none
      cases none
  · case h_2 found =>
      rw [h] at found
      cases found
      rfl

/-- A written character is read as what it stands for, and nothing of what follows is taken. -/
theorem readText_written (h : Written c cs) (rest : List Char) :
    readText (cs ++ rest) = (readText rest).map (withFirst c) := by
  cases h with
  | plain quote backslash => rw [List.singleton_append, readText, if_neg quote, if_neg backslash]
  | @sign e known =>
      have other : e ≠ 'u' := by
        rintro rfl
        cases known
      refine readText_escape ?_
      change readEscape (e :: rest) = _
      rw [readEscape, if_neg other, known]
      rfl
  | point four _ known =>
      refine readText_escape ?_
      change readEscape ('u' :: (_ ++ rest)) = _
      rw [readEscape, if_pos rfl, List.take_left' four, List.drop_left' four, if_pos four, known]
      rfl

theorem enclosed_append (plain : ∀ d ∈ cs, d ≠ '"' ∧ d ≠ '\\') (later : Enclosed rest) :
    Enclosed (cs ++ rest) := by
  induction cs with
  | nil => exact later
  | cons d ds ih =>
      rw [List.forall_mem_cons] at plain
      exact .plain plain.1.1 plain.1.2 (ih plain.2)

theorem enclosed_written (h : Written c cs) (later : Enclosed rest) : Enclosed (cs ++ rest) := by
  cases h with
  | plain quote backslash => exact .plain quote backslash later
  | sign known => exact .escape later
  | point _ plain _ => exact .escape (enclosed_append plain later)

end Characters

section Reading

variable {c x : Char} {cs text after : List Char}

theorem length_of_readText (h : readText cs = some (text, after)) : after.length ≤ cs.length := by
  fun_induction readText cs generalizing text with
  | case1 => cases h
  | case2 rest =>
      cases h
      exact Nat.le_succ _
  | case3 => cases h
  | case4 rest x later found shorter _ ih =>
      obtain ⟨⟨inside, after⟩, read, same⟩ := Option.map_eq_some_iff.mp h
      cases same
      exact Nat.le_succ_of_le (Nat.le_trans (ih read) (Nat.le_of_lt shorter))
  | case5 c rest _ _ ih =>
      obtain ⟨⟨inside, after⟩, read, same⟩ := Option.map_eq_some_iff.mp h
      cases same
      exact Nat.le_succ_of_le (ih read)

theorem readEscape_append (h : readEscape cs = some (x, after)) (rest : List Char) :
    readEscape (cs ++ rest) = some (x, after ++ rest) := by
  cases cs with
  | nil => cases h
  | cons sign cs =>
      rw [List.cons_append]
      rw [readEscape] at h ⊢
      split_ifs at h with point long
      · obtain ⟨c, known, same⟩ := Option.map_eq_some_iff.mp h
        cases same
        have within : 4 ≤ cs.length := by
          rw [List.length_take] at long
          omega
        rw [if_pos point, List.take_append_of_le_length within,
          List.drop_append_of_le_length within, if_pos long, known]
        rfl
      · obtain ⟨c, known, same⟩ := Option.map_eq_some_iff.mp h
        cases same
        rw [if_neg point, known]
        rfl

/-- What follows the closing quote is not looked at. -/
theorem readText_append (h : readText cs = some (text, after)) (rest : List Char) :
    readText (cs ++ rest) = some (text, after ++ rest) := by
  fun_induction readText cs generalizing text with
  | case1 => cases h
  | case2 later =>
      cases h
      rw [List.cons_append, readText, if_pos rfl]
  | case3 => cases h
  | case4 later x behind found _ _ ih =>
      obtain ⟨⟨inside, after⟩, read, same⟩ := Option.map_eq_some_iff.mp h
      cases same
      rw [List.cons_append, readText_escape (readEscape_append found rest), ih read]
      rfl
  | case5 c later quote backslash ih =>
      obtain ⟨⟨inside, after⟩, read, same⟩ := Option.map_eq_some_iff.mp h
      cases same
      rw [List.cons_append, readText, if_neg quote, if_neg backslash, ih read]
      rfl

end Reading

section Texts

/-- The characters of a text are read up to the first quote that is not escaped. -/
theorem readText_flatMap (text rest : List Char) :
    readText (text.flatMap charCode ++ '"' :: rest) = some (text, rest) := by
  induction text with
  | nil => rw [List.flatMap_nil, List.nil_append, readText, if_pos rfl]
  | cons c text ih =>
      rw [List.flatMap_cons, List.append_assoc, readText_written (written_charCode c), ih]
      rfl

theorem enclosed_flatMap (text : List Char) : Enclosed (text.flatMap charCode) := by
  induction text with
  | nil => exact .nil
  | cons c text ih =>
      rw [List.flatMap_cons]
      exact enclosed_written (written_charCode c) ih

theorem toList_textCode (s : String) :
    (textCode s).toList = '"' :: (s.toList.flatMap charCode ++ ['"']) := by
  rw [textCode, String.toList_ofList]

theorem textOfLiteral?_textCode (s : String) : textOfLiteral? (textCode s) = some s := by
  rw [textOfLiteral?, toList_textCode]
  simp only [readText_flatMap, String.ofList_toList]

/-- A text literal stands between two quotes, with no quote or backslash by itself inside, and is
read back as the text. Different texts have different literals. -/
theorem textCode_roundTrip :
    (∀ s, (∃ inside, (textCode s).toList = '"' :: (inside ++ ['"']) ∧ Enclosed inside) ∧
      textOfLiteral? (textCode s) = some s) ∧ Function.Injective textCode := by
  refine ⟨fun s => ⟨⟨_, toList_textCode s, enclosed_flatMap s.toList⟩, textOfLiteral?_textCode s⟩,
    ?_⟩
  intro s t same
  have read := textOfLiteral?_textCode s
  rw [same, textOfLiteral?_textCode t] at read
  exact (Option.some.inj read).symm

end Texts

end SheetCompiler.Code
