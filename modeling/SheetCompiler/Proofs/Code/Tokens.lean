import Mathlib.Tactic.SplitIfs
import SheetCompiler.Naming.Identifier
import SheetCompiler.Proofs.Code.TextLiteral

/-!
# Tokens of generated code

The text of an expression falls into names, words, numerals, text literals and marks, each as long
as it can be. Where a token ends depends on what follows, but a blank, a parenthesis, a comma or a
bracket never belongs to a token that has begun: a text is read in front of them as it is read
alone, and the tokens of the two parts stand one behind the other.
-/

namespace SheetCompiler.Code

/-- A mark of C#. -/
inductive Mark where
  | leftParen | rightParen | leftBrace | rightBrace | leftBracket | rightBracket
  | comma | question | colon | arrow | bang
  /-- The sign of an operator between two operands. The minus sign is a sign before an operand
  too. -/
  | operator (op : BinaryOp)
  /-- A mark that no expression is written with. -/
  | foreign (text : String)
deriving DecidableEq

/-- A word with a meaning of its own in an expression. -/
inductive Word where
  | null
  | truth (b : Bool)
  | new
  | type (t : ElementType)
deriving DecidableEq

/-- A token of C#. Names are taken with the names behind their dots. -/
inductive Token where
  | name (text : String)
  | word (w : Word)
  | numeral (text : String)
  | text (s : String)
  | mark (m : Mark)
deriving DecidableEq

/-- The marks as they are written, longer ones first. The last two of the longer ones open comments,
which no expression has. -/
def marks : List (List Char × Mark) :=
  [(['?', '?', '='], .foreign "??="), (['<', '<', '='], .foreign "<<="),
    (['=', '='], .operator .eq), (['!', '='], .operator .ne), (['<', '='], .operator .le),
    (['>', '='], .operator .ge), (['=', '>'], .arrow), (['+', '+'], .foreign "++"),
    (['-', '-'], .foreign "--"), (['&', '&'], .foreign "&&"), (['|', '|'], .foreign "||"),
    (['?', '?'], .foreign "??"), (['?', '.'], .foreign "?."), (['-', '>'], .foreign "->"),
    (['<', '<'], .foreign "<<"), (['+', '='], .foreign "+="), (['-', '='], .foreign "-="),
    (['*', '='], .foreign "*="), (['/', '='], .foreign "/="), (['%', '='], .foreign "%="),
    (['&', '='], .foreign "&="), (['|', '='], .foreign "|="), (['^', '='], .foreign "^="),
    ([':', ':'], .foreign "::"), (['.', '.'], .foreign ".."), (['/', '/'], .foreign "//"),
    (['/', '*'], .foreign "/*"),
    (['('], .leftParen), ([')'], .rightParen), (['\x7b'], .leftBrace), (['\x7d'], .rightBrace),
    (['['], .leftBracket), ([']'], .rightBracket), ([','], .comma), (['?'], .question),
    ([':'], .colon), (['!'], .bang), (['+'], .operator .add), (['-'], .operator .sub),
    (['*'], .operator .mul), (['/'], .operator .div), (['<'], .operator .lt),
    (['>'], .operator .gt), (['='], .foreign "="), (['.'], .foreign "."), ([';'], .foreign ";"),
    (['%'], .foreign "%"), (['&'], .foreign "&"), (['|'], .foreign "|"), (['^'], .foreign "^"),
    (['~'], .foreign "~")]

/-- The words as they are written. -/
def words : List (String × Word) :=
  [("null", .null), ("true", .truth true), ("false", .truth false), ("new", .new),
    ("long", .type (.of .integer)), ("double", .type (.of .number)), ("string", .type (.of .text)),
    ("bool", .type (.of .boolean)), ("object", .type .object)]

/-- A first character of a name. Letters beyond ASCII are not told from other characters there. -/
def startsName (c : Char) : Bool :=
  Naming.startsIdentifier c || 0x80 ≤ c.toNat

/-- A later character of a name. -/
def continuesName (c : Char) : Bool :=
  Naming.continuesIdentifier c || 0x80 ≤ c.toNat

/-- A digit comes first. -/
def digitFirst (cs : List Char) : Bool :=
  cs.head?.any Char.isDigit

/-- The digits of an exponent come first, with a sign or without. -/
def exponentFirst : List Char → Bool
  | [] => false
  | c :: rest => c.isDigit || (c == '+' || c == '-') && digitFirst rest

section Run

variable {σ : Type}

/-- The characters along which a machine runs until it stops, and what follows them. Of what follows
a character the machine may look at as much as it needs. -/
def run (step : σ → Char → List Char → Option σ) : σ → List Char → List Char × List Char
  | _, [] => ([], [])
  | s, c :: rest =>
    match step s c rest with
    | some s' => withFirst c (run step s' rest)
    | none => ([], c :: rest)

theorem length_run (step : σ → Char → List Char → Option σ) (s : σ) (cs : List Char) :
    (run step s cs).2.length ≤ cs.length := by
  induction cs generalizing s with
  | nil => exact Nat.le_refl _
  | cons c rest ih =>
      rw [run]
      split
      · exact Nat.le_succ_of_le (ih _)
      · exact Nat.le_refl _

/-- A machine that neither looks into what follows a text nor goes on with it stops where it stops
on the text alone. -/
theorem run_append {step : σ → Char → List Char → Option σ} {rest : List Char}
    (blind : ∀ s c cs, step s c (cs ++ rest) = step s c cs)
    (stops : ∀ s c after, rest = c :: after → step s c after = none) (s : σ) (cs : List Char) :
    run step s (cs ++ rest) = ((run step s cs).1, (run step s cs).2 ++ rest) := by
  induction cs generalizing s with
  | nil =>
      cases rest with
      | nil => rfl
      | cons c after => rw [List.nil_append, run, run, stops s c after rfl, List.nil_append]
  | cons c cs ih =>
      rw [List.cons_append, run, run, blind]
      split
      · rw [ih]
        rfl
      · rfl

end Run

/-- Goes on along a name. A dot belongs to it if a name follows. -/
def nameStep (_ : Unit) (c : Char) (rest : List Char) : Option Unit :=
  if continuesName c || c == '.' && rest.head?.any startsName then some () else none

/-- What has been read of a numeral. -/
inductive Numeral where
  | whole | fraction | exponentMark | exponent
deriving DecidableEq

/-- Goes on along a numeral. A point and the mark of an exponent belong to it if digits follow. -/
def numeralStep (read : Numeral) (c : Char) (rest : List Char) : Option Numeral :=
  if c.isDigit then some (if read = .exponentMark then .exponent else read)
  else match read with
    | .whole =>
      if c == '.' && digitFirst rest then some .fraction
      else if (c == 'e' || c == 'E') && exponentFirst rest then some .exponentMark
      else none
    | .fraction => if (c == 'e' || c == 'E') && exponentFirst rest then some .exponentMark else none
    | .exponentMark => if c == '+' || c == '-' then some .exponent else none
    | .exponent => none

/-- The token that a name is. -/
def nameToken (text : String) : Token :=
  match words.lookup text with
  | some w => .word w
  | none => .name text

/-- What has been read of a numeral at its first character. -/
def numeralStart (c : Char) : Numeral :=
  if c = '.' then .fraction else .whole

/-- The first token, which begins with the character `c`, and what follows it. -/
def firstToken (c : Char) (rest : List Char) : Option (Token × List Char) :=
  if c = '"' then (readText rest).map fun read => (.text (String.ofList read.1), read.2)
  else if startsName c then
    let read := run nameStep () rest
    some (nameToken (String.ofList (c :: read.1)), read.2)
  else if c.isDigit || c == '.' && digitFirst rest then
    let read := run numeralStep (numeralStart c) rest
    some (.numeral (String.ofList (c :: read.1)), read.2)
  else (marks.find? (·.1.isPrefixOf (c :: rest))).map fun m =>
    (.mark m.2, rest.drop (m.1.length - 1))

theorem length_of_firstToken {c : Char} {rest after : List Char} {t : Token}
    (h : firstToken c rest = some (t, after)) : after.length ≤ rest.length := by
  simp only [firstToken] at h
  split_ifs at h
  · obtain ⟨read, found, same⟩ := Option.map_eq_some_iff.mp h
    cases same
    exact length_of_readText found
  · cases h
    exact length_run _ _ _
  · cases h
    exact length_run _ _ _
  · obtain ⟨m, -, same⟩ := Option.map_eq_some_iff.mp h
    cases same
    rw [List.length_drop]
    exact Nat.sub_le _ _

/-- The tokens of a text. Blanks between them are skipped. -/
def tokens? (cs : List Char) : Option (List Token) :=
  match cs with
  | [] => some []
  | c :: rest =>
    if c = ' ' then tokens? rest
    else
      match h : firstToken c rest with
      | none => none
      | some (t, after) =>
        have := length_of_firstToken h
        (tokens? after).map (t :: ·)
termination_by cs.length
decreasing_by all_goals simp only [List.length_cons]; omega

section Steps

variable {c : Char} {cs after : List Char} {t : Token}

@[simp] theorem tokens?_nil : tokens? [] = some [] := by
  rw [tokens?]

@[simp] theorem tokens?_blank (cs : List Char) : tokens? (' ' :: cs) = tokens? cs := by
  rw [tokens?, if_pos rfl]

theorem tokens?_cons (solid : c ≠ ' ') (h : firstToken c cs = some (t, after)) :
    tokens? (c :: cs) = (tokens? after).map (t :: ·) := by
  rw [tokens?, if_neg solid]
  split
  · case h_1 none =>
      rw [h] at none
      cases none
  · case h_2 found =>
      rw [h] at found
      cases found
      rfl

theorem tokens?_leftParen (cs : List Char) :
    tokens? ('(' :: cs) = (tokens? cs).map (.mark .leftParen :: ·) :=
  tokens?_cons (by decide) rfl

theorem tokens?_rightParen (cs : List Char) :
    tokens? (')' :: cs) = (tokens? cs).map (.mark .rightParen :: ·) :=
  tokens?_cons (by decide) rfl

end Steps

section Signs

variable {c : Char} {cs after : List Char} {m : Mark} {ts : List Token}

/-- A text with tokens begins with the first of them, unless it begins with a blank. -/
theorem exists_of_tokens?_cons (solid : c ≠ ' ') (h : tokens? (c :: cs) = some ts) :
    ∃ t after later, firstToken c cs = some (t, after) ∧ tokens? after = some later ∧
      ts = t :: later := by
  cases first : firstToken c cs with
  | none =>
      rw [tokens?, if_neg solid] at h
      split at h
      · cases h
      · case h_2 found =>
          rw [first] at found
          cases found
  | some read =>
      obtain ⟨t, after⟩ := read
      rw [tokens?_cons solid first] at h
      obtain ⟨later, read, rfl⟩ := Option.map_eq_some_iff.mp h
      exact ⟨t, after, later, rfl, read, rfl⟩

/-- No mark is written in two ways. -/
theorem chars_eq_of_mem_marks {chars chars' : List Char} (h : (chars, m) ∈ marks)
    (h' : (chars', m) ∈ marks) : chars = chars' := by
  have once : ∀ a ∈ marks, ∀ b ∈ marks, a.2 = b.2 → a.1 = b.1 := by decide +kernel
  exact once _ h _ h' rfl

/-- A mark among the tokens is one of the table, and the text goes on behind it. -/
theorem exists_of_firstToken_mark (h : firstToken c cs = some (.mark m, after)) :
    ∃ chars, (chars, m) ∈ marks ∧ chars.isPrefixOf (c :: cs) ∧
      after = cs.drop (chars.length - 1) := by
  simp only [firstToken] at h
  split_ifs at h
  · obtain ⟨read, -, same⟩ := Option.map_eq_some_iff.mp h
    cases same
  · simp only [Option.some.injEq, Prod.mk.injEq, nameToken] at h
    obtain ⟨same, -⟩ := h
    split at same <;> cases same
  · cases h
  · obtain ⟨entry, found, same⟩ := Option.map_eq_some_iff.mp h
    cases same
    exact ⟨entry.1, List.mem_of_find?_eq_some found, (List.find?_eq_some_iff_append.mp found).1,
      rfl⟩

/-- What holds of each element in turn. There are too many characters to decide a statement about
all of them, but not too many in a list. -/
theorem forall_mem_of_all {α : Type} {p : α → Prop} [DecidablePred p] {l : List α}
    (h : l.all fun a => p a) : ∀ a ∈ l, p a := by
  simpa using h

/-- The characters that a minus sign or an exclamation mark can go on with. -/
def joining : List Char :=
  ['-', '=', '>']

/-- An operand begins with a mark only if that is a parenthesis or a minus sign. -/
def OperandFirst (ts : List Token) : Prop :=
  ∀ m, ts.head? = some (.mark m) → m = .leftParen ∨ m = .operator .sub

theorem head_eq_of_isPrefixOf {d : Char} (h : [d].isPrefixOf (c :: cs)) : d = c := by
  rw [List.isPrefixOf_cons_cons, Bool.and_eq_true, beq_iff_eq] at h
  exact h.1

/-- Of these characters an operand begins with a minus sign only. -/
theorem minus_of_joining (joins : c ∈ joining) (h : tokens? (c :: cs) = some ts)
    (operand : OperandFirst ts) : c = '-' ∧ ts.head? = some (.mark (.operator .sub)) := by
  have apart : ∀ c ∈ joining, c ≠ ' ' ∧ c ≠ '"' ∧ c ≠ '(' ∧ startsName c = false ∧
      c.isDigit = false ∧ (c == '.') = false := forall_mem_of_all (by decide)
  obtain ⟨solid, quote, paren, name, digit, point⟩ := apart c joins
  obtain ⟨t, after, later, first, -, rfl⟩ := exists_of_tokens?_cons solid h
  obtain ⟨m, rfl⟩ : ∃ m, t = .mark m := by
    simp only [firstToken, if_neg quote, name, digit, point, Bool.false_and, Bool.or_false,
      Bool.false_eq_true, if_false] at first
    obtain ⟨entry, -, same⟩ := Option.map_eq_some_iff.mp first
    cases same
    exact ⟨_, rfl⟩
  obtain ⟨chars, member, spelled, -⟩ := exists_of_firstToken_mark first
  rcases operand m rfl with rfl | rfl
  · obtain rfl : chars = ['('] := chars_eq_of_mem_marks member (by decide)
    exact absurd (head_eq_of_isPrefixOf spelled).symm paren
  · obtain rfl : chars = ['-'] := chars_eq_of_mem_marks member (by decide)
    exact ⟨(head_eq_of_isPrefixOf spelled).symm, rfl⟩

theorem tokens?_minus (h : tokens? cs = some ts) (operand : OperandFirst ts)
    (unsigned : ts.head? ≠ some (.mark (.operator .sub))) :
    tokens? ('-' :: cs) = some (.mark (.operator .sub) :: ts) := by
  have first : firstToken '-' cs = some (.mark (.operator .sub), cs) := by
    cases cs with
    | nil => rfl
    | cons c rest =>
        have apart : c ∉ joining := fun joins => unsigned (minus_of_joining joins h operand).2
        simp only [joining, List.mem_cons, List.not_mem_nil, or_false, not_or] at apart
        simp +decide [firstToken, marks, List.isPrefixOf, Ne.symm apart.1, Ne.symm apart.2.1,
          Ne.symm apart.2.2]
  rw [tokens?_cons (by decide) first, h]
  rfl

theorem tokens?_minus_numeral {text : String} (h : tokens? cs = some [.numeral text]) :
    tokens? ('-' :: cs) = some [.mark (.operator .sub), .numeral text] :=
  tokens?_minus h (by simp [OperandFirst]) (by simp)

/-- Two minus signs without a blank between them are one mark. -/
theorem tokens?_minus_minus (solid : cs.head? ≠ some ' ')
    (h : tokens? cs = some (.mark (.operator .sub) :: ts)) :
    tokens? ('-' :: cs) = some (.mark (.foreign "--") :: ts) := by
  cases cs with
  | nil =>
      rw [tokens?_nil] at h
      cases h
  | cons c rest =>
      obtain ⟨t, after, later, first, read, same⟩ :=
        exists_of_tokens?_cons (fun blank => solid (blank ▸ rfl)) h
      cases same
      obtain ⟨chars, member, spelled, rfl⟩ := exists_of_firstToken_mark first
      obtain rfl : chars = ['-'] := chars_eq_of_mem_marks member (by decide)
      obtain rfl := head_eq_of_isPrefixOf spelled
      have joined : firstToken '-' ('-' :: rest) = some (.mark (.foreign "--"), rest) := rfl
      rw [tokens?_cons (by decide) joined]
      exact congrArg (Option.map _) read

theorem tokens?_bang (h : tokens? cs = some ts) (operand : OperandFirst ts) :
    tokens? ('!' :: cs) = some (.mark .bang :: ts) := by
  have first : firstToken '!' cs = some (.mark .bang, cs) := by
    cases cs with
    | nil => rfl
    | cons c rest =>
        have apart : c ≠ '=' := by
          rintro rfl
          have := (minus_of_joining (by decide) h operand).1
          cases this
        simp +decide [firstToken, marks, List.isPrefixOf, Ne.symm apart]
  rw [tokens?_cons (by decide) first, h]
  rfl

end Signs

section Boundaries

/-- The characters that end a token. -/
def boundaries : List Char :=
  [' ', '(', ')', ',', '[']

/-- The text is empty or begins with a character that ends a token. -/
def Bounded (cs : List Char) : Prop :=
  ∀ c ∈ cs.head?, c ∈ boundaries

variable {c : Char} {cs rest after : List Char} {t : Token} {ts : List Token}

theorem bounded_cons (h : c ∈ boundaries) : Bounded (c :: cs) := by
  intro d first
  cases first
  exact h

theorem head?_any_append {p : Char → Bool} (apart : ∀ c ∈ boundaries, p c = false)
    (bounded : Bounded rest) (cs : List Char) : (cs ++ rest).head?.any p = cs.head?.any p := by
  cases cs with
  | cons c cs => rfl
  | nil =>
      cases rest with
      | nil => rfl
      | cons c after => exact apart c (bounded c rfl)

theorem digitFirst_append (bounded : Bounded rest) (cs : List Char) :
    digitFirst (cs ++ rest) = digitFirst cs :=
  head?_any_append (forall_mem_of_all (by decide)) bounded cs

/-- No character that ends a token is one of a numeral. -/
theorem numeral_apart : ∀ c ∈ boundaries, c.isDigit = false ∧ (c == '.') = false ∧
    (c == 'e' || c == 'E') = false ∧ (c == '+' || c == '-') = false :=
  forall_mem_of_all (by decide)

theorem exponentFirst_append (bounded : Bounded rest) (cs : List Char) :
    exponentFirst (cs ++ rest) = exponentFirst cs := by
  cases cs with
  | cons c cs => rw [List.cons_append, exponentFirst, exponentFirst, digitFirst_append bounded]
  | nil =>
      cases rest with
      | nil => rfl
      | cons c after =>
          obtain ⟨digit, -, -, sign⟩ := numeral_apart c (bounded c rfl)
          rw [List.nil_append, exponentFirst, exponentFirst, digit, sign]
          rfl

theorem run_nameStep_append (bounded : Bounded rest) (cs : List Char) :
    run nameStep () (cs ++ rest) = ((run nameStep () cs).1, (run nameStep () cs).2 ++ rest) := by
  apply run_append
  · intro s c cs
    rw [nameStep, nameStep, head?_any_append (forall_mem_of_all (by decide)) bounded]
  · intro s c after same
    subst same
    have apart : ∀ c ∈ boundaries, (continuesName c || c == '.') = false :=
      forall_mem_of_all (by decide)
    have none := apart c (bounded c rfl)
    rw [Bool.or_eq_false_iff] at none
    rw [nameStep, none.1, none.2]
    rfl

theorem run_numeralStep_append (bounded : Bounded rest) (read : Numeral) (cs : List Char) :
    run numeralStep read (cs ++ rest) =
      ((run numeralStep read cs).1, (run numeralStep read cs).2 ++ rest) := by
  apply run_append
  · intro s c cs
    simp only [numeralStep, digitFirst_append bounded, exponentFirst_append bounded]
  · intro s c after same
    subst same
    obtain ⟨digit, point, mark, sign⟩ := numeral_apart c (bounded c rfl)
    cases s <;> simp [numeralStep, digit, point, mark, sign]

theorem isPrefixOf_append {mark : List Char} (apart : ∀ c ∈ mark, c ∉ boundaries)
    (bounded : Bounded rest) (cs : List Char) :
    mark.isPrefixOf (cs ++ rest) = mark.isPrefixOf cs := by
  induction mark generalizing cs with
  | nil => rfl
  | cons d mark ih =>
      rw [List.forall_mem_cons] at apart
      cases cs with
      | cons c cs => rw [List.cons_append, List.isPrefixOf, List.isPrefixOf, ih apart.2]
      | nil =>
          cases rest with
          | nil => rfl
          | cons c after =>
              have other : (d == c) = false := by
                rw [beq_eq_false_iff_ne]
                rintro rfl
                exact apart.1 (bounded d rfl)
              rw [List.nil_append, List.isPrefixOf_cons_cons, other, Bool.false_and]
              rfl

/-- No mark goes on with a character that ends a token. -/
theorem find?_marks_append (bounded : Bounded rest) (c : Char) (cs : List Char) :
    marks.find? (·.1.isPrefixOf (c :: (cs ++ rest))) = marks.find? (·.1.isPrefixOf (c :: cs)) := by
  have apart : ∀ m ∈ marks, m.1.tail.all fun d => d ∉ boundaries := by decide
  rw [← List.head?_filter, ← List.head?_filter]
  refine congrArg List.head? (List.filter_congr fun m member => ?_)
  cases written : m.1 with
  | nil => rfl
  | cons d later =>
      have apart := apart m member
      rw [written, List.tail_cons] at apart
      rw [List.isPrefixOf, List.isPrefixOf, isPrefixOf_append (forall_mem_of_all apart) bounded]

theorem firstToken_append (bounded : Bounded rest) (h : firstToken c cs = some (t, after)) :
    firstToken c (cs ++ rest) = some (t, after ++ rest) := by
  simp only [firstToken] at h ⊢
  split_ifs at h with quote name numeral
  · rw [if_pos quote]
    obtain ⟨⟨text, behind⟩, read, same⟩ := Option.map_eq_some_iff.mp h
    cases same
    rw [readText_append read]
    rfl
  · rw [if_neg quote, if_pos name, run_nameStep_append bounded]
    cases h
    rfl
  · rw [if_neg quote, if_neg name, digitFirst_append bounded, if_pos numeral,
      run_numeralStep_append bounded]
    cases h
    rfl
  · rw [if_neg quote, if_neg name, digitFirst_append bounded, if_neg numeral]
    obtain ⟨m, found, same⟩ := Option.map_eq_some_iff.mp h
    cases same
    have within : m.1.length - 1 ≤ cs.length := by
      have spelled : m.1.isPrefixOf (c :: cs) := (List.find?_eq_some_iff_append.mp found).1
      have shorter := (List.isPrefixOf_iff_prefix.mp spelled).length_le
      rw [List.length_cons] at shorter
      omega
    rw [find?_marks_append bounded, found, Option.map_some, List.drop_append_of_le_length within]

/-- In front of a character that ends a token, a text has the tokens that it has alone. -/
theorem tokens?_append (bounded : Bounded rest) (h : tokens? cs = some ts) :
    tokens? (cs ++ rest) = (tokens? rest).map (ts ++ ·) := by
  fun_induction tokens? cs generalizing ts with
  | case1 =>
      cases h
      rw [List.nil_append]
      simp only [List.nil_append, Option.map_id_fun', id_eq]
  | case2 cs ih => rw [List.cons_append, tokens?_blank, ih h]
  | case3 => cases h
  | case4 c cs solid t after found _ ih =>
      obtain ⟨later, read, rfl⟩ := Option.map_eq_some_iff.mp h
      rw [List.cons_append, tokens?_cons solid (firstToken_append bounded found), ih read,
        Option.map_map]
      rfl

end Boundaries

end SheetCompiler.Code
