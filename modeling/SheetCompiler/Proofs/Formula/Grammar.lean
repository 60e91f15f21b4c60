import SheetCompiler.Formula.Parser
import SheetCompiler.Proofs.Address.Reading

/-!
# The grammar of formulas

A derivation says how tokens make up an expression, one constructor a rule of the grammar. The
levels of the grammar, the tightest first:

* `0`: the signs `-` and `+` before an operand, then `%` behind it, then the operand itself
* `1`: `^`
* `2`: `*` and `/`
* `3`: `+` and `-`
* `4`: `&`
* `5`: comparisons

A derivation has a text, the tokens at its leaves, and a meaning, the expression. Neither knows how
tokens are read. A rule can be told from the tokens where it starts and from those where it ends:
`Starts`, `Closed` and `Ends`.
-/

namespace SheetCompiler.Formula.Grammar

/-- The operators between the operands of a level. -/
def operators : Nat → List BinaryOp
  | 1 => [.pow]
  | 2 => [.mul, .div]
  | 3 => [.add, .sub]
  | 4 => [.concat]
  | 5 => [.eq, .ne, .lt, .gt, .le, .ge]
  | _ => []

/-- A name that spells a row and a column, perhaps behind the name of a sheet. -/
structure Corner where
  sheet? : Option String
  name : String
  row : Nat
  col : Nat
  spelled : Address.parseLocal? name = some (row, col)

/-- The sheet of a corner; `owner` is meant where none is named. -/
def Corner.sheet (c : Corner) (owner : String) : String :=
  c.sheet?.getD owner

/-- The tokens of a corner. -/
def Corner.tokens (c : Corner) : List Token :=
  (c.sheet?.map Token.sheet).toList ++ [.identifier c.name]

/-- The literal that a token spells. A truth value is a name in any case. -/
def literal? : Token → Option Literal
  | .integer i => some (.integer i)
  | .number x => some (.number x)
  | .text s => some (.text s)
  | .identifier name =>
    if Text.upper name = "TRUE" then some (.boolean true)
    else if Text.upper name = "FALSE" then some (.boolean false)
    else none
  | _ => none

/-- An operand that has no expressions inside, in a formula on the sheet `owner`. -/
inductive Leaf (owner : String) where
  | literal (token : Token) (value : Literal) (spelled : literal? token = some value)
  | cell (place : Corner)
  /-- The rectangle between two corners in any position. A corner that names no sheet lies on the
  sheet of the one before it. -/
  | range (first last : Corner) (together : last.sheet (first.sheet owner) = first.sheet owner)
  | emptyCall (name : String)

mutual

/-- How tokens make up an expression whose operators between operands have at most level `l`, in a
formula on the sheet `owner`. -/
inductive Derivation (owner : String) : Nat → Type
  | operand {l : Nat} (d : Derivation owner l) : Derivation owner (l + 1)
  /-- The left operand may hold operators of the same level, the right one may not. -/
  | binary {l : Nat} (left : Derivation owner (l + 1)) (op : BinaryOp)
      (leveled : op ∈ operators (l + 1)) (right : Derivation owner l) : Derivation owner (l + 1)
  | signed (op : UnaryOp) (leading : op ≠ .percent) (d : Derivation owner 0) : Derivation owner 0
  /-- A primary with any number of per cent signs behind it. -/
  | percents (p : Primary owner) (count : Nat) : Derivation owner 0

/-- How tokens make up an operand without signs. -/
inductive Primary (owner : String) : Type
  | leaf (leaf : Leaf owner)
  | group (inner : Derivation owner 5)
  | call (name : String) (args : Arguments owner)

/-- How tokens make up one or more arguments. -/
inductive Arguments (owner : String) : Type
  | last (d : Derivation owner 5)
  | more (d : Derivation owner 5) (others : Arguments owner)

end

variable {owner : String}

/-- The tokens of an operand without expressions inside. -/
def Leaf.tokens : Leaf owner → List Token
  | .literal token _ _ => [token]
  | .cell place => place.tokens
  | .range first last _ => first.tokens ++ .colon :: last.tokens
  | .emptyCall name => [.identifier name, .openParen, .closeParen]

/-- The meaning of an operand without expressions inside. -/
def Leaf.expr : Leaf owner → Expr
  | .literal _ value _ => .literal value
  | .cell place => .cell ⟨place.sheet owner, place.row, place.col⟩
  | .range first last _ =>
    .range ⟨first.sheet owner, min first.row last.row, min first.col last.col⟩
      ⟨first.sheet owner, max first.row last.row, max first.col last.col⟩
  | .emptyCall name => .call (Text.upper name) []

mutual

/-- The tokens that a derivation derives. -/
def Derivation.tokens {l : Nat} : Derivation owner l → List Token
  | .operand d => d.tokens
  | .binary left op _ right => left.tokens ++ .operator op.sign :: right.tokens
  | .signed op _ d => .operator op.sign :: d.tokens
  | .percents p count => p.tokens ++ List.replicate count (.operator .percent)

/-- The tokens of an operand without signs. -/
def Primary.tokens : Primary owner → List Token
  | .leaf leaf => leaf.tokens
  | .group inner => .openParen :: (inner.tokens ++ [.closeParen])
  | .call name args => .identifier name :: .openParen :: (args.tokens ++ [.closeParen])

/-- The tokens of arguments, with commas between them. -/
def Arguments.tokens : Arguments owner → List Token
  | .last d => d.tokens
  | .more d others => d.tokens ++ .comma :: others.tokens

end

theorem Primary.group_tokens_append (inner : Derivation owner 5) (rest : List Token) :
    (group inner).tokens ++ rest = .openParen :: (inner.tokens ++ .closeParen :: rest) := by
  simp [Primary.tokens]

theorem Primary.call_tokens_append (name : String) (args : Arguments owner) (rest : List Token) :
    (call name args).tokens ++ rest =
      .identifier name :: .openParen :: (args.tokens ++ .closeParen :: rest) := by
  simp [Primary.tokens]

/-- An expression under a number of per cent signs. -/
def percented (e : Expr) : Nat → Expr
  | 0 => e
  | count + 1 => .unary .percent (percented e count)

mutual

/-- The expression that a derivation derives. -/
def Derivation.expr {l : Nat} : Derivation owner l → Expr
  | .operand d => d.expr
  | .binary left op _ right => .binary op left.expr right.expr
  | .signed op _ d => .unary op d.expr
  | .percents p count => percented p.expr count

/-- The meaning of an operand without signs. -/
def Primary.expr : Primary owner → Expr
  | .leaf leaf => leaf.expr
  | .group inner => inner.expr
  | .call name args => .call (Text.upper name) args.exprs

/-- The meanings of arguments. -/
def Arguments.exprs : Arguments owner → List Expr
  | .last d => [d.expr]
  | .more d others => d.expr :: others.exprs

end

section Levels

theorem mem_operators_iff (op : BinaryOp) (l : Nat) : op ∈ operators l ↔ Parser.level op = l := by
  match l with
  | 0 | 1 | 2 | 3 | 4 | 5 => cases op <;> decide
  | l + 6 => cases op <;> simp [operators, Parser.level]

theorem sign_injective : Function.Injective BinaryOp.sign := by
  intro op op' same
  cases op <;> cases op' <;> first | rfl | cases same

theorem unarySign_injective : Function.Injective UnaryOp.sign := by
  intro op op' same
  cases op <;> cases op' <;> first | rfl | cases same

/-- The token could go on with an expression of the level that stands before it. -/
def Continues (l : Nat) : Token → Prop
  | .openParen | .colon => True
  | .operator sign => sign = .percent ∨ ∃ k ≤ l, ∃ op ∈ operators k, op.sign = sign
  | _ => False

/-- An expression of the level ends before these tokens. -/
def Ends (l : Nat) (ts : List Token) : Prop :=
  ∀ t, ts.head? = some t → ¬ Continues l t

/-- An operand ends before these tokens, perhaps with per cent signs to follow. -/
def Closed (ts : List Token) : Prop :=
  ∀ t, ts.head? = some t → t ≠ .openParen ∧ t ≠ .colon

variable {l : Nat} {ts : List Token}

theorem Ends.mono {k : Nat} (h : Ends l ts) (le : k ≤ l) : Ends k ts := by
  intro t first continues
  refine h t first ?_
  cases t with
  | operator sign =>
      rcases continues with percent | ⟨j, below, listed⟩
      · exact .inl percent
      · exact .inr ⟨j, Nat.le_trans below le, listed⟩
  | openParen | colon => trivial
  | integer | number | text | identifier | sheet | closeParen | comma => exact continues

theorem Ends.closed (h : Ends l ts) : Closed ts := by
  intro t first
  constructor
  · rintro rfl
    exact h _ first trivial
  · rintro rfl
    exact h _ first trivial

theorem ends_nil : Ends l [] := by
  intro t first
  cases first

theorem ends_closeParen : Ends l (.closeParen :: ts) := by
  intro t first
  cases first
  exact id

theorem ends_comma : Ends l (.comma :: ts) := by
  intro t first
  cases first
  exact id

/-- Tighter levels end before an operator. -/
theorem ends_operator {op : BinaryOp} (leveled : op ∈ operators (l + 1)) :
    Ends l (.operator op.sign :: ts) := by
  intro t first
  cases first
  rintro (percent | ⟨k, below, op', listed, same⟩)
  · cases op <;> cases percent
  · rw [sign_injective same, mem_operators_iff] at listed
    rw [mem_operators_iff] at leveled
    omega

theorem closed_percents {count : Nat} (h : Closed ts) :
    Closed (List.replicate count (.operator .percent) ++ ts) := by
  cases count with
  | zero => exact h
  | succ count =>
      intro t first
      cases first
      exact ⟨nofun, nofun⟩

theorem Closed.ne_openParen {more : List Token} (h : Closed ts) : ts ≠ .openParen :: more := by
  rintro rfl
  exact (h _ rfl).1 rfl

theorem Closed.ne_colon {more : List Token} (h : Closed ts) : ts ≠ .colon :: more := by
  rintro rfl
  exact (h _ rfl).2 rfl

end Levels

section Names

/-- A digit stays what it is in upper case. -/
theorem mem_upper_of_isDigit {s : String} {c : Char} (digit : c.isDigit) (h : c ∈ s.toList) :
    c ∈ (Text.upper s).toList := by
  have small : c.toNat < 0x80 := Nat.lt_of_le_of_lt (Char.isDigit_iff_toNat.mp digit).2 (by decide)
  rw [Text.upper, String.toList_ofList, List.mem_flatMap]
  refine ⟨c, h, ?_⟩
  rw [Text.upperChar, if_pos small, Text.toUpper_of_isDigit digit]
  exact List.mem_singleton_self c

/-- A name that spells a place has a digit. -/
theorem exists_isDigit_of_parseLocal? {name : String} {row col : Nat}
    (h : Address.parseLocal? name = some (row, col)) : ∃ c ∈ name.toList, c.isDigit := by
  obtain ⟨a, letters, b, digits, -, -, whole, spelled⟩ :=
    Address.exists_spellsPlace_of_parseLocal? h
  cases digits with
  | nil => exact absurd spelled.digitsValue_eq (Nat.succ_ne_zero row).symm
  | cons digit more =>
      refine ⟨digit, ?_, spelled.isDigit digit List.mem_cons_self⟩
      rw [whole]
      simp

/-- A name that spells a place spells no truth value. -/
theorem literal?_identifier_of_parseLocal? {name : String} {row col : Nat}
    (h : Address.parseLocal? name = some (row, col)) : literal? (.identifier name) = none := by
  obtain ⟨c, member, digit⟩ := exists_isDigit_of_parseLocal? h
  have inside := mem_upper_of_isDigit digit member
  have digitless : ∀ b : Bool, c ∉ (if b then "TRUE" else "FALSE").toList := by
    intro b member
    have all : ∀ b : Bool, (if b then "TRUE" else "FALSE").toList.all fun c => !c.isDigit := by
      decide +kernel
    have none := List.all_eq_true.mp (all b) c member
    simp [digit] at none
  have notTrue : Text.upper name ≠ "TRUE" := fun same => digitless true (same ▸ inside)
  have notFalse : Text.upper name ≠ "FALSE" := fun same => digitless false (same ▸ inside)
  rw [literal?, if_neg notTrue, if_neg notFalse]

end Names

section Heads

/-- The token starts a literal, a reference or a call. -/
def Starts : Token → Prop
  | .integer _ | .number _ | .text _ | .identifier _ | .sheet _ => True
  | _ => False

theorem starts_of_literal? {token : Token} {value : Literal} (h : literal? token = some value) :
    Starts token := by
  cases token with
  | integer | number | text | identifier | sheet => trivial
  | operator | openParen | closeParen | comma | colon => cases h

theorem Corner.head_tokens (c : Corner) : ∃ t ts, c.tokens = t :: ts ∧ Starts t := by
  obtain ⟨sheet?, name, row, col, spelled⟩ := c
  cases sheet? with
  | none => exact ⟨_, _, rfl, trivial⟩
  | some sheet => exact ⟨_, _, rfl, trivial⟩

theorem Leaf.head_tokens (leaf : Leaf owner) : ∃ t ts, leaf.tokens = t :: ts ∧ Starts t := by
  cases leaf with
  | literal token value spelled => exact ⟨_, _, rfl, starts_of_literal? spelled⟩
  | cell place => exact place.head_tokens
  | range first last together =>
      obtain ⟨t, ts, tokens, starts⟩ := first.head_tokens
      exact ⟨t, _, by rw [Leaf.tokens, tokens, List.cons_append], starts⟩
  | emptyCall name => exact ⟨_, _, rfl, trivial⟩

theorem Primary.head_tokens (p : Primary owner) :
    ∃ t ts, p.tokens = t :: ts ∧ (Starts t ∨ t = .openParen) := by
  cases p with
  | leaf leaf =>
      obtain ⟨t, ts, tokens, starts⟩ := leaf.head_tokens
      exact ⟨t, ts, by rw [Primary.tokens, tokens], .inl starts⟩
  | group inner => exact ⟨_, _, by rw [Primary.tokens], .inr rfl⟩
  | call name args => exact ⟨.identifier name, _, by rw [Primary.tokens], .inl trivial⟩

theorem Leaf.tokens_ne_openParen (leaf : Leaf owner) {rest ts : List Token} :
    leaf.tokens ++ rest ≠ .openParen :: ts := by
  intro same
  obtain ⟨t, more, tokens, starts⟩ := leaf.head_tokens
  rw [tokens] at same
  obtain ⟨rfl, -⟩ := List.cons.inj same
  exact starts

theorem Primary.tokens_ne_cons (p : Primary owner) {t : Token} {rest ts : List Token}
    (start : ¬ Starts t) (group : t ≠ .openParen) : p.tokens ++ rest ≠ t :: ts := by
  intro same
  obtain ⟨t', more, tokens, head⟩ := p.head_tokens
  rw [tokens] at same
  obtain ⟨rfl, -⟩ := List.cons.inj same
  cases head with
  | inl starts => exact start starts
  | inr paren => exact group paren

/-- No operand without signs starts with one. -/
theorem Primary.tokens_ne_operator (p : Primary owner) {sign : Sign} {rest ts : List Token} :
    p.tokens ++ rest ≠ .operator sign :: ts :=
  p.tokens_ne_cons id nofun

/-- An expression starts as an operand without signs does, or with one of the two signs that lead an
operand. -/
theorem Derivation.tokens_ne_cons {t : Token} (start : ¬ Starts t) (group : t ≠ .openParen)
    (leads : ∀ op : UnaryOp, op ≠ .percent → .operator op.sign ≠ t) {l : Nat} :
    (d : Derivation owner l) → {rest ts : List Token} → d.tokens ++ rest ≠ t :: ts
  | .operand d, rest, ts => by
      rw [Derivation.tokens]
      exact d.tokens_ne_cons start group leads
  | .binary left op leveled right, rest, ts => by
      rw [Derivation.tokens, List.append_assoc]
      exact left.tokens_ne_cons start group leads
  | .signed op leading d, rest, ts => by
      rw [Derivation.tokens]
      intro same
      exact leads op leading (List.cons.inj same).1
  | .percents p count, rest, ts => by
      rw [Derivation.tokens, List.append_assoc]
      exact p.tokens_ne_cons start group

theorem Derivation.tokens_ne_closeParen {l : Nat} (d : Derivation owner l) {rest ts : List Token} :
    d.tokens ++ rest ≠ .closeParen :: ts :=
  d.tokens_ne_cons (t := .closeParen) id nofun fun _ _ => nofun

theorem Arguments.tokens_ne_closeParen (args : Arguments owner) {rest ts : List Token} :
    args.tokens ++ rest ≠ .closeParen :: ts := by
  cases args with
  | last d =>
      rw [Arguments.tokens]
      exact d.tokens_ne_closeParen
  | more d others =>
      rw [Arguments.tokens, List.append_assoc]
      exact d.tokens_ne_closeParen

end Heads

end SheetCompiler.Formula.Grammar
