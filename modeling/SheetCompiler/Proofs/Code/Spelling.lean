import SheetCompiler.Proofs.Code.Numerals

/-!
# Tokens of generated expressions

An expression is written token by token: what its tokens are can be told from the tree, and reading
its text gives them back. Blanks, parentheses and commas keep the tokens of neighbours apart, with
one exception that is kept here as it is: a minus sign before the literal of negative zero, which is
no number below zero and gets no parentheses, makes one mark with the sign of the literal.
-/

namespace SheetCompiler.Code

/-- The tokens of a literal. -/
def literalTokens : Literal → List Token
  | .integer i =>
    (if i.toInt < 0 then [.mark (.operator .sub)] else []) ++
      [.numeral (String.ofList (Decimal.digitChars i.toInt.natAbs))]
  | .number x => numberTokens x
  | .text s => [.text s]
  | .boolean b => [.word (.truth b)]

/-- Tokens in parentheses. -/
def enclosed (ts : List Token) : List Token :=
  .mark .leftParen :: (ts ++ [.mark .rightParen])

/-- Tokens behind the sign of an operator. -/
def withSign : UnaryOp → List Token → List Token
  | .negate, ts =>
    if ts.head? = some (.mark (.operator .sub)) then .mark (.foreign "--") :: ts.tail
    else .mark (.operator .sub) :: ts
  | .not, ts => .mark .bang :: ts
  | .other text, ts => .mark (.foreign text) :: ts

namespace Expr

/-- Behind a sign the expression needs parentheses. -/
def needsParensBehindSign : Expr → Bool
  | .unary .. => true
  | e => e.needsParens

/-- The tokens of an operand, in parentheses where it needs them. -/
def operandTokens (e : Expr) (ts : List Token) : List Token :=
  if e.needsParens then enclosed ts else ts

mutual

/-- The tokens of an expression. -/
def tokens : Expr → List Token
  | .literal value => literalTokens value
  | .null => [.word .null]
  | .ident name => [.name name]
  | .cast type operand =>
    .mark .leftParen :: .word (.type (.of type)) :: .mark .rightParen ::
      operand.operandTokens operand.tokens
  | .unary op operand =>
    withSign op (if operand.needsParensBehindSign then enclosed operand.tokens else operand.tokens)
  | .binary op left right =>
    left.operandTokens left.tokens ++ .mark (.operator op) :: right.operandTokens right.tokens
  | .conditional test yes no =>
    test.operandTokens test.tokens ++ .mark .question :: (yes.operandTokens yes.tokens ++
      .mark .colon :: no.operandTokens no.tokens)
  | .call target args =>
    .name target :: .mark .leftParen ::
      ([.mark .comma].intercalate (tokensAll args) ++ [.mark .rightParen])
  | .array element items =>
    .word .new :: .word (.type element) :: .mark .leftBracket :: .mark .rightBracket ::
      .mark .leftBrace :: ([.mark .comma].intercalate (tokensAll items) ++ [.mark .rightBrace])
  | .lambda body => .mark .leftParen :: .mark .rightParen :: .mark .arrow :: body.tokens

/-- The tokens of each of the expressions. -/
def tokensAll : List Expr → List (List Token)
  | [] => []
  | e :: rest => e.tokens :: tokensAll rest

end

mutual

/-- An expression and all the expressions in it. -/
def nodes : Expr → List Expr
  | .literal value => [.literal value]
  | .null => [.null]
  | .ident name => [.ident name]
  | .cast type operand => .cast type operand :: operand.nodes
  | .unary op operand => .unary op operand :: operand.nodes
  | .binary op left right => .binary op left right :: (left.nodes ++ right.nodes)
  | .conditional test yes no => .conditional test yes no :: (test.nodes ++ yes.nodes ++ no.nodes)
  | .call target args => .call target args :: nodesOf args
  | .array element items => .array element items :: nodesOf items
  | .lambda body => .lambda body :: body.nodes

/-- The expressions of a list and all the expressions in them. -/
def nodesOf : List Expr → List Expr
  | [] => []
  | e :: rest => e.nodes ++ nodesOf rest

end

theorem mem_nodes (e : Expr) : e ∈ e.nodes := by
  cases e <;> exact List.mem_cons_self

end Expr

/-- The text reads as one name. -/
def IsName (s : String) : Prop :=
  tokens? s.toList = some [.name s]

instance (s : String) : Decidable (IsName s) :=
  inferInstanceAs (Decidable (_ = _))

section Names

variable {cs : List Char} {s : String}

theorem run_nameStep_of_forall (h : ∀ c ∈ cs, continuesName c) (more : List Char) :
    run nameStep () (cs ++ more) = (cs ++ (run nameStep () more).1, (run nameStep () more).2) := by
  induction cs with
  | nil => rfl
  | cons c cs ih =>
      rw [List.forall_mem_cons] at h
      rw [List.cons_append, run, nameStep, h.1]
      simp only [Bool.true_or, if_true]
      rw [ih h.2]
      rfl

/-- An identifier reads as a name together with what follows it, if the name goes on to the end and
is no word. -/
theorem isName_append {suffix : String} (identifier : Naming.isIdentifier s)
    (goesOn : run nameStep () suffix.toList = (suffix.toList, []))
    (free : words.lookup (s ++ suffix) = none) : IsName (s ++ suffix) := by
  rw [Naming.isIdentifier] at identifier
  cases chars : s.toList with
  | nil =>
      rw [chars] at identifier
      cases identifier
  | cons c rest =>
      rw [chars, Naming.isIdentifierChars, Bool.and_eq_true, List.all_eq_true] at identifier
      have starts : startsName c := by rw [startsName, identifier.1, Bool.true_or]
      have continues : ∀ d ∈ rest, continuesName d := by
        intro d member
        rw [continuesName, identifier.2 d member, Bool.true_or]
      have quote : c ≠ '"' := by
        rintro rfl
        cases identifier.1
      have solid : c ≠ ' ' := by
        rintro rfl
        cases identifier.1
      have written : (s ++ suffix).toList = c :: (rest ++ suffix.toList) := by
        rw [String.toList_append, chars, List.cons_append]
      have first : firstToken c (rest ++ suffix.toList) = some (.name (s ++ suffix), []) := by
        simp only [firstToken, if_neg quote, if_pos starts]
        rw [run_nameStep_of_forall continues, goesOn, ← written, String.ofList_toList, nameToken,
          free]
      rw [IsName, written, tokens?_cons solid first, tokens?_nil]
      rfl

end Names

/-- The expression applies an operator with a meaning, or calls or reads what has a name, if it
applies, calls or reads anything. -/
def Expr.Spelled : Expr → Prop
  | .ident name | .call name _ => IsName name
  | .unary op _ => op = .negate ∨ op = .not
  | .binary op .. => ∀ text, op ≠ .other text
  | _ => True

section Pieces

variable {a b : List Char} {ts us : List Token}

theorem tokens?_joined (first : tokens? a = some ts) (bounded : Bounded b)
    (second : tokens? b = some us) : tokens? (a ++ b) = some (ts ++ us) := by
  rw [tokens?_append bounded first, second]
  rfl

theorem tokens?_spaced (first : tokens? a = some ts) (second : tokens? b = some us) :
    tokens? (a ++ ' ' :: b) = some (ts ++ us) := by
  refine tokens?_joined first (bounded_cons (by decide)) ?_
  rw [tokens?_blank, second]

theorem tokens?_enclosed (h : tokens? a = some ts) :
    tokens? ('(' :: (a ++ [')'])) = some (enclosed ts) := by
  have close : tokens? [')'] = some [.mark .rightParen] := by
    rw [tokens?_rightParen, tokens?_nil]
    rfl
  rw [tokens?_leftParen, tokens?_joined h (bounded_cons (by decide)) close]
  rfl

theorem tokens?_typeName (t : ElementType) :
    tokens? t.codeName.toList = some [.word (.type t)] := by
  cases t with
  | of t => cases t <;> decide +kernel
  | object => decide +kernel

theorem tokens?_sign {op : BinaryOp} (named : ∀ text, op ≠ .other text) :
    tokens? op.sign.toList = some [.mark (.operator op)] := by
  cases op with
  | other text => exact absurd rfl (named text)
  | _ => decide +kernel

theorem tokens?_literalCode (l : Literal) :
    tokens? (literalCode l).toList = some (literalTokens l) := by
  cases l with
  | integer i =>
      have read := tokens?_of_isNumeral (isNumeral_digitChars i.toInt.natAbs)
      rw [literalCode, literalTokens, integerText]
      split
      · have signed := tokens?_minus_numeral read
        rw [String.toList_append, String.toList_ofList, String.toList_ofList]
        exact signed
      · rw [String.toList_ofList]
        exact read
  | number x => exact tokens?_numberCode x
  | text s =>
      have first : firstToken '"' (s.toList.flatMap charCode ++ ['"']) = some (.text s, []) := by
        simp only [firstToken, if_true, readText_flatMap, Option.map_some, String.ofList_toList]
      rw [literalCode, toList_textCode, tokens?_cons (by decide) first, tokens?_nil]
      rfl
  | boolean b => cases b <;> decide +kernel

end Pieces

section Operands

theorem head?_numberCode (x : Float) : (numberCode x).toList.head? ≠ some ' ' := by
  cases nan : x.isNaN with
  | true =>
      rw [numberCode_of_nan nan]
      decide
  | false =>
      cases inf : x.isInf with
      | true =>
          rw [numberCode_of_inf nan inf]
          cases Decimal.isNegative x <;> decide
      | false =>
          obtain ⟨⟨d, rest, same, digit, -⟩, written⟩ := numberCode_of_finite nan inf
          rw [written, same]
          split
          · simp
          · intro blank
            cases blank
            cases digit

theorem operandFirst_enclosed (ts : List Token) : OperandFirst (enclosed ts) := by
  intro m first
  cases first
  exact .inl rfl

/-- A literal begins with no mark but a minus sign, and with no type. -/
theorem exists_head_literal (l : Literal) : ∃ t later, literalTokens l = t :: later ∧
    (∀ m, t = .mark m → m = .operator .sub) ∧ ∀ type, t ≠ .word (.type type) := by
  have minus : ∀ m, Token.mark (.operator .sub) = .mark m → m = .operator .sub :=
    fun m same => (Token.mark.inj same).symm
  cases l with
  | integer i =>
      rw [literalTokens]
      split
      · exact ⟨_, _, rfl, minus, by simp⟩
      · exact ⟨_, _, rfl, by simp, by simp⟩
  | number x =>
      rw [literalTokens, numberTokens]
      split
      · exact ⟨_, _, rfl, by simp, by simp⟩
      · split
        · exact ⟨_, _, rfl, minus, by simp⟩
        · split
          · exact ⟨_, _, rfl, by simp, by simp⟩
          · exact ⟨_, _, rfl, by simp, by simp⟩
  | text s => exact ⟨_, _, rfl, by simp, by simp⟩
  | boolean b => exact ⟨_, _, rfl, by simp, by simp⟩

theorem operandFirst_literal (l : Literal) : OperandFirst (literalTokens l) := by
  obtain ⟨t, later, same, marked, -⟩ := exists_head_literal l
  rw [same]
  intro m first
  exact .inr (marked m (Option.some.inj first))

namespace Expr

/-- Without parentheses behind a sign stands what begins with a mark only if it is a cast or the
literal of a negative number. -/
theorem operandFirst_tokens {e : Expr} (plain : e.needsParensBehindSign = false) :
    OperandFirst e.tokens := by
  cases e with
  | literal l => exact operandFirst_literal l
  | null | ident | call | array => nofun
  | cast =>
      rintro m ⟨⟩
      exact .inl rfl
  | unary | binary | conditional | lambda => cases plain

theorem exists_number_of_minus {e : Expr} (plain : e.needsParensBehindSign = false)
    (signed : e.tokens.head? = some (.mark (.operator .sub))) : ∃ x, e = .literal (.number x) := by
  cases e with
  | literal l =>
      cases l with
      | number x => exact ⟨x, rfl⟩
      | integer i =>
          have nonnegative : ¬ i.toInt < 0 := of_decide_eq_false plain
          rw [tokens, literalTokens, if_neg nonnegative] at signed
          cases signed
      | text | boolean => cases signed
  | null | ident | call | array | cast => cases signed
  | unary | binary | conditional | lambda => cases plain

theorem render_unary (op : UnaryOp) (operand : Expr) :
    (Expr.unary op operand).render = op.sign ++
      if operand.needsParensBehindSign then "(" ++ operand.render ++ ")" else operand.render := by
  cases operand with
  | unary => simp only [render, needsParensBehindSign, if_true, String.append_assoc]
  | _ => rfl

theorem tokens?_parenthesized {e : Expr} (h : tokens? e.render.toList = some e.tokens) :
    tokens? (e.parenthesized e.render).toList = some (e.operandTokens e.tokens) := by
  rw [parenthesized, operandTokens]
  split
  · have inside := tokens?_enclosed h
    rw [String.toList_append, String.toList_append, List.append_assoc]
    exact inside
  · exact h

theorem tokens?_unary {op : UnaryOp} {e : Expr} (known : op = .negate ∨ op = .not)
    (h : tokens? e.render.toList = some e.tokens) :
    tokens? (Expr.unary op e).render.toList = some (Expr.unary op e).tokens := by
  rw [render_unary, tokens, String.toList_append]
  split
  case isTrue parens =>
    rw [String.toList_append, String.toList_append, List.append_assoc]
    rcases known with rfl | rfl
    · exact tokens?_minus (tokens?_enclosed h) (operandFirst_enclosed _) nofun
    · exact tokens?_bang (tokens?_enclosed h) (operandFirst_enclosed _)
  case isFalse plain =>
    have first := operandFirst_tokens (eq_false_of_ne_true plain)
    rcases known with rfl | rfl
    · rw [withSign]
      split
      case isTrue signed =>
        obtain ⟨x, rfl⟩ := exists_number_of_minus (eq_false_of_ne_true plain) signed
        obtain ⟨later, same⟩ : ∃ later, (Expr.literal (.number x)).tokens =
            .mark (.operator .sub) :: later := List.head?_eq_some_iff.mp signed
        rw [same] at h ⊢
        exact tokens?_minus_minus (head?_numberCode x) h
      case isFalse unsigned => exact tokens?_minus h first unsigned
    · exact tokens?_bang h first

mutual

/-- The text of an expression has the tokens of the expression. -/
theorem tokens?_render : (e : Expr) → (∀ d ∈ e.nodes, d.Spelled) →
    tokens? e.render.toList = some e.tokens
  | .literal l, _ => tokens?_literalCode l
  | .null, _ => by decide +kernel
  | .ident name, spelled => spelled _ List.mem_cons_self
  | .cast type operand, spelled => by
      have inner := tokens?_parenthesized
        (tokens?_render operand fun d member => spelled d (List.mem_cons_of_mem _ member))
      have close : tokens? (')' :: _) = _ := tokens?_rightParen _ |>.trans (congrArg _ inner)
      have text := tokens?_joined (tokens?_typeName (.of type)) (bounded_cons (by decide)) close
      simp only [render, String.toList_append, List.append_assoc]
      exact (tokens?_leftParen _).trans (congrArg _ text)
  | .unary op operand, spelled => by
      have inner := tokens?_render operand fun d member => spelled d (List.mem_cons_of_mem _ member)
      exact tokens?_unary (spelled _ List.mem_cons_self) inner
  | .binary op left right, spelled => by
      obtain ⟨named, spelled⟩ := List.forall_mem_cons.mp spelled
      obtain ⟨inLeft, inRight⟩ := List.forall_mem_append.mp spelled
      have first := tokens?_parenthesized (tokens?_render left inLeft)
      have second := tokens?_parenthesized (tokens?_render right inRight)
      have text := tokens?_spaced first (tokens?_spaced (tokens?_sign named) second)
      simp only [render, String.toList_append, List.append_assoc]
      exact text
  | .conditional test yes no, spelled => by
      obtain ⟨-, spelled⟩ := List.forall_mem_cons.mp spelled
      obtain ⟨spelled, inNo⟩ := List.forall_mem_append.mp spelled
      obtain ⟨inTest, inYes⟩ := List.forall_mem_append.mp spelled
      have first := tokens?_parenthesized (tokens?_render test inTest)
      have second := tokens?_parenthesized (tokens?_render yes inYes)
      have third := tokens?_parenthesized (tokens?_render no inNo)
      have question : tokens? ['?'] = some [.mark .question] := by decide +kernel
      have colon : tokens? [':'] = some [.mark .colon] := by decide +kernel
      have text := tokens?_spaced first (tokens?_spaced question
        (tokens?_spaced second (tokens?_spaced colon third)))
      simp only [render, String.toList_append, List.append_assoc]
      exact text
  | .call target args, spelled => by
      obtain ⟨named, spelled⟩ := List.forall_mem_cons.mp spelled
      have list := tokens?_renderAll args spelled
      have text := tokens?_joined named (bounded_cons (by decide)) (tokens?_enclosed list)
      simp only [render, String.toList_append, List.append_assoc]
      exact text
  | .array element items, spelled => by
      have list := tokens?_renderAll items fun d member => spelled d (List.mem_cons_of_mem _ member)
      have new : tokens? ['n', 'e', 'w'] = some [.word .new] := by decide +kernel
      have name := tokens?_typeName element
      have brackets : tokens? ['[', ']'] = some [.mark .leftBracket, .mark .rightBracket] := by
        decide +kernel
      have left : tokens? ['\x7b'] = some [.mark .leftBrace] := by decide +kernel
      have right : tokens? ['\x7d'] = some [.mark .rightBrace] := by decide +kernel
      have text := tokens?_spaced brackets (tokens?_spaced left (tokens?_spaced list right))
      have whole := tokens?_spaced new (tokens?_joined name (bounded_cons (by decide)) text)
      simp only [render, String.toList_append, List.append_assoc]
      exact whole
  | .lambda body, spelled => by
      have inner := tokens?_render body fun d member => spelled d (List.mem_cons_of_mem _ member)
      have head : tokens? ['(', ')'] = some [.mark .leftParen, .mark .rightParen] := by
        decide +kernel
      have arrow : tokens? ['=', '>'] = some [.mark .arrow] := by decide +kernel
      have text := tokens?_spaced head (tokens?_spaced arrow inner)
      simp only [render, String.toList_append]
      exact text

theorem tokens?_renderAll : (items : List Expr) → (∀ d ∈ nodesOf items, d.Spelled) →
    tokens? (", ".intercalate (renderAll items)).toList =
      some ([.mark .comma].intercalate (tokensAll items))
  | [], _ => by decide +kernel
  | [e], spelled => by
      have first := tokens?_render e (List.forall_mem_append.mp spelled).1
      simp only [renderAll, tokensAll, String.intercalate_singleton, List.intercalate_singleton]
      exact first
  | e :: next :: rest, spelled => by
      obtain ⟨here, later⟩ := List.forall_mem_append.mp spelled
      have first := tokens?_render e here
      have others := tokens?_renderAll (next :: rest) later
      have comma : tokens? [','] = some [.mark .comma] := by decide +kernel
      have text := tokens?_joined first (bounded_cons (by decide)) (tokens?_spaced comma others)
      simp only [renderAll, tokensAll, String.intercalate_cons_cons, String.toList_append,
        List.intercalate_cons_cons, List.append_assoc] at text ⊢
      exact text

end

end Expr

end Operands

end SheetCompiler.Code
