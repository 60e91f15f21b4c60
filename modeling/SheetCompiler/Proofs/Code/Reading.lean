import SheetCompiler.Proofs.Code.Spelling

/-!
# Generated expressions are read as they are meant

A reader of C# takes tokens by precedence: names, literals, calls, arrays and parentheses first,
then casts and signs, products, sums, comparisons by size, equations, conditionals, and functions
last. What it makes of the text of an expression is the expression itself, whatever stands inside
what. Only a literal below zero comes back as a minus sign before its magnitude, since a literal has
no sign in C#.
-/

namespace SheetCompiler.Code

/-- An expression as it is read. Integers have no sign, and other numbers are kept as they are
written. -/
inductive Tree where
  | integer (n : Nat)
  | number (numeral : String)
  | text (s : String)
  | truth (b : Bool)
  | null
  | name (s : String)
  | cast (type : ValueType) (operand : Tree)
  | unary (op : UnaryOp) (operand : Tree)
  | binary (op : BinaryOp) (left right : Tree)
  | conditional (test yes no : Tree)
  | call (target : String) (args : List Tree)
  | array (element : ElementType) (items : List Tree)
  | lambda (body : Tree)

/-- Takes tokens from the front of a list. -/
abbrev Reader (α : Type) := List Token → Option (α × List Token)

namespace Reader

/-- What a numeral stands for. -/
def numeralTree (text : String) : Tree :=
  if text.toList.all Char.isDigit then .integer (Decimal.digitsValue text.toList) else .number text

/-- Expressions with commas between them, up to a closing mark. -/
def listed (inner : Reader Tree) (close : Mark) : Nat → Reader (List Tree)
  | 0, _ => none
  | n + 1, ts => do
    let (first, ts) ← inner ts
    match ts with
    | .mark m :: ts =>
      if m = close then some ([first], ts)
      else if m = .comma then
        let (others, ts) ← listed inner close n ts
        some (first :: others, ts)
      else none
    | _ => none

/-- The expressions up to a closing mark, if there are any. -/
def items (inner : Reader Tree) (close : Mark) : Reader (List Tree) := fun ts =>
  if ts.head? = some (.mark close) then some ([], ts.tail) else listed inner close ts.length ts

/-- An expression and a closing parenthesis. -/
def closed (inner : Reader Tree) : Reader Tree := fun ts => do
  let (t, ts) ← inner ts
  match ts with
  | .mark .rightParen :: ts => some (t, ts)
  | _ => none

/-- Literals, names, calls, arrays and what stands in parentheses. -/
def primary (inner : Reader Tree) : Reader Tree
  | .numeral text :: ts => some (numeralTree text, ts)
  | .text s :: ts => some (.text s, ts)
  | .word .null :: ts => some (.null, ts)
  | .word (.truth b) :: ts => some (.truth b, ts)
  | .name target :: .mark .leftParen :: ts =>
    (items inner .rightParen ts).map (Prod.map (Tree.call target) id)
  | .name s :: ts => some (.name s, ts)
  | .word .new :: .word (.type t) :: .mark .leftBracket :: .mark .rightBracket ::
      .mark .leftBrace :: ts =>
    (items inner .rightBrace ts).map (Prod.map (Tree.array t) id)
  | .mark .leftParen :: ts => closed inner ts
  | _ => none

/-- Signs and casts before something primary. -/
def unary (inner : Reader Tree) : Reader Tree
  | .mark (.operator .sub) :: ts => (unary inner ts).map (Prod.map (Tree.unary .negate) id)
  | .mark .bang :: ts => (unary inner ts).map (Prod.map (Tree.unary .not) id)
  | .mark .leftParen :: .word (.type (.of t)) :: .mark .rightParen :: ts =>
    (unary inner ts).map (Prod.map (Tree.cast t) id)
  | ts => primary inner ts

/-- More operands behind operators of one level. They join from the left. -/
def chain (operand : Reader Tree) (level : List BinaryOp) : Nat → Tree → Reader Tree
  | 0, left, ts => some (left, ts)
  | n + 1, left, ts =>
    match ts with
    | .mark (.operator op) :: after =>
      if op ∈ level then do
        let (right, after) ← operand after
        chain operand level n (.binary op left right) after
      else some (left, ts)
    | _ => some (left, ts)

/-- Operands with operators of one level between them. -/
def joined (operand : Reader Tree) (level : List BinaryOp) : Reader Tree := fun ts => do
  let (left, ts) ← operand ts
  chain operand level ts.length left ts

/-- The levels of operators, the closest first. -/
def levels : List (List BinaryOp) :=
  [[.mul, .div], [.add, .sub], [.lt, .le, .gt, .ge], [.eq, .ne]]

/-- Operands with operators of some levels between them. -/
def binary (operand : Reader Tree) : List (List BinaryOp) → Reader Tree
  | [] => operand
  | level :: looser => binary (joined operand level) looser

/-- A conditional, or only what would be its test. -/
def conditional (inner : Reader Tree) : Reader Tree := fun ts => do
  let (test, ts) ← binary (unary inner) levels ts
  match ts with
  | .mark .question :: ts => do
    let (yes, ts) ← inner ts
    match ts with
    | .mark .colon :: ts => do
      let (no, ts) ← inner ts
      some (.conditional test yes no, ts)
    | _ => none
  | ts => some (test, ts)

/-- A function without parameters, or a conditional. -/
def functional (inner : Reader Tree) : Reader Tree
  | .mark .leftParen :: .mark .rightParen :: .mark .arrow :: ts =>
    (inner ts).map (Prod.map Tree.lambda id)
  | ts => conditional inner ts

/-- An expression whose parts are nested no deeper than a bound. -/
def expression : Nat → Reader Tree
  | 0 => fun _ => none
  | n + 1 => functional (expression n)

end Reader

/-- What a text is read as. No part is nested deeper than there are tokens. -/
def read? (code : String) : Option Tree := do
  let ts ← tokens? code.toList
  match Reader.expression ts.length ts with
  | some (t, []) => some t
  | _ => none

/-- A literal as it is read. -/
def literalTree : Literal → Tree
  | .integer i =>
    if i.toInt < 0 then .unary .negate (.integer i.toInt.natAbs) else .integer i.toInt.natAbs
  | .number x =>
    if x < 0.0 then .unary .negate (.number (magnitudeCode x)) else .number (magnitudeCode x)
  | .text s => .text s
  | .boolean b => .truth b

namespace Expr

mutual

/-- The expression as it is to be read. -/
def tree : Expr → Tree
  | .literal value => literalTree value
  | .null => .null
  | .ident name => .name name
  | .cast type operand => .cast type operand.tree
  | .unary op operand => .unary op operand.tree
  | .binary op left right => .binary op left.tree right.tree
  | .conditional test yes no => .conditional test.tree yes.tree no.tree
  | .call target args => .call target (treeAll args)
  | .array element items => .array element (treeAll items)
  | .lambda body => .lambda body.tree

/-- The expressions as they are to be read. -/
def treeAll : List Expr → List Tree
  | [] => []
  | e :: rest => e.tree :: treeAll rest

end

end Expr

/-- The expression is written with names, operators and numerals that C# has. -/
def Expr.Readable : Expr → Prop
  | .literal (.number x) => OneNumeral x
  | e => e.Spelled

namespace Reader

section Operators

variable {operand inner : Reader Tree} {ts us rest : List Token} {t l r : Tree} {op : BinaryOp}
  {level : List BinaryOp}

theorem chain_of_head (stops : ∀ op, rest.head? = some (.mark (.operator op)) → op ∉ level)
    (n : Nat) (t : Tree) : chain operand level n t rest = some (t, rest) := by
  cases n with
  | zero => rfl
  | succ n =>
      unfold chain
      split
      · case h_1 op after => rw [if_neg (stops op rfl)]
      · rfl

theorem joined_of_head (read : operand ts = some (t, rest))
    (stops : ∀ op, rest.head? = some (.mark (.operator op)) → op ∉ level) :
    joined operand level ts = some (t, rest) := by
  rw [joined, read]
  exact chain_of_head stops _ t

theorem joined_operator (member : op ∈ level)
    (left : operand ts = some (l, .mark (.operator op) :: us)) (right : operand us = some (r, rest))
    (stops : ∀ op, rest.head? ≠ some (.mark (.operator op))) :
    joined operand level ts = some (.binary op l r, rest) := by
  rw [joined, left]
  change chain operand level (us.length + 1) l (.mark (.operator op) :: us) = _
  rw [chain, if_pos member, right]
  exact chain_of_head (fun op first => absurd first (stops op)) _ _

/-- Where no operator follows, an operand is read alone. -/
theorem binary_of_head (read : operand ts = some (t, rest))
    (stops : ∀ op, rest.head? ≠ some (.mark (.operator op))) (levels : List (List BinaryOp)) :
    binary operand levels ts = some (t, rest) := by
  induction levels generalizing operand with
  | nil => exact read
  | cons level looser ih =>
      exact ih (joined_of_head read fun op first => absurd first (stops op))

/-- An operator between two operands joins them at its level, and closer levels leave it alone. -/
theorem binary_operator {levels : List (List BinaryOp)} (member : ∃ level ∈ levels, op ∈ level)
    (left : operand ts = some (l, .mark (.operator op) :: us)) (right : operand us = some (r, rest))
    (stops : ∀ op, rest.head? ≠ some (.mark (.operator op))) :
    binary operand levels ts = some (.binary op l r, rest) := by
  induction levels generalizing operand with
  | nil =>
      obtain ⟨level, none, -⟩ := member
      cases none
  | cons level looser ih =>
      by_cases here : op ∈ level
      · exact binary_of_head (joined_operator here left right stops) stops looser
      · have others : ∃ level ∈ looser, op ∈ level := by
          obtain ⟨found, member, inside⟩ := member
          rcases List.mem_cons.mp member with rfl | later
          · exact absurd inside here
          · exact ⟨found, later, inside⟩
        refine ih others (joined_of_head left ?_) ?_
        · rintro other ⟨⟩
          exact here
        · exact joined_of_head right fun op first => absurd first (stops op)

theorem exists_level (named : ∀ text, op ≠ .other text) : ∃ level ∈ levels, op ∈ level := by
  cases op with
  | other text => exact absurd rfl (named text)
  | _ => decide

end Operators

/-- The marks that end an expression. -/
def closers : List Mark :=
  [.rightParen, .rightBrace, .comma, .colon]

/-- The tokens do not go on with the expression before them. -/
def Stops (rest : List Token) : Prop :=
  ∀ t ∈ rest.head?, ∃ m ∈ closers, t = .mark m

section Stops

variable {rest : List Token} {m : Mark}

theorem stops_nil : Stops [] := nofun

theorem stops_mark (member : m ∈ closers) : Stops (.mark m :: rest) := by
  rintro t ⟨⟩
  exact ⟨m, member, rfl⟩

theorem Stops.head?_ne (h : Stops rest) (other : m ∉ closers) : rest.head? ≠ some (.mark m) := by
  intro first
  obtain ⟨closer, member, same⟩ := h _ first
  cases same
  exact other member

theorem Stops.not_operator (h : Stops rest) (op : BinaryOp) :
    rest.head? ≠ some (.mark (.operator op)) :=
  h.head?_ne (by simp [closers])

end Stops

section Parts

variable {inner : Reader Tree} {ts us rest : List Token} {t l r : Tree} {op : BinaryOp}

/-- Where neither an operator nor a question mark follows, an operand is all there is. -/
theorem conditional_of_unary (read : unary inner ts = some (t, rest)) (stops : Stops rest) :
    conditional inner ts = some (t, rest) := by
  rw [conditional, binary_of_head read stops.not_operator]
  simp only [Option.bind_eq_bind, Option.bind_some]
  split
  · exact absurd rfl (stops.head?_ne (by decide))
  · rfl

theorem conditional_of_operator (named : ∀ text, op ≠ .other text)
    (left : unary inner ts = some (l, .mark (.operator op) :: us))
    (right : unary inner us = some (r, rest)) (stops : Stops rest) :
    conditional inner ts = some (.binary op l r, rest) := by
  rw [conditional, binary_operator (exists_level named) left right stops.not_operator]
  simp only [Option.bind_eq_bind, Option.bind_some]
  split
  · exact absurd rfl (stops.head?_ne (by decide))
  · rfl

theorem conditional_question {vs : List Token} {y z : Tree}
    (test : unary inner ts = some (t, .mark .question :: us))
    (yes : inner us = some (y, .mark .colon :: vs)) (no : inner vs = some (z, rest)) :
    conditional inner ts = some (.conditional t y z, rest) := by
  rw [conditional, binary_of_head test nofun]
  simp only [Option.bind_eq_bind, Option.bind_some, yes, no]

theorem functional_of_ne (plain : ts.take 2 ≠ [.mark .leftParen, .mark .rightParen]) :
    functional inner ts = conditional inner ts := by
  unfold functional
  split
  · exact absurd rfl plain
  · rfl

theorem closed_mark (read : inner ts = some (t, .mark .rightParen :: rest)) :
    closed inner ts = some (t, rest) := by
  rw [closed, read]
  rfl

/-- What stands in parentheses is no cast, unless it begins with the name of a type. -/
theorem unary_enclosed (read : inner ts = some (t, .mark .rightParen :: rest))
    (plain : ∀ type, ts.head? ≠ some (.word (.type type))) :
    unary inner (.mark .leftParen :: ts) = some (t, rest) := by
  have primarily :
      unary inner (.mark .leftParen :: ts) = primary inner (.mark .leftParen :: ts) := by
    unfold unary
    split
    · case h_1 same => cases same
    · case h_2 same => cases same
    · case h_3 same =>
        cases same
        exact absurd rfl (plain _)
    · rfl
  rw [primarily]
  exact closed_mark read

end Parts

section Sequences

variable {inner : Reader Tree} {ts us rest : List Token} {t : Tree} {close : Mark}

/-- The token can be the first of an expression. -/
def Begins (t : Token) : Prop :=
  (∀ m ∈ closers, t ≠ .mark m) ∧ ∀ type, t ≠ .word (.type type)

theorem begins_mark {m : Mark} (other : m ∉ closers) : Begins (.mark m) :=
  ⟨fun _ member same => other (Token.mark.inj same ▸ member), nofun⟩

theorem exists_begins_literal (l : Literal) :
    ∃ t later, literalTokens l = t :: later ∧ Begins t := by
  obtain ⟨t, later, same, marked, typed⟩ := exists_head_literal l
  refine ⟨t, later, same, ?_, typed⟩
  rintro m member rfl
  rw [marked m rfl] at member
  revert member
  decide

theorem exists_begins_operand {e : Expr} (h : ∃ t later, e.tokens = t :: later ∧ Begins t)
    (rest : List Token) :
    ∃ t later, e.operandTokens e.tokens ++ rest = t :: later ∧ Begins t := by
  rw [Expr.operandTokens]
  split
  · exact ⟨_, _, rfl, begins_mark (by decide)⟩
  · obtain ⟨t, later, same, begins⟩ := h
    exact ⟨t, later ++ rest, by rw [same, List.cons_append], begins⟩

theorem exists_mark_withSign (op : UnaryOp) (ts : List Token) :
    ∃ m later, withSign op ts = .mark m :: later ∧ m ∉ .leftParen :: closers := by
  cases op with
  | negate =>
      rw [withSign]
      split
      · exact ⟨_, _, rfl, by decide⟩
      · exact ⟨_, _, rfl, by decide⟩
  | not => exact ⟨_, _, rfl, by decide⟩
  | other text => exact ⟨_, _, rfl, by simp [closers]⟩

/-- No expression begins with a closing mark or with a type. -/
theorem exists_begins : (e : Expr) → ∃ t later, e.tokens = t :: later ∧ Begins t
  | .literal l => exists_begins_literal l
  | .null | .ident _ | .call .. | .array .. => ⟨_, _, rfl, nofun, nofun⟩
  | .cast .. | .lambda _ => ⟨_, _, rfl, begins_mark (by decide)⟩
  | .unary op _ => by
      obtain ⟨m, later, same, other⟩ := exists_mark_withSign op _
      exact ⟨_, later, same, begins_mark fun member => other (List.mem_cons_of_mem _ member)⟩
  | .binary _ left _ => exists_begins_operand (exists_begins left) _
  | .conditional test _ _ => exists_begins_operand (exists_begins test) _

/-- The reader takes the tokens of an expression and gives the expression. -/
def ReadsFully (inner : Reader Tree) (e : Expr) : Prop :=
  ∀ rest, Stops rest → inner (e.tokens ++ rest) = some (e.tree, rest)

theorem listed_last (read : inner ts = some (t, .mark close :: rest)) (n : Nat) :
    listed inner close (n + 1) ts = some ([t], rest) := by
  rw [listed, read]
  simp

theorem listed_more (other : close ≠ .comma) (read : inner ts = some (t, .mark .comma :: us))
    {n : Nat} {others : List Tree} (later : listed inner close n us = some (others, rest)) :
    listed inner close (n + 1) ts = some (t :: others, rest) := by
  rw [listed, read]
  simp [Ne.symm other, later]

theorem listed_tokens (closes : close ∈ closers) (other : close ≠ .comma)
    {items : List Expr} (each : ∀ e ∈ items, ReadsFully inner e) (nonempty : items ≠ [])
    {n : Nat} (enough : items.length ≤ n) (rest : List Token) :
    listed inner close n
      ([.mark .comma].intercalate (Expr.tokensAll items) ++ .mark close :: rest) =
      some (Expr.treeAll items, rest) := by
  induction items generalizing n with
  | nil => exact absurd rfl nonempty
  | cons e items ih =>
      obtain ⟨here, later⟩ := List.forall_mem_cons.mp each
      obtain ⟨n, rfl⟩ : ∃ m, n = m + 1 :=
        Nat.exists_eq_add_one.mpr (Nat.lt_of_lt_of_le (Nat.succ_pos _) enough)
      cases items with
      | nil =>
          simp only [Expr.tokensAll, List.intercalate_singleton]
          exact listed_last (here _ (stops_mark closes)) n
      | cons next items =>
          have others := ih later (List.cons_ne_nil _ _) (Nat.le_of_succ_le_succ enough)
          simp only [Expr.tokensAll, List.intercalate_cons_cons, List.append_assoc,
            List.singleton_append] at others ⊢
          exact listed_more other (here _ (stops_mark (by decide))) others

theorem length_le_intercalate (items : List Expr) :
    items.length ≤ ([.mark .comma].intercalate (Expr.tokensAll items)).length + 1 := by
  induction items with
  | nil => exact Nat.zero_le _
  | cons e items ih =>
      cases items with
      | nil => exact Nat.succ_le_succ (Nat.zero_le _)
      | cons next items =>
          simp only [Expr.tokensAll, List.intercalate_cons_cons, List.length_append,
            List.length_cons, List.length_nil] at ih ⊢
          omega

theorem items_tokens {args : List Expr} (closes : close ∈ closers) (other : close ≠ .comma)
    (each : ∀ e ∈ args, ReadsFully inner e) (rest : List Token) :
    items inner close ([.mark .comma].intercalate (Expr.tokensAll args) ++ .mark close :: rest) =
      some (Expr.treeAll args, rest) := by
  cases args with
  | nil => exact if_pos rfl
  | cons e args =>
      have long := length_le_intercalate (e :: args)
      have first : ([.mark .comma].intercalate (Expr.tokensAll (e :: args)) ++
          .mark close :: rest).head? ≠ some (.mark close) := by
        obtain ⟨t, later, same, begins⟩ := exists_begins e
        have last := begins.1 close closes
        cases args with
        | nil => simpa [Expr.tokensAll, same] using last
        | cons next args => simpa [Expr.tokensAll, List.intercalate_cons_cons, same] using last
      rw [items, if_neg first]
      refine listed_tokens closes other each (List.cons_ne_nil _ _) ?_ rest
      rw [List.length_append]
      exact Nat.le_trans long (Nat.add_le_add_left (Nat.succ_pos _) _)

end Sequences

section Lambdas

variable {e : Expr}

/-- The expression is no operation between others and no function. -/
def Simple : Expr → Bool
  | .binary .. | .conditional .. | .lambda _ => false
  | _ => true

theorem take_of_first {t : Token} {ts : List Token} (other : t ≠ .mark .leftParen) :
    (t :: ts).take 2 ≠ [.mark .leftParen, .mark .rightParen] :=
  fun same => other (List.cons.inj same).1

theorem take_of_second {t u : Token} {ts : List Token} (other : u ≠ .mark .rightParen) :
    (t :: u :: ts).take 2 ≠ [.mark .leftParen, .mark .rightParen] :=
  fun same => other (List.cons.inj (List.cons.inj same).2).1

theorem take_of_simple (simple : Simple e) (rest : List Token) :
    (e.tokens ++ rest).take 2 ≠ [.mark .leftParen, .mark .rightParen] := by
  cases e with
  | literal l =>
      obtain ⟨t, later, same, marked, -⟩ := exists_head_literal l
      rw [Expr.tokens, same]
      refine take_of_first ?_
      rintro rfl
      cases marked _ rfl
  | null | ident | call | array =>
      refine take_of_first ?_
      rintro ⟨⟩
  | cast =>
      refine take_of_second ?_
      rintro ⟨⟩
  | unary op operand =>
      obtain ⟨m, later, same, other⟩ := exists_mark_withSign op _
      rw [Expr.tokens, same]
      refine take_of_first ?_
      rintro ⟨⟩
      exact other List.mem_cons_self
  | binary | conditional | lambda => cases simple

theorem take_operand (e : Expr) (rest : List Token) :
    (e.operandTokens e.tokens ++ rest).take 2 ≠ [.mark .leftParen, .mark .rightParen] := by
  rw [Expr.operandTokens]
  split
  · obtain ⟨t, later, same, begins⟩ := exists_begins e
    rw [same]
    exact take_of_second (begins.1 _ (by decide))
  · case isFalse plain =>
      refine take_of_simple ?_ rest
      cases e with
      | binary | conditional | lambda => exact absurd rfl plain
      | _ => rfl

end Lambdas

section Expressions

variable {inner : Reader Tree} {e : Expr}

/-- The reader of signs and casts takes the tokens of an expression and gives the expression. -/
def ReadsSimply (inner : Reader Tree) (e : Expr) : Prop :=
  ∀ rest, rest.head? ≠ some (.mark .leftParen) →
    unary inner (e.tokens ++ rest) = some (e.tree, rest)

/-- The same for the tokens of an operand. -/
def ReadsOperand (inner : Reader Tree) (e : Expr) : Prop :=
  ∀ rest, rest.head? ≠ some (.mark .leftParen) →
    unary inner (e.operandTokens e.tokens ++ rest) = some (e.tree, rest)

theorem ReadsFully.unary_enclosed (h : ReadsFully inner e) (rest : List Token) :
    unary inner (enclosed e.tokens ++ rest) = some (e.tree, rest) := by
  obtain ⟨t, later, same, begins⟩ := exists_begins e
  have read := h (.mark .rightParen :: rest) (stops_mark (by decide))
  have typed : ∀ type,
      (e.tokens ++ .mark .rightParen :: rest).head? ≠ some (.word (.type type)) := by
    intro type first
    rw [same] at first
    exact begins.2 type (Option.some.inj first)
  have text := Reader.unary_enclosed read typed
  rw [enclosed, List.cons_append, List.append_assoc]
  exact text

theorem readsOperand_of (fully : e.needsParens = true → ReadsFully inner e)
    (simply : e.needsParens = false → ReadsSimply inner e) : ReadsOperand inner e := by
  intro rest plain
  rw [Expr.operandTokens]
  cases parens : e.needsParens with
  | true => exact (fully parens).unary_enclosed rest
  | false => exact simply parens rest plain

section Primary

theorem unary_numeral (inner : Reader Tree) (text : String) (rest : List Token) :
    unary inner (.numeral text :: rest) = some (numeralTree text, rest) := rfl

theorem numeralTree_digitChars (n : Nat) :
    numeralTree (String.ofList (Decimal.digitChars n)) = .integer n := by
  have digits : (Decimal.digitChars n).all Char.isDigit :=
    List.all_eq_true.mpr isDigit_of_mem_digitChars
  have value : Decimal.digitsValue (Decimal.digitChars n) = n := Nat.ofDigitChars_ten_toDigits
  rw [numeralTree, String.toList_ofList, if_pos digits, value]

theorem readsSimply_literal {l : Literal} (readable : (Expr.literal l).Readable) :
    ReadsSimply inner (.literal l) := by
  intro rest _
  cases l with
  | integer i =>
      have numeral := unary_numeral inner (String.ofList (Decimal.digitChars i.toInt.natAbs)) rest
      rw [numeralTree_digitChars] at numeral
      rw [Expr.tokens, literalTokens, Expr.tree, literalTree]
      split
      · exact congrArg (Option.map _) numeral
      · exact numeral
  | number x =>
      obtain ⟨point, same⟩ := OneNumeral.numberTokens_eq readable
      have numeral := unary_numeral inner (magnitudeCode x) rest
      rw [numeralTree, point] at numeral
      rw [Expr.tokens, literalTokens, same, Expr.tree, literalTree]
      split
      · exact congrArg (Option.map _) numeral
      · exact numeral
  | text s => rfl
  | boolean b => rfl

theorem readsSimply_ident (name : String) : ReadsSimply inner (.ident name) := by
  intro rest plain
  change primary inner (.name name :: rest) = some (.name name, rest)
  rw [primary]
  rintro ts rfl
  exact plain rfl

theorem readsSimply_cast {type : ValueType} (operand : ReadsOperand inner e) :
    ReadsSimply inner (.cast type e) := by
  intro rest plain
  have read := operand rest plain
  exact congrArg (Option.map _) read

theorem readsSimply_unary {op : UnaryOp} (known : op = .negate ∨ op = .not)
    (fully : e.needsParensBehindSign = true → ReadsFully inner e)
    (simply : e.needsParensBehindSign = false → ReadsSimply inner e)
    (unsigned : e.needsParensBehindSign = false → e.tokens.head? ≠ some (.mark (.operator .sub))) :
    ReadsSimply inner (.unary op e) := by
  intro rest plain
  rw [Expr.tokens, Expr.tree]
  cases parens : e.needsParensBehindSign with
  | true =>
      have read := (fully parens).unary_enclosed rest
      rw [if_pos rfl]
      rcases known with rfl | rfl
      · exact congrArg (Option.map _) read
      · exact congrArg (Option.map _) read
  | false =>
      have read := simply parens rest plain
      rw [if_neg Bool.false_ne_true]
      rcases known with rfl | rfl
      · rw [withSign, if_neg (unsigned parens)]
        exact congrArg (Option.map _) read
      · exact congrArg (Option.map _) read

theorem readsSimply_call {target : String} {args : List Expr}
    (each : ∀ e ∈ args, ReadsFully inner e) : ReadsSimply inner (.call target args) := by
  intro rest _
  have close : Mark.rightParen ∈ closers ∧ .rightParen ≠ Mark.comma := by decide
  have read := items_tokens close.1 close.2 each rest
  rw [Expr.tokens, List.cons_append, List.cons_append, List.append_assoc]
  exact congrArg (Option.map _) read

theorem readsSimply_array {element : ElementType} {args : List Expr}
    (each : ∀ e ∈ args, ReadsFully inner e) : ReadsSimply inner (.array element args) := by
  intro rest _
  have close : Mark.rightBrace ∈ closers ∧ .rightBrace ≠ Mark.comma := by decide
  have read := items_tokens close.1 close.2 each rest
  rw [Expr.tokens]
  simp only [List.cons_append, List.append_assoc]
  exact congrArg (Option.map _) read

end Primary

section Full

variable {n : Nat}

theorem readsFully_of_readsSimply (simple : Simple e) (h : ReadsSimply (expression n) e) :
    ReadsFully (expression (n + 1)) e := by
  intro rest stops
  rw [expression, functional_of_ne (take_of_simple simple rest)]
  exact conditional_of_unary (h rest (stops.head?_ne (by decide))) stops

theorem readsFully_operand (h : ReadsOperand (expression n) e) {rest : List Token}
    (stops : Stops rest) :
    expression (n + 1) (e.operandTokens e.tokens ++ rest) = some (e.tree, rest) := by
  rw [expression, functional_of_ne (take_operand e rest)]
  exact conditional_of_unary (h rest (stops.head?_ne (by decide))) stops

theorem readsFully_binary {op : BinaryOp} {l r : Expr} (named : ∀ text, op ≠ .other text)
    (left : ReadsOperand (expression n) l) (right : ReadsOperand (expression n) r) :
    ReadsFully (expression (n + 1)) (.binary op l r) := by
  intro rest stops
  rw [expression, Expr.tokens, List.append_assoc, functional_of_ne (take_operand l _)]
  refine conditional_of_operator named (left _ ?_) (right rest (stops.head?_ne (by decide))) stops
  rintro ⟨⟩

theorem readsFully_conditional {test yes no : Expr}
    (tested : ReadsOperand (expression (n + 1)) test) (chosen : ReadsOperand (expression n) yes)
    (other : ReadsOperand (expression n) no) :
    ReadsFully (expression (n + 2)) (.conditional test yes no) := by
  intro rest stops
  have second := fun later => readsFully_operand chosen
    (stops_mark (by decide) : Stops (.mark .colon :: later))
  rw [expression, Expr.tokens, List.append_assoc, functional_of_ne (take_operand test _),
    List.cons_append, List.append_assoc, List.cons_append]
  refine conditional_question (tested _ ?_) (second _) (readsFully_operand other stops)
  rintro ⟨⟩

theorem readsFully_lambda (h : ReadsFully (expression n) e) :
    ReadsFully (expression (n + 1)) (.lambda e) := by
  intro rest stops
  exact congrArg (Option.map _) (h rest stops)

end Full

/-- Behind a sign stands no other sign. -/
theorem head?_ne_minus (readable : e.Readable) (plain : e.needsParensBehindSign = false) :
    e.tokens.head? ≠ some (.mark (.operator .sub)) := by
  intro signed
  obtain ⟨x, rfl⟩ := Expr.exists_number_of_minus plain signed
  have above : ¬ x < 0.0 := of_decide_eq_false plain
  rw [Expr.tokens, literalTokens, (OneNumeral.numberTokens_eq readable).2, if_neg above] at signed
  cases signed

theorem simple_of_not_needsParens (plain : e.needsParens = false) : Simple e := by
  cases e with
  | binary | conditional | lambda => cases plain
  | _ => rfl

theorem simple_of_not_needsParensBehindSign (plain : e.needsParensBehindSign = false) :
    Simple e := by
  cases e with
  | unary | binary | conditional | lambda => cases plain
  | _ => rfl

theorem length_le_operandTokens (e : Expr) :
    e.tokens.length ≤ (e.operandTokens e.tokens).length := by
  rw [Expr.operandTokens]
  split
  · simp only [enclosed, List.length_cons, List.length_append]
    omega
  · exact Nat.le_refl _

theorem length_withSign {op : UnaryOp} {ts : List Token}
    (unsigned : ts.head? ≠ some (.mark (.operator .sub))) :
    (withSign op ts).length = ts.length + 1 := by
  cases op with
  | negate => rw [withSign, if_neg unsigned, List.length_cons]
  | not | other => rfl

theorem length_lt_unary (op : UnaryOp) (readable : e.Readable) :
    e.tokens.length < (Expr.unary op e).tokens.length := by
  rw [Expr.tokens]
  cases parens : e.needsParensBehindSign with
  | true =>
      rw [if_pos rfl, length_withSign (by simp [enclosed])]
      simp only [enclosed, List.length_cons, List.length_append]
      omega
  | false =>
      rw [if_neg Bool.false_ne_true, length_withSign (head?_ne_minus readable parens)]
      exact Nat.lt_succ_self _

theorem length_pos (e : Expr) : 0 < e.tokens.length := by
  obtain ⟨t, later, same, -⟩ := exists_begins e
  rw [same]
  exact Nat.succ_pos _

/-- An expression is read wherever it stands, if the reader goes deep enough. -/
structure Reads (e : Expr) : Prop where
  fully : ∀ n, e.tokens.length ≤ n → ReadsFully (expression n) e
  simply : Simple e → ∀ n, e.tokens.length ≤ n + 1 → ReadsSimply (expression n) e

theorem Reads.operand (h : Reads e) {n : Nat} (deep : e.tokens.length ≤ n) :
    ReadsOperand (expression n) e :=
  readsOperand_of (fun _ => h.fully n deep)
    fun plain => h.simply (simple_of_not_needsParens plain) n (Nat.le_succ_of_le deep)

theorem reads_of_simply (simple : Simple e)
    (h : ∀ n, e.tokens.length ≤ n + 1 → ReadsSimply (expression n) e) : Reads e := by
  refine ⟨fun n deep => ?_, fun _ => h⟩
  obtain ⟨n, rfl⟩ : ∃ m, n = m + 1 :=
    Nat.exists_eq_add_one.mpr (Nat.lt_of_lt_of_le (length_pos e) deep)
  exact readsFully_of_readsSimply simple (h n deep)

mutual

theorem reads : (e : Expr) → (∀ d ∈ e.nodes, d.Readable) → Reads e
  | .literal l, readable =>
      reads_of_simply rfl fun _ _ => readsSimply_literal (readable _ List.mem_cons_self)
  | .null, _ => reads_of_simply rfl fun _ _ _ _ => rfl
  | .ident name, _ => reads_of_simply rfl fun _ _ => readsSimply_ident name
  | .cast type operand, readable => by
      have inner := reads operand fun d member => readable d (List.mem_cons_of_mem _ member)
      have shorter := length_le_operandTokens operand
      refine reads_of_simply rfl fun n deep => readsSimply_cast (inner.operand ?_)
      simp only [Expr.tokens, List.length_cons] at deep
      omega
  | .unary op operand, readable => by
      obtain ⟨known, readable⟩ := List.forall_mem_cons.mp readable
      have inner := reads operand readable
      have here := readable operand operand.mem_nodes
      have shorter := length_lt_unary op here
      refine reads_of_simply rfl fun n deep => readsSimply_unary known ?_ ?_ (head?_ne_minus here)
      · exact fun _ => inner.fully n (by omega)
      · exact fun plain => inner.simply (simple_of_not_needsParensBehindSign plain) n (by omega)
  | .binary op left right, readable => by
      obtain ⟨named, readable⟩ := List.forall_mem_cons.mp readable
      obtain ⟨inLeft, inRight⟩ := List.forall_mem_append.mp readable
      have first := reads left inLeft
      have second := reads right inRight
      have shorter := length_le_operandTokens left
      have shorter' := length_le_operandTokens right
      refine ⟨fun n deep => ?_, nofun⟩
      simp only [Expr.tokens, List.length_append, List.length_cons] at deep
      obtain ⟨n, rfl⟩ : ∃ m, n = m + 1 := Nat.exists_eq_add_one.mpr (by omega)
      exact readsFully_binary named (first.operand (by omega)) (second.operand (by omega))
  | .conditional test yes no, readable => by
      obtain ⟨-, readable⟩ := List.forall_mem_cons.mp readable
      obtain ⟨readable, inNo⟩ := List.forall_mem_append.mp readable
      obtain ⟨inTest, inYes⟩ := List.forall_mem_append.mp readable
      have first := reads test inTest
      have second := reads yes inYes
      have third := reads no inNo
      have shorter := length_le_operandTokens test
      have shorter' := length_le_operandTokens yes
      have shorter'' := length_le_operandTokens no
      refine ⟨fun n deep => ?_, nofun⟩
      simp only [Expr.tokens, List.length_append, List.length_cons] at deep
      obtain ⟨n, rfl⟩ : ∃ m, n = m + 2 := ⟨n - 2, by omega⟩
      exact readsFully_conditional (first.operand (by omega)) (second.operand (by omega))
        (third.operand (by omega))
  | .call target args, readable => by
      have each := readsAll args fun d member => readable d (List.mem_cons_of_mem _ member)
      refine reads_of_simply rfl fun n deep => readsSimply_call fun e member => each e member n ?_
      simp only [Expr.tokens, List.length_cons, List.length_append] at deep
      omega
  | .array element items, readable => by
      have each := readsAll items fun d member => readable d (List.mem_cons_of_mem _ member)
      refine reads_of_simply rfl fun n deep => readsSimply_array fun e member => each e member n ?_
      simp only [Expr.tokens, List.length_cons, List.length_append] at deep
      omega
  | .lambda body, readable => by
      have inner := reads body fun d member => readable d (List.mem_cons_of_mem _ member)
      refine ⟨fun n deep => ?_, nofun⟩
      simp only [Expr.tokens, List.length_cons] at deep
      obtain ⟨n, rfl⟩ : ∃ m, n = m + 1 := Nat.exists_eq_add_one.mpr (by omega)
      exact readsFully_lambda (inner.fully n (by omega))

theorem readsAll : (items : List Expr) → (∀ d ∈ Expr.nodesOf items, d.Readable) →
    ∀ e ∈ items, ∀ n, ([.mark .comma].intercalate (Expr.tokensAll items)).length ≤ n →
      ReadsFully (expression n) e
  | [], _ => nofun
  | [e], readable => by
      have here := reads e (List.forall_mem_append.mp readable).1
      intro d member n deep
      cases List.mem_singleton.mp member
      simp only [Expr.tokensAll, List.intercalate_singleton] at deep
      exact here.fully n deep
  | e :: next :: rest, readable => by
      obtain ⟨inFirst, inOthers⟩ := List.forall_mem_append.mp readable
      have here := reads e inFirst
      have others := readsAll (next :: rest) inOthers
      intro d member n deep
      simp only [Expr.tokensAll, List.intercalate_cons_cons, List.length_append] at deep others
      rcases List.mem_cons.mp member with rfl | later
      · exact here.fully n (by omega)
      · exact others d later n (by omega)

end

end Expressions

end Reader

/-- The text of an expression is read as the expression. -/
theorem read?_render (e : Expr) (readable : ∀ d ∈ e.nodes, d.Readable) :
    read? e.render = some e.tree := by
  have spelled : ∀ d ∈ e.nodes, d.Spelled := by
    intro d member
    have here := readable d member
    cases d with
    | literal => trivial
    | _ => exact here
  have read := (Reader.reads e readable).fully _ (Nat.le_refl _) [] Reader.stops_nil
  rw [List.append_nil] at read
  rw [read?, Expr.tokens?_render e spelled]
  simp only [Option.bind_eq_bind, Option.bind_some, read]

example : read? "a - b * c - d" = some (.binary .sub
    (.binary .sub (.name "a") (.binary .mul (.name "b") (.name "c"))) (.name "d")) := by cbv

/-- Signs, casts and operators in one another, inside a conditional with a call. -/
def nested : Expr :=
  .conditional
    (.binary .lt (.unary .negate (.unary .negate (.ident "rate"))) (.literal (.number (-1.5))))
    (.binary .sub (.binary .sub (.ident "total.Value") (.literal (.integer 2)))
      (.cast .number (.binary .mul (.ident "count") (.ident "rate"))))
    (.call "XlRuntime.IfError"
      [.lambda (.conditional (.ident "flag") (.literal (.text "a\"b")) .null),
        .lambda (.array .object [])])

theorem nested_readable : ∀ d ∈ nested.nodes, d.Readable := by
  have names : ∀ s ∈ ["rate", "total.Value", "count", "flag", "XlRuntime.IfError"], IsName s := by
    decide +kernel
  have tokens : numberTokens (-1.5) = [.mark (.operator .sub), .numeral "1.5"] := by decide +kernel
  have numeral : OneNumeral (-1.5) :=
    ⟨"1.5", .inr ⟨by decide +kernel, by rw [tokens?_numberCode, tokens]⟩⟩
  simp only [List.forall_mem_cons] at names
  simp only [nested, Expr.nodes, Expr.nodesOf, List.forall_mem_cons, List.forall_mem_append,
    Expr.Readable, Expr.Spelled]
  simp [names, numeral]

theorem nested_read :
    nested.render = "(-(-rate) < (-1.5)) ? ((total.Value - 2) - (double)(count * rate)) : " ++
        "XlRuntime.IfError(() => flag ? \"a\\\"b\" : null, () => new object[] \x7b  \x7d)" ∧
      read? nested.render = some nested.tree :=
  ⟨by decide +kernel, read?_render nested nested_readable⟩

end SheetCompiler.Code
