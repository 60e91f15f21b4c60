import Mathlib.Data.List.Induction
import SheetCompiler.Proofs.Code.Spelling

/-!
# Comparisons that read as type arguments

C# takes a name, a `<`, names with commas between them and a `>` before a parenthesis for a call
with type arguments. Expressions never mean that, but neighbouring items of a list can look like it:
one ends in a name that is compared with a name, and a later one compares a name with what begins
with a parenthesis. The tokens are run through a machine that finds the pattern; what it finds in
the text of an expression can be told from the lists of the expression.
-/

namespace SheetCompiler.Code

/-- The tokens of names with commas between them. -/
def commaTokens : List String → List Token
  | [] => []
  | [n] => [.name n]
  | n :: names => .name n :: .mark .comma :: commaTokens names

/-- The tokens hold `name < n₁, …, nₖ > (`. -/
def HasTypeArguments (ts : List Token) : Prop :=
  ∃ before name names after, names ≠ [] ∧ ts = before ++ .name name :: .mark (.operator .lt) ::
    (commaTokens names ++ .mark (.operator .gt) :: .mark .leftParen :: after)

/-- What the tokens up to some place end in. -/
inductive Scan where
  | idle
  /-- A name. -/
  | name
  /-- A name and `<`. -/
  | less
  /-- A name, `<` and names with commas between them. -/
  | argument
  /-- The same and one more comma. -/
  | comma
  /-- The same with `>` instead. -/
  | greater
  /-- The pattern has been found. -/
  | found
deriving DecidableEq

namespace Scan

/-- One more token. -/
def step : Scan → Token → Scan
  | found, _ => found
  | less, .name _ | comma, .name _ => argument
  | _, .name _ => name
  | name, .mark (.operator .lt) | argument, .mark (.operator .lt) => less
  | argument, .mark .comma => comma
  | argument, .mark (.operator .gt) => greater
  | greater, .mark .leftParen => found
  | _, _ => idle

/-- More tokens. -/
def run (s : Scan) (ts : List Token) : Scan :=
  ts.foldl step s

variable {s : Scan} {t : Token} {ts us : List Token}

@[simp] theorem run_nil : s.run [] = s := rfl

@[simp] theorem run_cons : s.run (t :: ts) = (s.step t).run ts := rfl

theorem run_append : s.run (ts ++ us) = (s.run ts).run us :=
  List.foldl_append

@[simp] theorem step_found (t : Token) : found.step t = found := by
  rw [step]

@[simp] theorem run_found (ts : List Token) : found.run ts = found := by
  induction ts with
  | nil => rfl
  | cons t ts ih => exact ih

end Scan

section Pattern

/-- What a state of the scan says of the tokens before it. -/
def Trace : Scan → List Token → Prop
  | .idle, _ => True
  | .name, ts => ∃ before n, ts = before ++ [.name n]
  | .less, ts => ∃ before n, ts = before ++ [.name n, .mark (.operator .lt)]
  | .argument, ts => ∃ before n names, names ≠ [] ∧
      ts = before ++ .name n :: .mark (.operator .lt) :: commaTokens names
  | .comma, ts => ∃ before n names, names ≠ [] ∧
      ts = before ++ .name n :: .mark (.operator .lt) :: (commaTokens names ++ [.mark .comma])
  | .greater, ts => ∃ before n names, names ≠ [] ∧
      ts = before ++ .name n :: .mark (.operator .lt) ::
        (commaTokens names ++ [.mark (.operator .gt)])
  | .found, ts => HasTypeArguments ts

theorem commaTokens_concat {names : List String} (nonempty : names ≠ []) (n : String) :
    commaTokens (names ++ [n]) = commaTokens names ++ [.mark .comma, .name n] := by
  induction names with
  | nil => exact absurd rfl nonempty
  | cons first names ih =>
      cases names with
      | nil => rfl
      | cons next names => exact congrArg (_ :: _ :: ·) (ih (List.cons_ne_nil _ _))

theorem exists_last_commaTokens {names : List String} (nonempty : names ≠ []) :
    ∃ front n, commaTokens names = front ++ [.name n] := by
  induction names with
  | nil => exact absurd rfl nonempty
  | cons first names ih =>
      cases names with
      | nil => exact ⟨[], first, rfl⟩
      | cons next names =>
          obtain ⟨front, n, same⟩ := ih (List.cons_ne_nil _ _)
          exact ⟨_ :: _ :: front, n, congrArg (_ :: _ :: ·) same⟩

theorem trace_step {s : Scan} {ts : List Token} (h : Trace s ts) (t : Token) :
    Trace (s.step t) (ts ++ [t]) := by
  fun_cases Scan.step s t with
  | case1 t =>
      obtain ⟨before, name, names, after, nonempty, rfl⟩ := h
      exact ⟨before, name, names, after ++ [t], nonempty, by simp⟩
  | case2 n =>
      obtain ⟨before, name, rfl⟩ := h
      exact ⟨before, name, [n], List.cons_ne_nil _ _, by simp [commaTokens]⟩
  | case3 n =>
      obtain ⟨before, name, names, nonempty, rfl⟩ := h
      refine ⟨before, name, names ++ [n], by simp, ?_⟩
      rw [commaTokens_concat nonempty]
      simp
  | case4 => exact ⟨ts, _, rfl⟩
  | case5 =>
      obtain ⟨before, name, rfl⟩ := h
      exact ⟨before, name, by simp⟩
  | case6 =>
      obtain ⟨before, name, names, nonempty, rfl⟩ := h
      obtain ⟨front, n, same⟩ := exists_last_commaTokens nonempty
      exact ⟨before ++ .name name :: .mark (.operator .lt) :: front, n, by simp [same]⟩
  | case7 =>
      obtain ⟨before, name, names, nonempty, rfl⟩ := h
      exact ⟨before, name, names, nonempty, by simp⟩
  | case8 =>
      obtain ⟨before, name, names, nonempty, rfl⟩ := h
      exact ⟨before, name, names, nonempty, by simp⟩
  | case9 =>
      obtain ⟨before, name, names, nonempty, rfl⟩ := h
      exact ⟨before, name, names, [], nonempty, by simp⟩
  | case10 => trivial

theorem trace_run (ts : List Token) : Trace (Scan.idle.run ts) ts := by
  induction ts using List.reverseRecOn with
  | nil => trivial
  | append_singleton ts t ih =>
      rw [Scan.run_append]
      exact trace_step ih t

theorem run_arguments (names : List String) (after : List Token) {s : Scan}
    (inside : s = .less ∨ s = .comma) (nonempty : names ≠ []) :
    s.run (commaTokens names ++ .mark (.operator .gt) :: .mark .leftParen :: after) = .found := by
  induction names generalizing s with
  | nil => exact absurd rfl nonempty
  | cons n names ih =>
      have argument : s.step (.name n) = .argument := by
        rcases inside with rfl | rfl <;> rfl
      cases names with
      | nil =>
          change ((s.step (.name n)).step _).run (.mark .leftParen :: after) = .found
          rw [argument]
          exact Scan.run_found after
      | cons next names =>
          change ((s.step (.name n)).step (.mark .comma)).run (commaTokens (next :: names) ++ _) =
            .found
          rw [argument]
          exact ih (.inr rfl) (List.cons_ne_nil _ _)

/-- The machine finds the pattern where it stands. -/
theorem run_eq_found_iff (ts : List Token) : Scan.idle.run ts = .found ↔ HasTypeArguments ts := by
  constructor
  · intro found
    have trace := trace_run ts
    rw [found] at trace
    exact trace
  · rintro ⟨before, name, names, after, nonempty, rfl⟩
    rw [Scan.run_append, Scan.run_cons, Scan.run_cons]
    generalize Scan.idle.run before = s
    have next : (s.step (.name name)).step (.mark (.operator .lt)) = .less ∨ s = .found := by
      cases s <;> simp [Scan.step]
    rcases next with less | rfl
    · rw [less]
      exact run_arguments names after (.inl rfl) nonempty
    · exact Scan.run_found _

end Pattern

namespace Expr

/-- The expression is an identifier. -/
def isIdent : Expr → Bool
  | .ident _ => true
  | _ => false

/-- The text of the expression ends in a name. -/
def endsInName : Expr → Bool
  | .ident _ => true
  | .cast _ operand | .binary _ _ operand | .conditional _ _ operand =>
    !operand.needsParens && operand.endsInName
  | .unary _ operand => !operand.needsParensBehindSign && operand.endsInName
  | .lambda body => body.endsInName
  | _ => false

/-- The text of the expression as an operand ends in a name. -/
def operandEndsInName (e : Expr) : Bool :=
  !e.needsParens && e.endsInName

/-- The text of the expression as an operand begins with a parenthesis. -/
def operandInParens : Expr → Bool
  | .cast .. => true
  | e => e.needsParens

/-- The text of the expression ends in `name < name`. -/
def opens : Expr → Bool
  | .binary .lt left (.ident _) => left.operandEndsInName
  | .lambda body => body.opens
  | _ => false

/-- The text of the expression begins with `name > (`. -/
def closes : Expr → Bool
  | .binary .gt (.ident _) right => right.operandInParens
  | _ => false

theorem closes_binary (op : BinaryOp) (left right : Expr) :
    (binary op left right).closes = (op = .gt && left.isIdent && right.operandInParens) := by
  cases op with
  | gt => cases left <;> simp [closes, isIdent]
  | _ => simp [closes]

theorem opens_binary (op : BinaryOp) (left right : Expr) :
    (binary op left right).opens = (op = .lt && left.operandEndsInName && right.isIdent) := by
  cases op with
  | lt => cases right <;> simp [opens, isIdent]
  | _ => simp [opens]

/-- Of the expressions in sequence the first ones are identifiers, and the next begins with
`name > (`. -/
def closing : List Expr → Bool
  | [] => false
  | e :: rest => e.closes || e.isIdent && closing rest

/-- Neighbours in the list read as type arguments: from the end of one of them over identifiers to
the beginning of a later one. -/
def mistaken : List Expr → Bool
  | [] => false
  | e :: rest => e.opens && closing rest || mistaken rest

/-- The expression lists neighbours that read as type arguments. -/
def mistakes : Expr → Bool
  | .call _ items | .array _ items => mistaken items
  | _ => false

/-- Some list in the expression has neighbours that read as type arguments. -/
def misread (e : Expr) : Bool :=
  e.nodes.any mistakes

/-- One of the expressions is misread. -/
def anyMisread (items : List Expr) : Bool :=
  (nodesOf items).any mistakes

section Misread

variable (e l r : Expr) (items : List Expr)

@[simp] theorem misread_literal (value : Literal) : (literal value).misread = false := rfl

@[simp] theorem misread_null : null.misread = false := rfl

@[simp] theorem misread_ident (n : String) : (ident n).misread = false := rfl

@[simp] theorem misread_cast (type : ValueType) : (cast type e).misread = e.misread := rfl

@[simp] theorem misread_unary (op : UnaryOp) : (unary op e).misread = e.misread := rfl

@[simp] theorem misread_lambda : (lambda e).misread = e.misread := rfl

@[simp] theorem misread_binary (op : BinaryOp) :
    (binary op l r).misread = (l.misread || r.misread) :=
  List.any_append

@[simp] theorem misread_conditional :
    (conditional e l r).misread = (e.misread || l.misread || r.misread) := by
  simp [misread, nodes, mistakes, Bool.or_assoc]

@[simp] theorem misread_call (target : String) :
    (call target items).misread = (mistaken items || anyMisread items) := rfl

@[simp] theorem misread_array (element : ElementType) :
    (array element items).misread = (mistaken items || anyMisread items) := rfl

@[simp] theorem anyMisread_nil : anyMisread [] = false := rfl

@[simp] theorem anyMisread_cons : anyMisread (e :: items) = (e.misread || anyMisread items) :=
  List.any_append

end Misread

end Expr

section Scanning

open Scan

/-- The state behind something that is no argument. -/
def settled (named : Bool) : Scan :=
  if named then name else idle

/-- The state behind an operand. -/
def operandEnd (s : Scan) (e : Expr) : Scan :=
  if e.isIdent && (s == less || s == comma) then argument else settled e.operandEndsInName

/-- The state behind an expression. -/
def expressionEnd (s : Scan) (e : Expr) : Scan :=
  if e.isIdent && s == comma || e.opens then argument else settled e.endsInName

/-- The states in which an operand can begin. -/
def starts : List Scan :=
  [idle, comma, less, greater]

variable {s : Scan} {e : Expr} {ts : List Token}

/-- The states in which a whole expression can begin. -/
def outerStarts : List Scan :=
  [idle, comma]

theorem mem_starts_of_outer (start : s ∈ outerStarts) : s ∈ starts := by
  revert s
  decide

theorem outer_ne (start : s ∈ outerStarts) : (s == greater) = false ∧ (s == less) = false := by
  revert s
  decide

theorem ne_found_of_start (start : s ∈ starts) : s ≠ found := by
  rintro rfl
  revert start
  decide

/-- The tokens that no state goes on with. -/
def isNeutral : Token → Bool
  | .name _ | .mark .comma | .mark .leftParen => false
  | .mark (.operator op) => op ≠ .lt && op ≠ .gt
  | _ => true

theorem step_neutral {t : Token} (neutral : isNeutral t) (searching : s ≠ found) :
    s.step t = idle := by
  fun_cases Scan.step s t with
  | case1 => exact absurd rfl searching
  | case10 => rfl
  | _ => cases neutral

theorem step_leftParen (start : s ∈ starts) :
    s.step (.mark .leftParen) = if s = greater then found else idle := by
  revert s
  decide

theorem run_enclosed (start : s ∈ starts) :
    s.run (enclosed ts) = if s = greater ∨ idle.run ts = found then found else idle := by
  rw [enclosed, run_cons, step_leftParen start]
  by_cases more : s = greater
  · rw [if_pos more, if_pos (.inl more), run_found]
  · rw [if_neg more, Scan.run_append, run_cons, run_nil]
    by_cases inside : idle.run ts = found
    · rw [inside, if_pos (.inr rfl)]
      rfl
    · rw [if_neg (not_or.mpr ⟨more, inside⟩), step_neutral rfl inside]

theorem run_withSign (start : s ∈ starts) (op : UnaryOp) (ts : List Token) :
    s.run (withSign op ts) = idle.run ts := by
  have searching := ne_found_of_start start
  cases op with
  | negate =>
      rw [withSign]
      split
      case isTrue signed =>
        obtain ⟨later, rfl⟩ := List.head?_eq_some_iff.mp signed
        rw [run_cons, step_neutral rfl searching]
        rfl
      case isFalse => rw [run_cons, step_neutral rfl searching]
  | not | other => rw [withSign, run_cons, step_neutral rfl searching]

theorem step_ne_found {t : Token} (searching : s ≠ found) (other : t ≠ .mark .leftParen) :
    s.step t ≠ found := by
  fun_cases Scan.step s t with
  | case1 => exact searching
  | case9 => exact absurd rfl other
  | _ => decide

theorem run_literal (start : s ∈ starts) (l : Literal) : s.run (literalTokens l) = idle := by
  have searching := ne_found_of_start start
  have sign : s.step (.mark (.operator .sub)) ≠ found := step_ne_found searching nofun
  have word : ∀ {s : Scan} {n : String}, s ≠ found → s.step (.name n) ≠ found :=
    fun searching => step_ne_found searching nofun
  have numeral : ∀ {s : Scan} {n : String}, s ≠ found → s.step (.numeral n) = idle :=
    fun searching => step_neutral rfl searching
  cases l with
  | integer i =>
      rw [literalTokens]
      split
      · exact numeral sign
      · exact numeral searching
  | number x =>
      rw [literalTokens, numberTokens]
      split
      · exact numeral (word searching)
      · split
        · split
          · exact numeral (word sign)
          · exact numeral sign
        · split
          · exact numeral (word searching)
          · exact numeral searching
  | text | boolean => exact step_neutral rfl searching

section Ends

theorem settled_ne_found (named : Bool) : settled named ≠ found := by
  cases named <;> decide

theorem operandEnd_ne_found : operandEnd s e ≠ found := by
  rw [operandEnd]
  split
  · decide
  · exact settled_ne_found _

theorem expressionEnd_ne_found : expressionEnd s e ≠ found := by
  rw [expressionEnd]
  split
  · decide
  · exact settled_ne_found _

theorem operandEnd_of_not_inside (outside : (s == less || s == comma) = false) :
    operandEnd s e = settled e.operandEndsInName := by
  rw [operandEnd, outside, Bool.and_false, if_neg Bool.false_ne_true]

theorem operandEndsInName_of_isIdent (h : e.isIdent) : e.operandEndsInName := by
  cases e with
  | ident => rfl
  | _ => cases h

theorem step_lt_operandEnd : (operandEnd s e).step (.mark (.operator .lt)) =
    if e.operandEndsInName then less else idle := by
  rw [operandEnd]
  split
  case isTrue argument =>
    rw [Bool.and_eq_true] at argument
    rw [operandEndsInName_of_isIdent argument.1]
    rfl
  case isFalse => cases e.operandEndsInName <;> rfl

theorem step_gt_operandEnd : (operandEnd s e).step (.mark (.operator .gt)) =
    if e.isIdent && (s == less || s == comma) then greater else idle := by
  rw [operandEnd]
  split
  · rfl
  · cases e.operandEndsInName <;> rfl

theorem step_comma_expressionEnd : (expressionEnd s e).step (.mark .comma) =
    if e.isIdent && s == comma || e.opens then comma else idle := by
  rw [expressionEnd]
  split
  · rfl
  · cases e.endsInName <;> rfl

end Ends

/-- The scan of an expression as a whole. -/
def ScansFully (e : Expr) : Prop :=
  ∀ s ∈ outerStarts, s.run e.tokens =
    if e.misread || s == comma && e.closes then found else expressionEnd s e

/-- The scan of an operand. -/
def ScansOperand (e : Expr) : Prop :=
  ∀ s ∈ starts, s.run (e.operandTokens e.tokens) =
    if e.misread || s == greater && e.operandInParens then found else operandEnd s e

theorem ScansFully.run_idle (h : ScansFully e) : idle.run e.tokens =
    if e.misread then found else expressionEnd idle e := by
  have scanned := h idle (by decide)
  rwa [show (idle == comma) = false from rfl, Bool.false_and, Bool.or_false] at scanned

theorem ScansFully.run_idle_eq_found (h : ScansFully e) :
    idle.run e.tokens = found ↔ e.misread := by
  rw [h.run_idle]
  split
  · simp_all
  · simp_all [expressionEnd_ne_found]

theorem ScansOperand.run_idle (h : ScansOperand e) : idle.run (e.operandTokens e.tokens) =
    if e.misread then found else settled e.operandEndsInName := by
  have scanned := h idle (by decide)
  rwa [show (idle == greater) = false from rfl, Bool.false_and, Bool.or_false,
    operandEnd_of_not_inside rfl] at scanned

theorem scansOperand_of_parens (parens : e.needsParens = true) (h : ScansFully e) :
    ScansOperand e := by
  intro s start
  have inParens : e.operandInParens = true := by
    cases e with
    | cast => rfl
    | _ => exact parens
  have noIdent : e.isIdent = false := by
    cases e with
    | ident => cases parens
    | _ => rfl
  have ended : operandEnd s e = idle := by
    rw [operandEnd, noIdent, Expr.operandEndsInName, parens]
    rfl
  rw [Expr.operandTokens, if_pos parens, run_enclosed start, ended, inParens]
  simp only [h.run_idle_eq_found, Bool.and_true, Bool.or_eq_true, beq_iff_eq, or_comm]

theorem scansFully_of_plain (plain : e.needsParens = false) (h : ScansOperand e) :
    ScansFully e := by
  intro s start
  have closes : e.closes = false := by
    cases e with
    | binary => cases plain
    | _ => rfl
  have opens : e.opens = false := by
    cases e with
    | binary | lambda => cases plain
    | _ => rfl
  obtain ⟨more, less⟩ := outer_ne start
  have scanned := h s (mem_starts_of_outer start)
  have same : operandEnd s e = expressionEnd s e := by
    rw [operandEnd, expressionEnd, less, opens, Expr.operandEndsInName, plain]
    simp
  rw [Expr.operandTokens, plain, if_neg Bool.false_ne_true, more, Bool.false_and, same] at scanned
  rw [scanned, closes, Bool.and_false]

theorem scansFully_literal (l : Literal) : ScansFully (.literal l) := by
  intro s start
  refine (run_literal (mem_starts_of_outer start) l).trans ?_
  simp [Expr.closes, expressionEnd, Expr.isIdent, Expr.opens, Expr.endsInName, settled]

theorem scansOperand_literal {l : Literal} (plain : (Expr.literal l).needsParens = false) :
    ScansOperand (.literal l) := by
  intro s start
  rw [Expr.operandTokens, plain, if_neg Bool.false_ne_true]
  refine (run_literal start l).trans ?_
  simp [Expr.operandInParens, plain, operandEnd, Expr.isIdent,
    Expr.operandEndsInName, Expr.endsInName, settled]

theorem scansOperand_cast (type : ValueType) (h : ScansOperand e) :
    ScansOperand (.cast type e) := by
  intro s start
  change ((((s.step (.mark .leftParen)).step _).step _).run (e.operandTokens e.tokens)) = _
  rw [step_leftParen start]
  by_cases more : s = greater
  · subst more
    rw [if_pos rfl]
    simp [Scan.step, Expr.operandInParens]
  · rw [if_neg more]
    have scanned := h.run_idle
    simp only [Scan.step]
    rw [scanned]
    simp [more, operandEnd, Expr.isIdent, Expr.operandEndsInName, Expr.needsParens,
      Expr.endsInName]

theorem needsParens_of_needsParensBehindSign (plain : e.needsParensBehindSign = false) :
    e.needsParens = false := by
  cases e with
  | unary => rfl
  | _ => exact plain

theorem scansOperand_unary (op : UnaryOp) (fully : ScansFully e) (operand : ScansOperand e) :
    ScansOperand (.unary op e) := by
  intro s start
  change s.run (withSign op _) = _
  rw [run_withSign start]
  cases parens : e.needsParensBehindSign with
  | true =>
      rw [if_pos rfl, run_enclosed (by decide)]
      simp only [reduceCtorEq, false_or, fully.run_idle_eq_found]
      simp [operandEnd, Expr.isIdent, Expr.operandEndsInName, Expr.endsInName, parens,
        Expr.operandInParens, Expr.needsParens, settled]
  | false =>
      have plain := needsParens_of_needsParensBehindSign parens
      have scanned := operand.run_idle
      rw [Expr.operandTokens, plain, if_neg Bool.false_ne_true] at scanned
      have ends : (Expr.unary op e).operandEndsInName = e.operandEndsInName := by
        rw [Expr.operandEndsInName, Expr.operandEndsInName, Expr.endsInName, parens, plain]
        rfl
      rw [if_neg Bool.false_ne_true, scanned, operandEnd, ends]
      simp [Expr.isIdent, Expr.operandInParens, Expr.needsParens]

/-- Behind the operator of an operation an operand begins, inside of type arguments or not. -/
def operatorEnd (s : Scan) (op : BinaryOp) (left : Expr) : Scan :=
  if op = .lt && left.operandEndsInName then less
  else if op = .gt && (left.isIdent && (s == less || s == comma)) then greater
  else idle

theorem step_operandEnd (op : BinaryOp) :
    (operandEnd s e).step (.mark (.operator op)) = operatorEnd s op e := by
  cases op with
  | lt =>
      rw [step_lt_operandEnd]
      simp [operatorEnd]
  | gt =>
      rw [step_gt_operandEnd]
      simp [operatorEnd]
  | _ => exact step_neutral rfl operandEnd_ne_found

theorem operatorEnd_beq_greater {op : BinaryOp} (outside : (s == less) = false) :
    (operatorEnd s op e == greater) = (op = .gt && e.isIdent && s == comma) := by
  cases op with
  | gt =>
      rw [operatorEnd, outside]
      cases e.isIdent <;> cases s == comma <;> rfl
  | lt =>
      rw [operatorEnd]
      cases e.operandEndsInName <;> rfl
  | _ => rfl

theorem operatorEnd_inside {op : BinaryOp} :
    (operatorEnd s op e == less || operatorEnd s op e == comma) =
      (op = .lt && e.operandEndsInName) := by
  cases op with
  | gt =>
      rw [operatorEnd]
      cases e.isIdent && (s == less || s == comma) <;> rfl
  | lt =>
      rw [operatorEnd]
      cases e.operandEndsInName <;> rfl
  | _ => rfl

theorem scansFully_binary (op : BinaryOp) {l r : Expr} (left : ScansOperand l)
    (right : ScansOperand r) :
    ScansFully (.binary op l r) := by
  intro s start
  obtain ⟨more, less⟩ := outer_ne start
  change s.run (l.operandTokens l.tokens ++ .mark (.operator op) :: r.operandTokens r.tokens) = _
  rw [Scan.run_append, left s (mem_starts_of_outer start), run_cons, more, Bool.false_and,
    Bool.or_false]
  cases misread : l.misread with
  | true => simp [Scan.step, misread]
  | false =>
      have within : operatorEnd s op l ∈ starts := by
        rw [operatorEnd]
        split_ifs <;> decide
      rw [if_neg Bool.false_ne_true, step_operandEnd, right _ within,
        operatorEnd_beq_greater less, operandEnd, operatorEnd_inside, expressionEnd,
        Expr.closes_binary, Expr.opens_binary]
      simp [misread, Expr.isIdent, Expr.endsInName, Expr.operandEndsInName,
        Bool.and_comm, Bool.and_left_comm]

theorem scansFully_conditional {test yes no : Expr} (tested : ScansOperand test)
    (chosen : ScansOperand yes) (other : ScansOperand no) :
    ScansFully (.conditional test yes no) := by
  intro s start
  change s.run (_ ++ .mark .question :: (_ ++ .mark .colon :: _)) = _
  rw [Scan.run_append, tested s (mem_starts_of_outer start), (outer_ne start).1, Bool.false_and,
    Bool.or_false]
  cases first : test.misread with
  | true => simp [first]
  | false =>
      rw [if_neg Bool.false_ne_true, run_cons, step_neutral rfl operandEnd_ne_found,
        Scan.run_append, chosen.run_idle]
      cases second : yes.misread with
      | true => simp [second]
      | false =>
          rw [if_neg Bool.false_ne_true, run_cons, step_neutral rfl (settled_ne_found _),
            other.run_idle]
          simp [first, second, Expr.closes, expressionEnd, Expr.isIdent, Expr.opens,
            Expr.endsInName, Expr.operandEndsInName]

theorem scansFully_lambda (h : ScansFully e) : ScansFully (.lambda e) := by
  intro s start
  have begun :
      ((s.step (.mark .leftParen)).step (.mark .rightParen)).step (.mark .arrow) = idle := by
    revert s
    decide
  change (((s.step _).step _).step _).run e.tokens = _
  rw [begun, h.run_idle]
  simp [Expr.closes, expressionEnd, Expr.isIdent, Expr.opens, Expr.endsInName]

/-- The scan of a list up to the mark that closes it. -/
def ScansList (items : List Expr) : Prop :=
  ∀ s ∈ outerStarts, ∀ close, isNeutral close →
    (s.run ([.mark .comma].intercalate (Expr.tokensAll items))).step close =
      if Expr.anyMisread items || Expr.mistaken items || s == comma && Expr.closing items then found
      else idle

theorem scansOperand_call (target : String) {args : List Expr} (h : ScansList args) :
    ScansOperand (.call target args) := by
  intro s start
  have begun : (s.step (.name target)).step (.mark .leftParen) = idle := by
    simp only [starts, List.mem_cons, List.not_mem_nil, or_false] at start
    rcases start with rfl | rfl | rfl | rfl <;> rfl
  change ((s.step _).step _).run (_ ++ [_]) = _
  rw [begun, Scan.run_append, run_cons, run_nil, h idle (by decide) _ rfl]
  simp [Expr.operandInParens, Expr.needsParens, operandEnd, Expr.isIdent,
    Expr.operandEndsInName, Expr.endsInName, settled, Bool.or_comm]

theorem scansOperand_array (element : ElementType) {items : List Expr} (h : ScansList items) :
    ScansOperand (.array element items) := by
  intro s start
  change (s.step (.word .new)).run (_ :: _ :: _ :: _ :: (_ ++ [_])) = _
  rw [step_neutral rfl (ne_found_of_start start)]
  change idle.run (_ ++ [_]) = _
  rw [Scan.run_append, run_cons, run_nil, h idle (by decide) _ rfl]
  simp [Expr.operandInParens, Expr.needsParens, operandEnd, Expr.isIdent,
    Expr.operandEndsInName, Expr.endsInName, settled, Bool.or_comm]

theorem beq_comma (b : Bool) : ((if b then comma else idle) == comma) = b := by
  cases b <;> rfl

theorem intercalate_tokensAll_cons {items : List Expr} (more : items ≠ []) :
    [.mark .comma].intercalate (Expr.tokensAll (e :: items)) =
      e.tokens ++ .mark .comma :: [.mark .comma].intercalate (Expr.tokensAll items) := by
  cases items with
  | nil => exact absurd rfl more
  | cons next rest => simp [Expr.tokensAll, List.intercalate_cons_cons]

theorem scansList_cons {items : List Expr} (first : ScansFully e) (later : ScansList items) :
    ScansList (e :: items) := by
  intro s start close neutral
  have scanned := first s start
  rw [Expr.anyMisread_cons, Expr.mistaken, Expr.closing]
  by_cases last : items = []
  · subst last
    rw [Expr.tokensAll, Expr.tokensAll, List.intercalate_singleton, scanned]
    cases hit : e.misread || s == comma && e.closes with
    | true =>
        rw [if_pos rfl, step_found, if_pos]
        grind
    | false =>
        rw [if_neg Bool.false_ne_true, step_neutral neutral expressionEnd_ne_found]
        simp_all [Expr.mistaken, Expr.closing]
  · -- The comma behind the first item decides in which state the others are scanned.
    rw [intercalate_tokensAll_cons last, Scan.run_append, scanned, run_cons]
    cases hit : e.misread || s == comma && e.closes with
    | true =>
        rw [if_pos rfl, step_found, run_found, step_found, if_pos]
        grind
    | false =>
        have after : (expressionEnd s e).step (.mark .comma) ∈ outerStarts := by
          rw [step_comma_expressionEnd]
          split <;> decide
        rw [if_neg Bool.false_ne_true, later _ after close neutral, step_comma_expressionEnd,
          beq_comma]
        grind

mutual

/-- How the scan comes out of an expression, alone and as an operand. -/
theorem scans : (e : Expr) → ScansFully e ∧ ScansOperand e
  | .literal l => by
      have whole := scansFully_literal l
      cases parens : (Expr.literal l).needsParens with
      | true => exact ⟨whole, scansOperand_of_parens parens whole⟩
      | false => exact ⟨whole, scansOperand_literal parens⟩
  | .null => by
      have inner : ScansOperand .null := by
        intro s start
        refine (step_neutral rfl (ne_found_of_start start)).trans ?_
        simp [Expr.operandInParens, Expr.needsParens, operandEnd, Expr.isIdent,
          Expr.operandEndsInName, Expr.endsInName, settled]
      exact ⟨scansFully_of_plain rfl inner, inner⟩
  | .ident n => by
      have inner : ScansOperand (.ident n) := by
        intro s start
        simp only [starts, List.mem_cons, List.not_mem_nil, or_false] at start
        rcases start with rfl | rfl | rfl | rfl <;> rfl
      exact ⟨scansFully_of_plain rfl inner, inner⟩
  | .cast type operand => by
      have inner := scansOperand_cast type (scans operand).2
      exact ⟨scansFully_of_plain rfl inner, inner⟩
  | .unary op operand => by
      have inner := scansOperand_unary op (scans operand).1 (scans operand).2
      exact ⟨scansFully_of_plain rfl inner, inner⟩
  | .binary op left right => by
      have whole := scansFully_binary op (scans left).2 (scans right).2
      exact ⟨whole, scansOperand_of_parens rfl whole⟩
  | .conditional test yes no => by
      have whole := scansFully_conditional (scans test).2 (scans yes).2 (scans no).2
      exact ⟨whole, scansOperand_of_parens rfl whole⟩
  | .call target args => by
      have inner := scansOperand_call target (scansAll args)
      exact ⟨scansFully_of_plain rfl inner, inner⟩
  | .array element items => by
      have inner := scansOperand_array element (scansAll items)
      exact ⟨scansFully_of_plain rfl inner, inner⟩
  | .lambda body => by
      have whole := scansFully_lambda (scans body).1
      exact ⟨whole, scansOperand_of_parens rfl whole⟩

theorem scansAll : (items : List Expr) → ScansList items
  | [] => by
      intro s start close neutral
      have searching := ne_found_of_start (mem_starts_of_outer start)
      rw [Expr.tokensAll, List.intercalate_nil, run_nil, step_neutral neutral searching]
      simp [Expr.mistaken, Expr.closing]
  | e :: rest => scansList_cons (scans e).1 (scansAll rest)

end

/-- The tokens of an expression read as type arguments exactly where one of its lists does. -/
theorem hasTypeArguments_tokens (e : Expr) : HasTypeArguments e.tokens ↔ e.misread := by
  rw [← run_eq_found_iff]
  exact (scans e).1.run_idle_eq_found

end Scanning

end SheetCompiler.Code
