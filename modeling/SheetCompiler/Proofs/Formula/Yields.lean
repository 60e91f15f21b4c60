import SheetCompiler.Proofs.Formula.Grammar

/-!
# What it takes to read

For each function that reads a part of a formula, the equivalence between its success and that of
the functions it calls.
-/

namespace SheetCompiler.Formula.Parser

open Grammar

/-- The reading succeeds with this result and leaves these tokens. -/
def Yields {α : Type} {bound : List Token → Prop}
    (reading : Except Failure (α × { rest : List Token // bound rest })) (a : α)
    (rest : List Token) : Prop :=
  ∃ h, reading = .ok (a, ⟨rest, h⟩)

variable {sheet : String} {l : Nat} {ts rest after : List Token} {e left : Expr}

section Yields

variable {α : Type} {bound : List Token → Prop} {a b : α}

theorem Yields.bounded {reading : Except Failure (α × { rest : List Token // bound rest })}
    (h : Yields reading a rest) : bound rest := by
  obtain ⟨h, -⟩ := h
  exact h

theorem not_yields_error {failure : Failure} :
    ¬ Yields (.error failure : Except Failure (α × { rest : List Token // bound rest }))
      a rest := by
  rintro ⟨_, result⟩
  cases result

theorem yields_ok {h : bound after} :
    Yields (.ok (b, ⟨after, h⟩) : Except Failure (α × { rest : List Token // bound rest })) a rest ↔
      a = b ∧ rest = after := by
  constructor
  · rintro ⟨_, result⟩
    cases result
    exact ⟨rfl, rfl⟩
  · rintro ⟨rfl, rfl⟩
    exact ⟨h, rfl⟩

variable {β : Type} {bound' : List Token → Prop} {b : β}

/-- A reading that hands on what an earlier one has read. -/
theorem yields_iff_yields {reading : Except Failure (α × { rest : List Token // bound rest })}
    {whole : Except Failure (α × { rest : List Token // bound' rest })}
    (failing : ∀ failure, reading = .error failure → whole = .error failure)
    (succeeding : ∀ a rest h, reading = .ok (a, ⟨rest, h⟩) → ∃ h', whole = .ok (a, ⟨rest, h'⟩)) :
    Yields whole a after ↔ Yields reading a after := by
  cases read : reading with
  | error failure =>
      rw [failing failure read]
      exact iff_of_false not_yields_error not_yields_error
  | ok outcome =>
      obtain ⟨a', rest, h⟩ := outcome
      obtain ⟨h', result⟩ := succeeding a' rest h read
      rw [result, yields_ok, yields_ok]

/-- A reading that starts with another one. -/
theorem yields_iff_exists {P : α → List Token → Prop}
    {reading : Except Failure (α × { rest : List Token // bound rest })}
    {whole : Except Failure (β × { rest : List Token // bound' rest })}
    (failing : ∀ failure, reading = .error failure → whole = .error failure)
    (succeeding : ∀ a rest h, reading = .ok (a, ⟨rest, h⟩) → (Yields whole b after ↔ P a rest)) :
    Yields whole b after ↔ ∃ a rest, Yields reading a rest ∧ P a rest := by
  constructor
  · intro result
    cases read : reading with
    | error failure =>
        rw [failing failure read] at result
        exact absurd result not_yields_error
    | ok outcome =>
        obtain ⟨a, rest, h⟩ := outcome
        exact ⟨a, rest, ⟨h, rfl⟩, (succeeding a rest h read).mp result⟩
  · rintro ⟨a, rest, ⟨h, read⟩, next⟩
    exact (succeeding a rest h read).mpr next

end Yields

section Tokens

theorem eq_cons_of_sign? {sign : Sign} {behind : { rest : List Token // rest.length < ts.length }}
    (h : sign? ts = some (sign, behind)) : ts = .operator sign :: behind.val := by
  rw [sign?.eq_def] at h
  split at h
  · cases h
    rfl
  · cases h

theorem opening?_eq_none (other : ∀ more, ts ≠ .openParen :: more) : opening? ts = none := by
  rw [opening?.eq_def]
  split
  case h_1 rest => exact absurd rfl (other rest)
  case h_2 => rfl

theorem closing?_eq_none (other : ∀ more, ts ≠ .closeParen :: more) : closing? ts = none := by
  rw [closing?.eq_def]
  split
  case h_1 rest => exact absurd rfl (other rest)
  case h_2 => rfl

theorem comma?_eq_none (other : ∀ more, ts ≠ .comma :: more) : comma? ts = none := by
  rw [comma?.eq_def]
  split
  case h_1 rest => exact absurd rfl (other rest)
  case h_2 => rfl

/-- A reading that ends with a closing parenthesis. -/
theorem yields_closing {α : Type} {bound : List Token → Prop} {a result : α}
    {whole : Except Failure (α × { rest : List Token // bound rest })}
    (failure : Failure) (failing : closing? rest = none → whole = .error failure)
    (succeeding : ∀ behind, closing? rest = some behind → ∃ h,
      whole = .ok (result, ⟨behind.val, h⟩)) :
    Yields whole a after ↔ a = result ∧ rest = .closeParen :: after := by
  by_cases closed : ∃ more, rest = .closeParen :: more
  · obtain ⟨more, rfl⟩ := closed
    obtain ⟨h, done⟩ := succeeding _ rfl
    rw [done, yields_ok]
    simp [eq_comm]
  · rw [failing (closing?_eq_none fun more same => closed ⟨more, same⟩)]
    refine iff_of_false not_yields_error ?_
    rintro ⟨-, same⟩
    exact closed ⟨after, same⟩

end Tokens

section Operators

theorem operatorAt?_eq_some_iff {sign : Sign} {op : BinaryOp} :
    operatorAt? l sign = some op ↔ op ∈ operators l ∧ op.sign = sign := by
  rw [mem_operators_iff]
  constructor
  · intro found
    simpa using List.find?_some found
  · rintro ⟨rfl, rfl⟩
    cases op <;> decide

theorem prefixOperator?_eq_some_iff {sign : Sign} {op : UnaryOp} :
    prefixOperator? sign = some op ↔ op ≠ .percent ∧ op.sign = sign := by
  cases sign <;> cases op <;> decide

theorem yields_expression_zero :
    Yields (expression sheet 0 ts) e after ↔ Yields (signed sheet ts) e after := by
  rw [expression]

theorem yields_expression_succ :
    Yields (expression sheet (l + 1) ts) e after ↔
      ∃ left rest, Yields (expression sheet l ts) left rest ∧
        Yields (operands sheet l left rest) e after := by
  rw [expression]
  refine yields_iff_exists (fun failure failed => ?_) fun left rest fewer first => ?_
  · simp only [failed]
  · simp only [first]
    refine yields_iff_yields (fun failure failed => ?_) fun e after le next => ⟨?_, ?_⟩
    · simp only [failed]
    · omega
    · simp only [next]

/-- An operator of the level is read, and then on with the expression it makes. -/
theorem yields_operands_operator {op : BinaryOp} (leveled : op ∈ operators (l + 1)) :
    Yields (operands sheet l left (.operator op.sign :: ts)) e after ↔
      ∃ right rest, Yields (expression sheet l ts) right rest ∧
        Yields (operands sheet l (.binary op left right) rest) e after := by
  have found : operatorAt? (l + 1) op.sign = some op := operatorAt?_eq_some_iff.mpr ⟨leveled, rfl⟩
  rw [operands]
  simp only [sign?, found]
  refine yields_iff_exists (fun failure failed => ?_) fun right rest fewer first => ?_
  · simp only [failed]
  · simp only [first]
    refine yields_iff_yields (fun failure failed => ?_) fun e after le next => ⟨?_, ?_⟩
    · simp only [failed]
    · simp only [List.length_cons]
      omega
    · simp only [next]

/-- Without an operator of the level, what stands before is all. -/
theorem yields_operands_end
    (none : ∀ op ∈ operators (l + 1), ∀ more, ts ≠ .operator op.sign :: more) :
    Yields (operands sheet l left ts) e after ↔ e = left ∧ after = ts := by
  rw [operands]
  cases signed : sign? ts with
  | none => exact yields_ok
  | some read =>
      obtain ⟨sign, rest, fewer⟩ := read
      cases found : operatorAt? (l + 1) sign with
      | none =>
          simp only [found]
          exact yields_ok
      | some op =>
          obtain ⟨leveled, rfl⟩ := operatorAt?_eq_some_iff.mp found
          exact absurd (eq_cons_of_sign? signed) (none op leveled rest)

theorem yields_signed_operator {op : UnaryOp} (leading : op ≠ .percent) :
    Yields (signed sheet (.operator op.sign :: ts)) e after ↔
      ∃ inner rest, Yields (signed sheet ts) inner rest ∧ e = .unary op inner ∧ after = rest := by
  have found : prefixOperator? op.sign = some op := prefixOperator?_eq_some_iff.mpr ⟨leading, rfl⟩
  rw [signed]
  simp only [sign?, found]
  refine yields_iff_exists (fun failure failed => ?_) fun inner rest fewer first => ?_
  · simp only [failed]
  · simp only [first]
    exact yields_ok

/-- A sign that does not lead an operand is not read as one. -/
theorem exists_operator_of_yields_signed {sign : Sign}
    (h : Yields (signed sheet (.operator sign :: ts)) e after) :
    ∃ op : UnaryOp, op ≠ .percent ∧ op.sign = sign := by
  cases found : prefixOperator? sign with
  | none =>
      rw [signed] at h
      simp only [sign?, found] at h
      exact absurd h not_yields_error
  | some op => exact ⟨op, prefixOperator?_eq_some_iff.mp found⟩

theorem yields_signed_operand (unsigned : ∀ sign more, ts ≠ .operator sign :: more) :
    Yields (signed sheet ts) e after ↔
      ∃ inner rest, Yields (primary sheet ts) inner rest ∧
        e = (percents inner rest).1 ∧ after = (percents inner rest).2.val := by
  have none : sign? ts = none := by
    cases signed : sign? ts with
    | none => rfl
    | some read => exact absurd (eq_cons_of_sign? signed) (unsigned _ _)
  rw [signed]
  simp only [none]
  refine yields_iff_exists (fun failure failed => ?_) fun inner rest fewer first => ?_
  · simp only [failed]
  · simp only [first]
    exact yields_ok

end Operators

section PerCent

theorem percented_unary (e : Expr) (count : Nat) :
    percented (.unary .percent e) count = .unary .percent (percented e count) := by
  induction count with
  | zero => rfl
  | succ count ih => rw [percented, ih, percented]

theorem percents_end (e : Expr) (none : ∀ more, ts ≠ .operator .percent :: more) :
    (percents e ts).1 = e ∧ (percents e ts).2.val = ts := by
  unfold percents
  split
  case h_1 rest => exact absurd rfl (none rest)
  case h_2 => exact ⟨rfl, rfl⟩

/-- All the per cent signs are read. -/
theorem percents_replicate (ends : Ends 0 rest) (e : Expr) (count : Nat) :
    (percents e (List.replicate count (.operator .percent) ++ rest)).1 = percented e count ∧
      (percents e (List.replicate count (.operator .percent) ++ rest)).2.val = rest := by
  induction count generalizing e with
  | zero =>
      refine percents_end e ?_
      rintro more rfl
      exact ends _ rfl (.inl rfl)
  | succ count ih =>
      obtain ⟨read, left⟩ := ih (.unary .percent e)
      refine ⟨?_, left⟩
      rw [percented, ← percented_unary, ← read]
      rfl

/-- Only per cent signs are read. -/
theorem exists_replicate_percents (e : Expr) (ts : List Token) :
    ∃ count, (percents e ts).1 = percented e count ∧
      ts = List.replicate count (.operator .percent) ++ (percents e ts).2.val := by
  induction ts generalizing e with
  | nil => exact ⟨0, rfl, rfl⟩
  | cons token rest ih =>
      by_cases percent : token = .operator .percent
      · subst percent
        obtain ⟨count, made, tokens⟩ := ih (.unary .percent e)
        refine ⟨count + 1, ?_, ?_⟩
        · rw [percented, ← percented_unary, ← made]
          rfl
        · rw [List.replicate_succ, List.cons_append]
          exact congrArg _ tokens
      · obtain ⟨made, left⟩ := percents_end e fun more same => percent (List.cons.inj same).1
        exact ⟨0, made, left.symm⟩

end PerCent

section References

theorem yields_rangeEnd {row col : Nat} :
    Yields (rangeEnd sheet row col ts) e after ↔
      ∃ c : Corner, c.sheet sheet = sheet ∧ ts = c.tokens ++ after ∧
        e = normalRange sheet row col c.row c.col := by
  constructor
  · intro result
    unfold rangeEnd at result
    split at result
    case h_1 name rest =>
      split at result
      case h_1 row' col' spelled =>
        obtain ⟨rfl, rfl⟩ := yields_ok.mp result
        exact ⟨⟨none, name, row', col', spelled⟩, rfl, rfl, rfl⟩
      case h_2 => exact absurd result not_yields_error
    case h_2 other name rest =>
      split at result
      case isTrue same =>
        split at result
        case h_1 row' col' spelled =>
          obtain ⟨rfl, rfl⟩ := yields_ok.mp result
          exact ⟨⟨some other, name, row', col', spelled⟩, same, rfl, rfl⟩
        case h_2 => exact absurd result not_yields_error
      case isFalse => exact absurd result not_yields_error
    case h_3 => exact absurd result not_yields_error
    case h_4 => exact absurd result not_yields_error
  · rintro ⟨⟨sheet?, name, row', col', spelled⟩, together, rfl, rfl⟩
    cases sheet? with
    | none =>
        simp only [Corner.tokens, Option.map, Option.toList, List.nil_append, List.cons_append,
          rangeEnd, spelled]
        exact yields_ok.mpr ⟨rfl, rfl⟩
    | some other =>
        obtain rfl : other = sheet := together
        simp only [Corner.tokens, Option.map, Option.toList, List.nil_append, List.cons_append,
          rangeEnd, spelled, if_true]
        exact yields_ok.mpr ⟨rfl, rfl⟩

theorem parseLocal?_of_yields_reference {name : String} {left : Nat}
    (h : Yields (reference sheet name left ts) e after) :
    ∃ row col, Address.parseLocal? name = some (row, col) := by
  cases spelled : Address.parseLocal? name with
  | none =>
      simp only [reference, spelled] at h
      exact absurd h not_yields_error
  | some place => exact ⟨place.1, place.2, rfl⟩

theorem yields_reference_colon {first : Corner} {left : Nat} :
    Yields (reference sheet first.name left (.colon :: ts)) e after ↔
      ∃ last : Corner, last.sheet sheet = sheet ∧ ts = last.tokens ++ after ∧
        e = normalRange sheet first.row first.col last.row last.col := by
  rw [← yields_rangeEnd]
  simp only [reference, first.spelled]
  refine yields_iff_yields (fun failure failed => ?_) fun e after fewer read => ⟨?_, ?_⟩
  · simp only [failed]
  · simp only [List.length_cons]
    omega
  · simp only [read]

theorem yields_reference_cell {first : Corner} {left : Nat} (none : ∀ more, ts ≠ .colon :: more) :
    Yields (reference sheet first.name left ts) e after ↔
      e = .cell ⟨sheet, first.row, first.col⟩ ∧ after = ts := by
  simp only [reference, first.spelled]
  exact yields_ok

theorem yields_bareName_literal {name : String} {left : Nat} {v : Literal}
    (spelled : literal? (.identifier name) = some v) :
    Yields (bareName sheet name left ts) e after ↔ e = .literal v ∧ after = ts := by
  rw [bareName]
  rw [literal?] at spelled
  split
  case h_1 upper =>
    rw [upper] at spelled
    cases spelled
    exact yields_ok
  case h_2 upper =>
    rw [upper] at spelled
    cases spelled
    exact yields_ok
  case h_3 notTrue notFalse =>
    rw [if_neg notTrue, if_neg notFalse] at spelled
    cases spelled

theorem yields_bareName_reference {name : String} {left : Nat}
    (none : literal? (.identifier name) = none) :
    Yields (bareName sheet name left ts) e after ↔
      Yields (reference sheet name left ts) e after := by
  rw [bareName]
  rw [literal?] at none
  split
  case h_1 upper =>
    rw [upper] at none
    cases none
  case h_2 upper =>
    rw [upper] at none
    cases none
  case h_3 => exact Iff.rfl

theorem yields_sheetReference {name : String} {other : String} :
    Yields (sheetReference other (.identifier name :: ts)) e after ↔
      Yields (reference other name (ts.length + 2) ts) e after := by
  rw [sheetReference]
  refine yields_iff_yields (fun failure failed => ?_) fun e after le read => ⟨?_, ?_⟩
  · simp only [failed]
  · simp only [List.length_cons]
    omega
  · simp only [read]

end References

section Primaries

theorem yields_primary_sheet {other : String} :
    Yields (primary sheet (.sheet other :: ts)) e after ↔
      Yields (sheetReference other ts) e after := by
  rw [primary]
  refine yields_iff_yields (fun failure failed => ?_) fun e after le read => ⟨?_, ?_⟩
  · simp only [failed]
  · simp only [List.length_cons]
    omega
  · simp only [read]

theorem yields_primary_bareName {name : String} (none : ∀ more, ts ≠ .openParen :: more) :
    Yields (primary sheet (.identifier name :: ts)) e after ↔
      Yields (bareName sheet name (ts.length + 1) ts) e after := by
  rw [primary]
  simp only [opening?_eq_none none]
  refine yields_iff_yields (fun failure failed => ?_) fun e after le read => ⟨?_, ?_⟩
  · simp only [failed]
  · simp only [List.length_cons]
    omega
  · simp only [read]

theorem yields_primary_group :
    Yields (primary sheet (.openParen :: ts)) e after ↔
      Yields (expression sheet 5 ts) e (.closeParen :: after) := by
  have step : Yields (primary sheet (.openParen :: ts)) e after ↔
      ∃ inner rest, Yields (expression sheet 5 ts) inner rest ∧ e = inner ∧
        rest = .closeParen :: after := by
    rw [primary]
    refine yields_iff_exists (fun failure failed => ?_) fun inner rest fewer read => ?_
    · simp only [failed]
    · simp only [read]
      refine yields_closing (.unclosedGroup, rest.length) (fun unclosed => ?_)
        fun behind closed => ⟨?_, ?_⟩
      · simp only [unclosed]
      · have fewer' := behind.property
        simp only [List.length_cons]
        omega
      · simp only [closed]
  rw [step]
  simp

theorem yields_primary_call {name : String} :
    Yields (primary sheet (.identifier name :: .openParen :: ts)) e after ↔
      ∃ args, Yields (arguments sheet ts) args (.closeParen :: after) ∧
        e = .call (Text.upper name) args := by
  have step : Yields (primary sheet (.identifier name :: .openParen :: ts)) e after ↔
      ∃ args rest, Yields (arguments sheet ts) args rest ∧ e = .call (Text.upper name) args ∧
        rest = .closeParen :: after := by
    rw [primary]
    simp only [opening?]
    refine yields_iff_exists (fun failure failed => ?_) fun args rest fewer read => ?_
    · simp only [failed]
    · simp only [read]
      refine yields_closing (.unclosedCall, rest.length) (fun unclosed => ?_)
        fun behind closed => ⟨?_, ?_⟩
      · simp only [unclosed]
      · have fewer' := behind.property
        simp only [List.length_cons]
        omega
      · simp only [closed]
  rw [step]
  constructor
  · rintro ⟨args, rest, read, rfl, rfl⟩
    exact ⟨args, read, rfl⟩
  · rintro ⟨args, read, rfl⟩
    exact ⟨args, _, read, rfl, rfl⟩

/-- Expressions with commas between them, the first one not optional. -/
def Listed (sheet : String) (ts : List Token) (es : List Expr) (after : List Token) : Prop :=
  ∃ first rest, Yields (expression sheet 5 ts) first rest ∧
    ∃ others rest', Yields (moreArguments sheet rest) others rest' ∧ es = first :: others ∧
      after = rest'

variable {es : List Expr}

theorem yields_arguments_none :
    Yields (arguments sheet (.closeParen :: ts)) es after ↔ es = [] ∧
      after = .closeParen :: ts := by
  rw [arguments]
  exact yields_ok

theorem yields_arguments (none : ∀ more, ts ≠ .closeParen :: more) :
    Yields (arguments sheet ts) es after ↔ Listed sheet ts es after := by
  rw [arguments]
  simp only [closing?_eq_none none]
  refine yields_iff_exists (fun failure failed => ?_) fun first rest fewer read => ?_
  · simp only [failed]
  · simp only [read]
    refine yields_iff_exists (fun failure failed => ?_) fun others rest' le next => ?_
    · simp only [failed]
    · simp only [next]
      exact yields_ok

theorem yields_moreArguments_comma :
    Yields (moreArguments sheet (.comma :: ts)) es after ↔ Listed sheet ts es after := by
  rw [moreArguments]
  simp only [comma?]
  refine yields_iff_exists (fun failure failed => ?_) fun first rest fewer read => ?_
  · simp only [failed]
  · simp only [read]
    refine yields_iff_exists (fun failure failed => ?_) fun others rest' le next => ?_
    · simp only [failed]
    · simp only [next]
      exact yields_ok

theorem yields_moreArguments_end (none : ∀ more, ts ≠ .comma :: more) :
    Yields (moreArguments sheet ts) es after ↔ es = [] ∧ after = ts := by
  rw [moreArguments]
  simp only [comma?_eq_none none]
  exact yields_ok

end Primaries

end SheetCompiler.Formula.Parser
