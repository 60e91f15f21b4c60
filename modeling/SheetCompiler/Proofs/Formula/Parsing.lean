import SheetCompiler.Proofs.Formula.Unambiguity
import SheetCompiler.Proofs.Formula.Yields

/-!
# Formulas are read by their grammar

What is read is derived by the grammar, by recursion on the tokens left; and every derivation is
read back from its tokens, by recursion on the derivation.

In the second direction the tokens behind a derivation matter. A left operand is read while
operators of its own level still follow it, so a derivation is not read up to its own end, but with
whatever
`operands` makes of the tokens behind it: `Onward`.
-/

namespace SheetCompiler.Formula.Parser

open Grammar

variable {sheet : String} {l : Nat} {ts rest after : List Token} {e : Expr}

section Soundness

/-- What is read as an operand without expressions inside, from its first token on. -/
theorem exists_leaf_of_reference (first : Corner) {left : Nat}
    (h : Yields (reference (first.sheet sheet) first.name left ts) e after) :
    ∃ leaf : Leaf sheet, leaf.expr = e ∧ first.tokens ++ ts = leaf.tokens ++ after := by
  by_cases colon : ∃ more, ts = .colon :: more
  · obtain ⟨more, rfl⟩ := colon
    obtain ⟨last, together, rfl, rfl⟩ := yields_reference_colon.mp h
    refine ⟨.range first last together, rfl, ?_⟩
    rw [Leaf.tokens, List.append_assoc, List.cons_append]
  · have none : ∀ more, ts ≠ .colon :: more := fun more same => colon ⟨more, same⟩
    obtain ⟨rfl, rfl⟩ := (yields_reference_cell none).mp h
    exact ⟨.cell first, rfl, rfl⟩

theorem exists_leaf_of_bareName {name : String} {left : Nat}
    (h : Yields (bareName sheet name left ts) e after) :
    ∃ leaf : Leaf sheet, leaf.expr = e ∧ .identifier name :: ts = leaf.tokens ++ after := by
  cases spelled : literal? (.identifier name) with
  | some v =>
      obtain ⟨rfl, rfl⟩ := (yields_bareName_literal spelled).mp h
      exact ⟨.literal _ v spelled, rfl, rfl⟩
  | none =>
      have read := (yields_bareName_reference spelled).mp h
      obtain ⟨row, col, spelled⟩ := parseLocal?_of_yields_reference read
      exact exists_leaf_of_reference ⟨none, name, row, col, spelled⟩ read

theorem exists_leaf_of_sheetReference {other : String}
    (h : Yields (sheetReference other ts) e after) :
    ∃ leaf : Leaf sheet, leaf.expr = e ∧ .sheet other :: ts = leaf.tokens ++ after := by
  unfold sheetReference at h
  split at h
  case h_1 name rest =>
    have read := yields_sheetReference.mp h
    obtain ⟨row, col, spelled⟩ := parseLocal?_of_yields_reference read
    exact exists_leaf_of_reference ⟨some other, name, row, col, spelled⟩ read
  case h_2 => exact absurd h not_yields_error

theorem exists_leaf_of_primary (group : ∀ more, ts ≠ .openParen :: more)
    (call : ∀ name more, ts ≠ .identifier name :: .openParen :: more)
    (h : Yields (primary sheet ts) e after) :
    ∃ leaf : Leaf sheet, leaf.expr = e ∧ ts = leaf.tokens ++ after := by
  cases ts with
  | nil =>
      rw [primary] at h
      exact absurd h not_yields_error
  | cons token ts =>
      cases token with
      | sheet other => exact exists_leaf_of_sheetReference (yields_primary_sheet.mp h)
      | identifier name =>
          have none : ∀ more, ts ≠ .openParen :: more := by
            rintro more rfl
            exact call name more rfl
          exact exists_leaf_of_bareName ((yields_primary_bareName none).mp h)
      | integer | number | text =>
          rw [primary] at h
          obtain ⟨rfl, rfl⟩ := yields_ok.mp h
          exact ⟨.literal _ _ rfl, rfl, rfl⟩
      | openParen => exact absurd rfl (group ts)
      | operator | closeParen | comma | colon =>
          rw [primary] at h
          exact absurd h not_yields_error

mutual

/-- What is read is derived from the tokens it is read from. -/
theorem exists_derivation {l : Nat} {ts after : List Token} {e : Expr}
    (h : Yields (expression sheet l ts) e after) :
    ∃ d : Derivation sheet l, d.expr = e ∧ ts = d.tokens ++ after := by
  match l with
  | 0 => exact exists_derivation_of_signed (yields_expression_zero.mp h)
  | l + 1 =>
      obtain ⟨left, rest, first, next⟩ := yields_expression_succ.mp h
      have fewer := first.bounded
      obtain ⟨d, rfl, rfl⟩ := exists_derivation first
      have operand : (Derivation.operand d).expr = d.expr := by rw [Derivation.expr]
      rw [← operand] at next
      obtain ⟨d', made, tokens⟩ := exists_derivation_of_operands (.operand d) next
      rw [Derivation.tokens] at tokens
      exact ⟨d', made, tokens⟩
termination_by (ts.length, l + 2)

/-- Operators and operands go on with what stands before them. -/
theorem exists_derivation_of_operands {l : Nat} {ts after : List Token} {e : Expr}
    (left : Derivation sheet (l + 1)) (h : Yields (operands sheet l left.expr ts) e after) :
    ∃ d : Derivation sheet (l + 1), d.expr = e ∧ left.tokens ++ ts = d.tokens ++ after := by
  by_cases goes : ∃ op ∈ operators (l + 1), ∃ more, ts = .operator op.sign :: more
  · obtain ⟨op, leveled, more, rfl⟩ := goes
    obtain ⟨right, rest, first, next⟩ := (yields_operands_operator leveled).mp h
    have fewer := first.bounded
    obtain ⟨d, rfl, rfl⟩ := exists_derivation first
    have binary : (Derivation.binary left op leveled d).expr = .binary op left.expr d.expr := by
      rw [Derivation.expr]
    rw [← binary] at next
    obtain ⟨d', made, tokens⟩ := exists_derivation_of_operands (.binary left op leveled d) next
    refine ⟨d', made, ?_⟩
    rw [← tokens, Derivation.tokens, List.append_assoc, List.cons_append]
  · have none : ∀ op ∈ operators (l + 1), ∀ more, ts ≠ .operator op.sign :: more := by
      intro op leveled more same
      exact goes ⟨op, leveled, more, same⟩
    obtain ⟨rfl, rfl⟩ := (yields_operands_end none).mp h
    exact ⟨left, rfl, rfl⟩
termination_by (ts.length, 0)

theorem exists_derivation_of_signed {ts after : List Token} {e : Expr}
    (h : Yields (signed sheet ts) e after) :
    ∃ d : Derivation sheet 0, d.expr = e ∧ ts = d.tokens ++ after := by
  by_cases leads : ∃ sign more, ts = .operator sign :: more
  · obtain ⟨sign, more, rfl⟩ := leads
    obtain ⟨op, leading, rfl⟩ := exists_operator_of_yields_signed h
    obtain ⟨inner, rest, read, rfl, rfl⟩ := (yields_signed_operator leading).mp h
    obtain ⟨d, rfl, rfl⟩ := exists_derivation_of_signed read
    refine ⟨.signed op leading d, ?_, ?_⟩
    · rw [Derivation.expr]
    · rw [Derivation.tokens, List.cons_append]
  · have unsigned : ∀ sign more, ts ≠ .operator sign :: more := by
      intro sign more same
      exact leads ⟨sign, more, same⟩
    obtain ⟨inner, rest, read, rfl, rfl⟩ := (yields_signed_operand unsigned).mp h
    obtain ⟨p, rfl, tokens⟩ := exists_primary read
    obtain ⟨count, made, signs⟩ := exists_replicate_percents p.expr rest
    refine ⟨.percents p count, ?_, ?_⟩
    · rw [Derivation.expr, made]
    · rw [Derivation.tokens, List.append_assoc, ← signs, tokens]
termination_by (ts.length, 1)

theorem exists_primary {ts after : List Token} {e : Expr} (h : Yields (primary sheet ts) e after) :
    ∃ p : Primary sheet, p.expr = e ∧ ts = p.tokens ++ after := by
  by_cases group : ∃ more, ts = .openParen :: more
  · obtain ⟨more, rfl⟩ := group
    obtain ⟨d, rfl, rfl⟩ := exists_derivation (yields_primary_group.mp h)
    refine ⟨.group d, ?_, ?_⟩
    · rw [Primary.expr]
    · rw [Primary.group_tokens_append]
  by_cases call : ∃ name more, ts = .identifier name :: .openParen :: more
  · obtain ⟨name, more, rfl⟩ := call
    obtain ⟨args, read, rfl⟩ := yields_primary_call.mp h
    by_cases empty : ∃ behind, more = .closeParen :: behind
    · obtain ⟨behind, rfl⟩ := empty
      obtain ⟨rfl, same⟩ := yields_arguments_none.mp read
      cases same
      refine ⟨.leaf (.emptyCall name), ?_, ?_⟩
      · rw [Primary.expr]
        rfl
      · rw [Primary.tokens]
        rfl
    · have some : ∀ behind, more ≠ .closeParen :: behind := fun behind same => empty ⟨behind, same⟩
      obtain ⟨args, rfl, rfl⟩ := exists_arguments ((yields_arguments some).mp read)
      refine ⟨.call name args, ?_, ?_⟩
      · rw [Primary.expr]
      · rw [Primary.call_tokens_append]
  · obtain ⟨leaf, made, tokens⟩ := exists_leaf_of_primary (fun more same => group ⟨more, same⟩)
      (fun name more same => call ⟨name, more, same⟩) h
    refine ⟨.leaf leaf, ?_, ?_⟩
    · rw [Primary.expr, made]
    · rw [Primary.tokens, tokens]
termination_by (ts.length, 0)

theorem exists_arguments {ts after : List Token} {es : List Expr} (h : Listed sheet ts es after) :
    ∃ args : Arguments sheet, args.exprs = es ∧ ts = args.tokens ++ after := by
  obtain ⟨first, rest, read, others, rest', next, rfl, rfl⟩ := h
  have fewer := read.bounded
  obtain ⟨d, rfl, rfl⟩ := exists_derivation read
  by_cases comma : ∃ more, rest = .comma :: more
  · obtain ⟨more, rfl⟩ := comma
    have listed := yields_moreArguments_comma.mp next
    obtain ⟨args, rfl, rfl⟩ := exists_arguments listed
    refine ⟨.more d args, ?_, ?_⟩
    · rw [Arguments.exprs]
    · simp only [Arguments.tokens, List.append_assoc, List.cons_append]
  · have none : ∀ more, rest ≠ .comma :: more := fun more same => comma ⟨more, same⟩
    obtain ⟨rfl, rfl⟩ := (yields_moreArguments_end none).mp next
    refine ⟨.last d, ?_, ?_⟩
    · rw [Arguments.exprs]
    · rw [Arguments.tokens]
termination_by (ts.length, 8)

end

end Soundness

section Completeness

theorem yields_primary_corner (first : Corner) (none : ∀ more, ts ≠ .openParen :: more) :
    Yields (primary sheet (first.tokens ++ ts)) e after ↔
      Yields (reference (first.sheet sheet) first.name (first.tokens.length + ts.length) ts) e
        after := by
  obtain ⟨sheet?, name, row, col, spelled⟩ := first
  cases sheet? with
  | none =>
      refine (yields_primary_bareName none).trans ?_
      rw [Nat.add_comm]
      exact yields_bareName_reference (literal?_identifier_of_parseLocal? spelled)
  | some other =>
      refine yields_primary_sheet.trans ?_
      rw [Nat.add_comm]
      exact yields_sheetReference

theorem yields_leaf (leaf : Leaf sheet) (closed : Closed rest) :
    Yields (primary sheet (leaf.tokens ++ rest)) leaf.expr rest := by
  cases leaf with
  | literal token value spelled =>
      cases token with
      | identifier name =>
          refine (yields_primary_bareName fun more => closed.ne_openParen).mpr ?_
          exact (yields_bareName_literal spelled).mpr ⟨rfl, rfl⟩
      | integer | number | text =>
          cases spelled
          simp only [Leaf.tokens, List.cons_append, primary]
          exact yields_ok.mpr ⟨rfl, rfl⟩
      | sheet | operator | openParen | closeParen | comma | colon => cases spelled
  | cell place =>
      refine (yields_primary_corner place fun more => closed.ne_openParen).mpr ?_
      exact (yields_reference_cell fun more => closed.ne_colon).mpr ⟨rfl, rfl⟩
  | range first last together =>
      rw [Leaf.tokens, List.append_assoc]
      refine (yields_primary_corner first fun more same => by cases same).mpr ?_
      exact yields_reference_colon.mpr ⟨last, together, rfl, rfl⟩
  | emptyCall name =>
      refine yields_primary_call.mpr ⟨[], ?_, rfl⟩
      exact yields_arguments_none.mpr ⟨rfl, rfl⟩

/-- What reading makes of an expression of the level and the tokens behind it. -/
def Onward (sheet : String) : Nat → Expr → List Token → Expr → List Token → Prop
  | 0, e, rest, e', after => e' = e ∧ after = rest
  | l + 1, e, rest, e', after => Yields (operands sheet l e rest) e' after

theorem onward_end (ends : Ends l rest) (e : Expr) : Onward sheet l e rest e rest := by
  cases l with
  | zero => exact ⟨rfl, rfl⟩
  | succ l =>
      refine (yields_operands_end ?_).mpr ⟨rfl, rfl⟩
      rintro op leveled more rfl
      exact ends _ rfl (.inr ⟨l + 1, Nat.le_refl _, op, leveled, rfl⟩)

mutual

/-- A derivation is read from its tokens, and then on with the tokens behind it. -/
theorem yields_derivation {l : Nat} : (d : Derivation sheet l) → {rest after : List Token} →
    {e : Expr} → Ends (l - 1) rest → Onward sheet l d.expr rest e after →
    Yields (expression sheet l (d.tokens ++ rest)) e after
  | .operand first, rest, after, e, ends, onward => by
      rw [Derivation.expr] at onward
      rw [Derivation.tokens]
      refine yields_expression_succ.mpr ⟨first.expr, rest, ?_, onward⟩
      exact yields_derivation first (ends.mono (Nat.sub_le _ _)) (onward_end ends _)
  | .binary left op leveled right, rest, after, e, ends, onward => by
      rw [Derivation.expr] at onward
      rw [Derivation.tokens, List.append_assoc, List.cons_append]
      refine yields_derivation left (ends_operator leveled) ?_
      refine (yields_operands_operator leveled).mpr ⟨right.expr, rest, ?_, onward⟩
      exact yields_derivation right (ends.mono (Nat.sub_le _ _)) (onward_end ends _)
  | .signed op leading d, rest, _, _, ends, ⟨rfl, rfl⟩ => by
      rw [Derivation.tokens, Derivation.expr, List.cons_append, yields_expression_zero]
      refine (yields_signed_operator leading).mpr ⟨d.expr, rest, ?_, rfl, rfl⟩
      exact yields_expression_zero.mp (yields_derivation d ends ⟨rfl, rfl⟩)
  | .percents p count, rest, _, _, ends, ⟨rfl, rfl⟩ => by
      rw [Derivation.tokens, Derivation.expr, List.append_assoc, yields_expression_zero]
      obtain ⟨signs, rest⟩ := percents_replicate ends p.expr count
      refine (yields_signed_operand fun sign more => p.tokens_ne_operator).mpr ?_
      exact ⟨p.expr, _, yields_primary p (closed_percents ends.closed), signs.symm, rest.symm⟩

theorem yields_primary : (p : Primary sheet) → {rest : List Token} → Closed rest →
    Yields (primary sheet (p.tokens ++ rest)) p.expr rest
  | .leaf leaf, rest, closed => by
      rw [Primary.tokens, Primary.expr]
      exact yields_leaf leaf closed
  | .group inner, rest, closed => by
      rw [Primary.group_tokens_append, Primary.expr]
      refine yields_primary_group.mpr ?_
      exact yields_derivation inner ends_closeParen (onward_end ends_closeParen _)
  | .call name args, rest, closed => by
      rw [Primary.call_tokens_append, Primary.expr]
      refine yields_primary_call.mpr ⟨args.exprs, ?_, rfl⟩
      exact (yields_arguments fun more => args.tokens_ne_closeParen).mpr (listed_arguments args)

theorem listed_arguments : (args : Arguments sheet) → {rest : List Token} →
    Listed sheet (args.tokens ++ .closeParen :: rest) args.exprs (.closeParen :: rest)
  | .last d, rest => by
      rw [Arguments.tokens, Arguments.exprs]
      refine ⟨d.expr, .closeParen :: rest, ?_, [], _, ?_, rfl, rfl⟩
      · exact yields_derivation d ends_closeParen (onward_end ends_closeParen _)
      · exact (yields_moreArguments_end fun more same => by cases same).mpr ⟨rfl, rfl⟩
  | .more d others, rest => by
      rw [Arguments.tokens, Arguments.exprs, List.append_assoc]
      refine ⟨d.expr, .comma :: (others.tokens ++ .closeParen :: rest), ?_, others.exprs, _, ?_,
        rfl, rfl⟩
      · exact yields_derivation d ends_comma (onward_end ends_comma _)
      · exact yields_moreArguments_comma.mpr (listed_arguments others)

end

end Completeness

theorem parseTokens_eq_ok_iff :
    parseTokens ts sheet = .ok e ↔ Yields (expression sheet 5 ts) e [] := by
  cases ts with
  | nil =>
      constructor
      · intro result
        cases result
      · intro read
        exact absurd read.bounded (Nat.lt_irrefl _)
  | cons token more =>
      rw [parseTokens]
      cases read : expression sheet 5 (token :: more) with
      | error failure => exact iff_of_false nofun not_yields_error
      | ok outcome =>
          obtain ⟨e', rest, fewer⟩ := outcome
          cases rest with
          | nil => simp [yields_ok, eq_comm]
          | cons token' rest => simp [yields_ok]
      · nofun

/-- Reading all tokens is deriving them. -/
theorem parseTokens_eq_ok_iff_exists :
    parseTokens ts sheet = .ok e ↔ ∃ d : Derivation sheet 5, d.tokens = ts ∧ d.expr = e := by
  rw [parseTokens_eq_ok_iff]
  constructor
  · intro read
    obtain ⟨d, made, tokens⟩ := exists_derivation read
    rw [List.append_nil] at tokens
    exact ⟨d, tokens.symm, made⟩
  · rintro ⟨d, rfl, rfl⟩
    have read := yields_derivation d ends_nil (onward_end ends_nil d.expr)
    rwa [List.append_nil] at read

end SheetCompiler.Formula.Parser

namespace SheetCompiler.Formula

open Grammar

/-- Reading tokens gives an expression exactly when the grammar derives it from them. The derivation
is unique, and reading ends with an error on all other tokens. -/
theorem parseTokens_exact (ts : List Token) (sheet : String) :
    (∀ e, parseTokens ts sheet = .ok e ↔ ∃ d : Derivation sheet 5, d.tokens = ts ∧ d.expr = e) ∧
      { d : Derivation sheet 5 | d.tokens = ts }.Subsingleton ∧
      ((∃ failure, parseTokens ts sheet = .error failure) ↔
        ∀ d : Derivation sheet 5, d.tokens ≠ ts) := by
  refine ⟨fun e => Parser.parseTokens_eq_ok_iff_exists, ?_, ?_⟩
  · intro d derives d' derives'
    exact Derivation.tokens_injective (derives.trans derives'.symm)
  · constructor
    · rintro ⟨failure, failed⟩ d derives
      have read := Parser.parseTokens_eq_ok_iff_exists.mpr ⟨d, derives, rfl⟩
      rw [failed] at read
      cases read
    · intro none
      cases result : parseTokens ts sheet with
      | error failure => exact ⟨failure, rfl⟩
      | ok e =>
          obtain ⟨d, derives, -⟩ := Parser.parseTokens_eq_ok_iff_exists.mp result
          exact absurd derives (none d)

end SheetCompiler.Formula
