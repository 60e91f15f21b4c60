import SheetCompiler.Proofs.Formula.Grammar

/-!
# The grammar is unambiguous

A list of tokens has at most one derivation. Two derivations of one text are compared from the left.
Operators associate to the left, so the rule at the root of a derivation shows last: a derivation of
a level is taken as its first operand with a chain of operators and right operands behind it, and of
two derivations one is known to be a beginning of the other, `Leads`, until the text ends.
-/

namespace SheetCompiler.Formula.Grammar

variable {owner : String}

section Leaves

theorem Corner.ext_of_name {c c' : Corner} (sheet : c.sheet? = c'.sheet?)
    (name : c.name = c'.name) :
    c = c' := by
  obtain ⟨sheet?, name₁, row, col, spelled⟩ := c
  obtain ⟨sheet?', name₂, row', col', spelled'⟩ := c'
  obtain rfl : sheet? = sheet?' := sheet
  obtain rfl : name₁ = name₂ := name
  rw [spelled] at spelled'
  cases spelled'
  rfl

/-- A corner is known from its tokens, whatever follows. -/
theorem Corner.unique {c c' : Corner} {rest rest' : List Token}
    (h : c.tokens ++ rest = c'.tokens ++ rest') : c = c' ∧ rest = rest' := by
  cases sheet : c.sheet? <;> cases sheet' : c'.sheet? <;>
    simp only [Corner.tokens, sheet, sheet', Option.map, Option.toList, List.nil_append,
      List.cons_append, List.cons.injEq, Token.identifier.injEq, Token.sheet.injEq, reduceCtorEq,
      false_and] at h
  · exact ⟨ext_of_name (sheet.trans sheet'.symm) h.1, h.2⟩
  · refine ⟨ext_of_name ?_ h.2.1, h.2.2⟩
    rw [sheet, sheet', h.1]

/-- A corner starts with a name or a sheet, which spell no literal. -/
theorem Corner.exists_tokens_eq_cons (c : Corner) :
    ∃ t ts, c.tokens = t :: ts ∧ literal? t = none := by
  cases sheet : c.sheet? with
  | none =>
      refine ⟨.identifier c.name, [], ?_, literal?_identifier_of_parseLocal? c.spelled⟩
      simp [tokens, sheet]
  | some s =>
      refine ⟨.sheet s, [.identifier c.name], ?_, rfl⟩
      simp [tokens, sheet]

theorem Corner.ne_of_literal? {c : Corner} {token : Token} {value : Literal}
    {rest rest' : List Token} (spelled : literal? token = some value) :
    token :: rest ≠ c.tokens ++ rest' := by
  intro same
  obtain ⟨t, ts, tokens, none⟩ := c.exists_tokens_eq_cons
  rw [tokens, List.cons_append] at same
  rw [(List.cons.inj same).1, none] at spelled
  cases spelled

/-- Behind the name of a corner stands what stands behind the name. -/
theorem Corner.rest_eq_of_identifier {c : Corner} {name : String} {rest rest' : List Token}
    (h : .identifier name :: rest = c.tokens ++ rest') : rest = rest' := by
  cases sheet : c.sheet? with
  | none =>
      simp only [tokens, sheet] at h
      exact (List.cons.inj h).2
  | some s =>
      simp only [tokens, sheet] at h
      cases (List.cons.inj h).1

/-- An operand without expressions inside is known from its tokens, if what follows does not go on
with it. -/
theorem Leaf.unique {a b : Leaf owner} {rest rest' : List Token} (closed : Closed rest)
    (closed' : Closed rest') (h : a.tokens ++ rest = b.tokens ++ rest') : a = b ∧ rest = rest' := by
  cases a with
  | literal token value spelled =>
      cases b with
      | literal token' value' spelled' =>
          obtain ⟨rfl, rfl⟩ := List.cons.inj h
          obtain rfl := Option.some.inj (spelled.symm.trans spelled')
          exact ⟨rfl, rfl⟩
      | cell place => exact absurd h (Corner.ne_of_literal? spelled)
      | range first last together =>
          rw [tokens, tokens, List.append_assoc] at h
          exact absurd h (Corner.ne_of_literal? spelled)
      | emptyCall name => exact absurd (List.cons.inj h).2 closed.ne_openParen
  | cell place =>
      cases b with
      | literal token value spelled => exact absurd h.symm (Corner.ne_of_literal? spelled)
      | cell place' =>
          obtain ⟨rfl, rfl⟩ := Corner.unique h
          exact ⟨rfl, rfl⟩
      | range first last together =>
          rw [tokens, tokens, List.append_assoc] at h
          exact absurd (Corner.unique h).2 closed.ne_colon
      | emptyCall name =>
          exact absurd (Corner.rest_eq_of_identifier h.symm).symm closed.ne_openParen
  | range first last together =>
      rw [tokens, List.append_assoc] at h
      cases b with
      | literal token value spelled => exact absurd h.symm (Corner.ne_of_literal? spelled)
      | cell place => exact absurd (Corner.unique h).2.symm closed'.ne_colon
      | range first' last' together' =>
          rw [tokens, List.append_assoc] at h
          obtain ⟨rfl, further⟩ := Corner.unique h
          obtain ⟨rfl, rfl⟩ := Corner.unique (List.cons.inj further).2
          exact ⟨rfl, rfl⟩
      | emptyCall name => cases Corner.rest_eq_of_identifier h.symm
  | emptyCall name =>
      cases b with
      | literal token value spelled => exact absurd (List.cons.inj h).2.symm closed'.ne_openParen
      | cell place => exact absurd (Corner.rest_eq_of_identifier h).symm closed'.ne_openParen
      | range first last together =>
          rw [tokens, tokens, List.append_assoc] at h
          cases Corner.rest_eq_of_identifier h
      | emptyCall name' =>
          cases h
          exact ⟨rfl, rfl⟩

end Leaves

section Chains

/-- An operator of level `l + 1` and its right operand. -/
structure Link (owner : String) (l : Nat) where
  op : BinaryOp
  leveled : op ∈ operators (l + 1)
  right : Derivation owner l

variable {l : Nat}

/-- The tokens of operators and their right operands. -/
def behind (links : List (Link owner l)) : List Token :=
  links.flatMap fun link => .operator link.op.sign :: link.right.tokens

theorem behind_cons (link : Link owner l) (links : List (Link owner l)) :
    behind (link :: links) = .operator link.op.sign :: (link.right.tokens ++ behind links) := by
  rw [behind, List.flatMap_cons, List.cons_append]
  rfl

/-- A derivation with further operands behind it. -/
def Derivation.extend (d : Derivation owner (l + 1)) (links : List (Link owner l)) :
    Derivation owner (l + 1) :=
  links.foldl (fun left link => .binary left link.op link.leveled link.right) d

/-- Every derivation of a level above `0` is an operand with further operands behind it. -/
theorem Derivation.exists_extend : (d : Derivation owner (l + 1)) →
    ∃ first links, d = (operand first).extend links ∧ d.tokens = first.tokens ++ behind links
  | .operand first => ⟨first, [], rfl, by simp [Derivation.tokens, behind]⟩
  | .binary left op leveled right => by
      obtain ⟨first, links, made, tokens⟩ := left.exists_extend
      refine ⟨first, links ++ [⟨op, leveled, right⟩], ?_, ?_⟩
      · rw [made, extend, extend, List.foldl_append]
        rfl
      · rw [Derivation.tokens, tokens]
        simp [behind]

theorem ends_behind (links : List (Link owner l)) {rest : List Token} (h : Ends l rest) :
    Ends l (behind links ++ rest) := by
  cases links with
  | nil => exact h
  | cons link more => exact ends_operator link.leveled

theorem not_ends_behind {link : Link owner l} {more : List (Link owner l)} {rest : List Token} :
    ¬ Ends (l + 1) (behind (link :: more) ++ rest) := by
  intro ends
  exact ends _ rfl (.inr ⟨l + 1, Nat.le_refl _, link.op, link.leveled, rfl⟩)

/-- Two derivations of one text, the second followed by nothing that goes on with it: the second is
the first with the operands behind it that the first has left over. -/
def Leads : {l : Nat} → (d d' : Derivation owner l) → (rest rest' : List Token) → Prop
  | 0, d, d', rest, rest' => d = d' ∧ rest = rest'
  | _ + 1, d, d', rest, rest' => ∃ links, d' = d.extend links ∧ rest = behind links ++ rest'

theorem Leads.eq {d d' : Derivation owner l} {rest rest' : List Token} (h : Leads d d' rest rest')
    (ends : Ends l rest) : d = d' ∧ rest = rest' := by
  cases l with
  | zero => exact h
  | succ l =>
      obtain ⟨links, rfl, rfl⟩ := h
      cases links with
      | nil => exact ⟨rfl, rfl⟩
      | cons link more => exact absurd ends not_ends_behind

end Chains

section Unambiguity

variable {rest rest' : List Token}

theorem percents_unique {count count' : Nat} (ends : Ends 0 rest) (ends' : Ends 0 rest')
    (h : List.replicate count (.operator .percent) ++ rest =
      List.replicate count' (.operator .percent) ++ rest') : count = count' ∧ rest = rest' := by
  induction count generalizing count' with
  | zero =>
      cases count' with
      | zero => exact ⟨rfl, h⟩
      | succ count' =>
          obtain rfl : rest = _ := h
          exact absurd (.inl rfl) (ends _ rfl)
  | succ count ih =>
      cases count' with
      | zero =>
          obtain rfl : _ = rest' := h
          exact absurd (.inl rfl) (ends' _ rfl)
      | succ count' =>
          obtain ⟨rfl, same⟩ := ih (List.cons.inj h).2
          exact ⟨rfl, same⟩

/-- The only operand without expressions inside that starts like a call is a call of nothing. -/
theorem Leaf.eq_closeParen_of_call (leaf : Leaf owner) {name : String} {ts : List Token}
    (closed : Closed rest) (h : leaf.tokens ++ rest = .identifier name :: .openParen :: ts) :
    ts = .closeParen :: rest := by
  cases leaf with
  | literal token value spelled => exact absurd (List.cons.inj h).2 closed.ne_openParen
  | cell place => exact absurd (Corner.rest_eq_of_identifier h.symm).symm closed.ne_openParen
  | range first last together =>
      rw [tokens, List.append_assoc] at h
      cases Corner.rest_eq_of_identifier h.symm
  | emptyCall name' =>
      cases h
      rfl

mutual

/-- The text of a derivation and what is left behind it determine the derivation, up to operands of
its own level that are left. -/
theorem Derivation.leads {l : Nat} : (d : Derivation owner l) → {d' : Derivation owner l} →
    {rest rest' : List Token} → Ends (l - 1) rest → Ends l rest' →
    d.tokens ++ rest = d'.tokens ++ rest' → Leads d d' rest rest'
  | .operand first, d', rest, rest', ends, ends', h => by
      obtain ⟨first', links, rfl, tokens⟩ := d'.exists_extend
      rw [tokens, List.append_assoc, Derivation.tokens] at h
      have below := ends_behind links (ends'.mono (Nat.le_succ _))
      obtain ⟨rfl, rfl⟩ := (first.leads (ends.mono (Nat.sub_le _ _)) below h).eq ends
      exact ⟨links, rfl, rfl⟩
  | .binary left op leveled right, d', rest, rest', ends, ends', h => by
      rw [Derivation.tokens, List.append_assoc, List.cons_append] at h
      obtain ⟨links, rfl, left_over⟩ := left.leads (ends_operator leveled) ends' h
      cases links with
      | nil =>
          obtain rfl : _ = rest' := left_over
          exact absurd (.inr ⟨_, Nat.le_refl _, op, leveled, rfl⟩) (ends' _ rfl)
      | cons link more =>
          obtain ⟨op', leveled', right'⟩ := link
          simp only [behind_cons, List.cons_append, List.append_assoc, List.cons.injEq,
            Token.operator.injEq] at left_over
          obtain rfl := sign_injective left_over.1
          have below := ends_behind more (ends'.mono (Nat.le_succ _))
          obtain ⟨rfl, rfl⟩ := (right.leads (ends.mono (Nat.sub_le _ _)) below left_over.2).eq ends
          exact ⟨more, rfl, rfl⟩
  | .signed op leading inner, .signed op' leading' inner', rest, rest', ends, ends', h => by
      simp only [Derivation.tokens, List.cons_append, List.cons.injEq, Token.operator.injEq] at h
      obtain rfl := unarySign_injective h.1
      obtain ⟨rfl, rfl⟩ := inner.leads ends ends' h.2
      exact ⟨rfl, rfl⟩
  | .signed op leading inner, .percents p count, rest, rest', ends, ends', h => by
      rw [Derivation.tokens, Derivation.tokens, List.append_assoc] at h
      exact absurd h.symm p.tokens_ne_operator
  | .percents p count, .signed op leading inner, rest, rest', ends, ends', h => by
      rw [Derivation.tokens, Derivation.tokens, List.append_assoc] at h
      exact absurd h p.tokens_ne_operator
  | .percents p count, .percents p' count', rest, rest', ends, ends', h => by
      rw [Derivation.tokens, Derivation.tokens, List.append_assoc, List.append_assoc] at h
      obtain ⟨rfl, signs⟩ := p.unique (closed_percents ends.closed) (closed_percents ends'.closed) h
      obtain ⟨rfl, rfl⟩ := percents_unique ends ends' signs
      exact ⟨rfl, rfl⟩

theorem Primary.unique : (p : Primary owner) → {p' : Primary owner} → {rest rest' : List Token} →
    Closed rest → Closed rest' → p.tokens ++ rest = p'.tokens ++ rest' → p = p' ∧ rest = rest'
  | .leaf leaf, .leaf leaf', rest, rest', closed, closed', h => by
      rw [Primary.tokens, Primary.tokens] at h
      obtain ⟨rfl, rfl⟩ := Leaf.unique closed closed' h
      exact ⟨rfl, rfl⟩
  | .leaf leaf, .group inner, rest, rest', closed, closed', h => by
      rw [Primary.tokens, Primary.tokens] at h
      exact absurd h leaf.tokens_ne_openParen
  | .leaf leaf, .call name args, rest, rest', closed, closed', h => by
      rw [Primary.call_tokens_append, Primary.tokens] at h
      exact absurd (leaf.eq_closeParen_of_call closed h) args.tokens_ne_closeParen
  | .group inner, .leaf leaf, rest, rest', closed, closed', h => by
      rw [Primary.tokens, Primary.tokens] at h
      exact absurd h.symm leaf.tokens_ne_openParen
  | .group inner, .group inner', rest, rest', closed, closed', h => by
      rw [Primary.group_tokens_append, Primary.group_tokens_append] at h
      have inside := (List.cons.inj h).2
      obtain ⟨rfl, after⟩ := (inner.leads ends_closeParen ends_closeParen inside).eq ends_closeParen
      exact ⟨rfl, (List.cons.inj after).2⟩
  | .group inner, .call name args, rest, rest', closed, closed', h => by
      rw [Primary.tokens, Primary.tokens] at h
      cases h
  | .call name args, .leaf leaf, rest, rest', closed, closed', h => by
      rw [Primary.call_tokens_append, Primary.tokens] at h
      exact absurd (leaf.eq_closeParen_of_call closed' h.symm) args.tokens_ne_closeParen
  | .call name args, .group inner, rest, rest', closed, closed', h => by
      rw [Primary.tokens, Primary.tokens] at h
      cases h
  | .call name args, .call name' args', rest, rest', closed, closed', h => by
      rw [Primary.call_tokens_append, Primary.call_tokens_append] at h
      simp only [List.cons.injEq, Token.identifier.injEq] at h
      obtain ⟨rfl, -, after⟩ := h
      obtain ⟨rfl, rfl⟩ := args.unique after
      exact ⟨rfl, rfl⟩

theorem Arguments.unique : (args : Arguments owner) → {args' : Arguments owner} →
    {rest rest' : List Token} →
    args.tokens ++ .closeParen :: rest = args'.tokens ++ .closeParen :: rest' →
    args = args' ∧ rest = rest'
  | .last d, .last d', rest, rest', h => by
      rw [Arguments.tokens, Arguments.tokens] at h
      obtain ⟨rfl, after⟩ := (d.leads ends_closeParen ends_closeParen h).eq ends_closeParen
      exact ⟨rfl, (List.cons.inj after).2⟩
  | .last d, .more d' others', rest, rest', h => by
      rw [Arguments.tokens, Arguments.tokens, List.append_assoc] at h
      cases ((d.leads ends_closeParen ends_comma h).eq ends_closeParen).2
  | .more d others, .last d', rest, rest', h => by
      rw [Arguments.tokens, Arguments.tokens, List.append_assoc] at h
      cases ((d.leads ends_comma ends_closeParen h).eq ends_comma).2
  | .more d others, .more d' others', rest, rest', h => by
      rw [Arguments.tokens, Arguments.tokens, List.append_assoc, List.append_assoc] at h
      obtain ⟨rfl, after⟩ := (d.leads ends_comma ends_comma h).eq ends_comma
      obtain ⟨rfl, rfl⟩ := others.unique (List.cons.inj after).2
      exact ⟨rfl, rfl⟩

end

/-- The grammar is unambiguous. -/
theorem Derivation.tokens_injective {l : Nat} :
    Function.Injective (Derivation.tokens : Derivation owner l → List Token) := by
  intro d d' same
  refine ((d.leads ends_nil ends_nil ?_).eq ends_nil).1
  rw [same]

end Unambiguity

end SheetCompiler.Formula.Grammar
