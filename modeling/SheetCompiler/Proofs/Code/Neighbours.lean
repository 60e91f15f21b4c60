import SheetCompiler.Proofs.Code.Renaming
import SheetCompiler.Proofs.Code.TypeArguments
import SheetCompiler.Proofs.Code.Typing
import SheetCompiler.Proofs.Except

/-!
# Neighbours in typed code

What stands side by side in a call is decided by the signature of its function. Only three functions
take a truth value directly in front of a value, so only their arguments can read as type arguments.
Under new names the lists of an expression stay where they are, and the same neighbours are misread.
-/

namespace SheetCompiler.Code

namespace Expr

section Lists

variable {e : Expr} {items : List Expr}

theorem closing_iff : closing items ↔
    ∃ names last after, items = List.map .ident names ++ last :: after ∧ last.closes := by
  induction items with
  | nil => simp [closing]
  | cons e rest ih =>
      rw [closing, Bool.or_eq_true, Bool.and_eq_true, ih]
      constructor
      · rintro (closes | ⟨named, names, last, after, rfl, closes⟩)
        · exact ⟨[], e, rest, rfl, closes⟩
        · cases e with
          | ident n => exact ⟨n :: names, last, after, rfl, closes⟩
          | _ => cases named
      · rintro ⟨names, last, after, same, closes⟩
        cases names with
        | nil =>
            cases same
            exact .inl closes
        | cons n names =>
            cases same
            exact .inr ⟨rfl, names, last, after, rfl, closes⟩

/-- The neighbours that are taken for type arguments. -/
theorem mistaken_iff : mistaken items ↔ ∃ before first names last after,
    items = before ++ first :: (List.map .ident names ++ last :: after) ∧ first.opens ∧
      last.closes := by
  induction items with
  | nil => simp [mistaken]
  | cons e rest ih =>
      rw [mistaken, Bool.or_eq_true, Bool.and_eq_true, ih, closing_iff]
      constructor
      · rintro (⟨opens, names, last, after, rfl, closes⟩ |
          ⟨before, first, names, last, after, rfl, opens, closes⟩)
        · exact ⟨[], e, names, last, after, rfl, opens, closes⟩
        · exact ⟨e :: before, first, names, last, after, rfl, opens, closes⟩
      · rintro ⟨before, first, names, last, after, same, opens, closes⟩
        cases before with
        | nil =>
            cases same
            exact .inl ⟨opens, names, last, after, rfl, closes⟩
        | cons _ before =>
            cases same
            exact .inr ⟨before, first, names, last, after, rfl, opens, closes⟩

end Lists

end Expr

section Typed

variable {Γ : Context}

mutual

/-- Every expression in a typed expression is typed, or it is `null`. -/
theorem HasType.node {e : Expr} {τ : CodeType} :
    HasType Γ e τ → ∀ d ∈ e.nodes, d = .null ∨ ∃ σ, HasType Γ d σ
  | .literal l => List.forall_mem_singleton.mpr (.inr ⟨_, .literal l⟩)
  | .ident known => List.forall_mem_singleton.mpr (.inr ⟨_, .ident known⟩)
  | .cast numeric operand =>
      List.forall_mem_cons.mpr ⟨.inr ⟨_, .cast numeric operand⟩, operand.node⟩
  | .negate numeric operand =>
      List.forall_mem_cons.mpr ⟨.inr ⟨_, .negate numeric operand⟩, operand.node⟩
  | .not operand => List.forall_mem_cons.mpr ⟨.inr ⟨_, .not operand⟩, operand.node⟩
  | .add addable left right => List.forall_mem_cons.mpr ⟨.inr ⟨_, .add addable left right⟩,
      List.forall_mem_append.mpr ⟨left.node, right.node⟩⟩
  | .arithmetic numeric left right =>
      List.forall_mem_cons.mpr ⟨.inr ⟨_, .arithmetic numeric left right⟩,
        List.forall_mem_append.mpr ⟨left.node, right.node⟩⟩
  | .comparison compares numeric numeric' left right =>
      List.forall_mem_cons.mpr ⟨.inr ⟨_, .comparison compares numeric numeric' left right⟩,
        List.forall_mem_append.mpr ⟨left.node, right.node⟩⟩
  | .conditional tested yes no =>
      List.forall_mem_cons.mpr ⟨.inr ⟨_, .conditional tested yes no⟩, List.forall_mem_append.mpr
        ⟨List.forall_mem_append.mpr ⟨tested.node, yes.node⟩, no.node⟩⟩
  | .call t known accepted =>
      List.forall_mem_cons.mpr ⟨.inr ⟨_, .call t known accepted⟩, accepted.node⟩
  | .array accepted => List.forall_mem_cons.mpr ⟨.inr ⟨_, .array accepted⟩, accepted.node⟩
  | .lambda value => List.forall_mem_cons.mpr ⟨.inr ⟨_, .lambda value⟩, value.node⟩

theorem Passes.node {e : Expr} {τ : CodeType} :
    Passes Γ e τ → ∀ d ∈ e.nodes, d = .null ∨ ∃ σ, HasType Γ d σ
  | .exact typed => typed.node
  | .boxed typed => typed.node
  | .null => List.forall_mem_singleton.mpr (.inl rfl)

theorem Accepted.node {items : List Expr} {τs : List CodeType} :
    Accepted Γ items τs → ∀ d ∈ Expr.nodesOf items, d = .null ∨ ∃ σ, HasType Γ d σ
  | .nil => nofun
  | .cons first others => List.forall_mem_append.mpr ⟨first.node, others.node⟩

end

/-- A value of the type can be written as a comparison, or put off until it is asked for. -/
def CodeType.mayCompare : CodeType → Bool
  | .value .boolean | .object | .delayed _ => true
  | _ => false

/-- A value of the type can be written as an identifier or a comparison. -/
def CodeType.mayBeNamed : CodeType → Bool
  | .value _ | .object => true
  | _ => false

/-- Somewhere in the list a type of comparisons stands in front of a type of values. -/
def adjoins : List CodeType → Bool
  | σ :: τ :: rest => σ.mayCompare && τ.mayBeNamed || adjoins (τ :: rest)
  | _ => false

variable {e : Expr} {τ : CodeType} {args : List Expr} {τs : List CodeType}

theorem Passes.mayCompare (h : Passes Γ e τ) (opens : e.opens) : τ.mayCompare := by
  cases h with
  | exact typed =>
      cases typed with
      | comparison => rfl
      | lambda => rfl
      | arithmetic numeric =>
          rw [Expr.opens_binary] at opens
          simp_all
      | _ => cases opens
  | boxed | null => rfl

theorem Passes.mayBeNamed (h : Passes Γ e τ) (named : e.closes ∨ e.isIdent) : τ.mayBeNamed := by
  cases h with
  | exact typed =>
      cases typed with
      | comparison | ident => rfl
      | arithmetic | add => rfl
      | _ => simp [Expr.closes, Expr.isIdent] at named
  | boxed | null => rfl

theorem adjoins_cons (h : adjoins τs) : adjoins (τ :: τs) := by
  cases τs with
  | nil => cases h
  | cons next rest => rw [adjoins, h, Bool.or_true]

theorem adjoins_of_mistaken (accepted : Accepted Γ args τs) (mistaken : Expr.mistaken args) :
    adjoins τs := by
  induction args generalizing τs with
  | nil => cases mistaken
  | cons e rest ih =>
      cases accepted with
      | cons first others =>
          rw [Expr.mistaken, Bool.or_eq_true, Bool.and_eq_true] at mistaken
          rcases mistaken with ⟨opens, closing⟩ | later
          · cases others with
            | nil => cases closing
            | cons second _ =>
                rw [Expr.closing, Bool.or_eq_true, Bool.and_eq_true] at closing
                rw [adjoins, first.mayCompare opens, second.mayBeNamed (closing.imp_right And.left)]
                rfl
          · exact adjoins_cons (ih others later)

/-- Two further arguments of a type tell as much as any number of them. -/
theorem adjoins_replicate {n : Nat} (h : adjoins (τs ++ List.replicate n τ)) :
    adjoins (τs ++ [τ, τ]) := by
  induction τs with
  | nil =>
      induction n with
      | zero => cases h
      | succ n ih =>
          cases n with
          | zero => cases h
          | succ n =>
              rw [List.nil_append, List.replicate_succ, List.replicate_succ, adjoins,
                Bool.or_eq_true] at h
              rcases h with here | later
              · rw [List.nil_append, adjoins, here]
                rfl
              · exact ih later
  | cons σ τs ih =>
      cases τs with
      | nil =>
          cases n with
          | zero => cases h
          | succ n =>
              rw [List.singleton_append, List.replicate_succ, adjoins, Bool.or_eq_true] at h
              rcases h with here | later
              · rw [List.singleton_append, adjoins, here]
                rfl
              · exact adjoins_cons (ih later)
      | cons next rest =>
          rw [List.cons_append, List.cons_append, adjoins, Bool.or_eq_true] at h
          rcases h with here | later
          · rw [List.cons_append, List.cons_append, adjoins, here]
            rfl
          · exact adjoins_cons (ih later)

theorem adjoins_expected {s : Signature} {t : ValueType} {count : Nat}
    (h : adjoins (s.expected t count)) : adjoins (s.expected t (s.parameters.length + 2)) := by
  cases gathers : s.others with
  | none => simpa [Signature.expected, gathers] using h
  | some p =>
      simp only [Signature.expected, gathers, Option.toList_some, List.flatMap_singleton,
        List.map_append, List.map_replicate, Nat.add_sub_cancel_left] at h ⊢
      exact adjoins_replicate h

/-- The functions that take values to be compared, or the results of comparisons, side by side. -/
def comparing : List String :=
  ["And", "Or", "Compare"]

theorem mem_comparing_of_adjoins {p : String × Signature} (known : p ∈ callable) {t : ValueType}
    (h : adjoins (p.2.expected t (p.2.parameters.length + 2))) :
    ∃ helper ∈ comparing, p.1 = supportName helper := by
  have listed : ∀ t ∈ [ValueType.integer, .number, .text, .boolean], ∀ p ∈ callable,
      adjoins (p.2.expected t (p.2.parameters.length + 2)) →
        ∃ helper ∈ comparing, p.1 = supportName helper := by
    decide +kernel
  exact listed t (by cases t <;> decide) p known h

/-- Only arguments of three functions can read as type arguments. -/
theorem HasType.mem_comparing {target : String} (h : HasType Γ (.call target args) τ)
    (mistaken : Expr.mistaken args) : ∃ helper ∈ comparing, target = supportName helper := by
  cases h with
  | call t known accepted =>
      exact mem_comparing_of_adjoins known
        (adjoins_expected (adjoins_of_mistaken accepted mistaken))

theorem isName_of_mem_callable : ∀ p ∈ callable, IsName p.1 := by
  decide +kernel

/-- All but its identifiers is spelled in typed code. -/
theorem HasType.spelled (h : HasType Γ e τ) (other : ∀ n, e ≠ .ident n) : e.Spelled := by
  cases h with
  | ident => exact absurd rfl (other _)
  | negate => exact .inl rfl
  | not => exact .inr rfl
  | add => exact nofun
  | arithmetic numeric =>
      rintro text rfl
      simp at numeric
  | comparison compares =>
      rintro text rfl
      simp at compares
  | call _ known => exact isName_of_mem_callable _ known
  | literal | cast | conditional | array | lambda => trivial

end Typed

section Renaming

variable {names : String → Option String} {e e' : Expr} {items items' : List Expr}

mutual

/-- An expression in the new one is an expression in the old one under new names. -/
theorem Renamed.nodes {e e' : Expr} : Renamed names e e' →
    List.Forall₂ (Renamed names) e.nodes e'.nodes
  | .literal l => .cons (.literal l) .nil
  | .null => .cons .null .nil
  | .ident found => .cons (.ident found) .nil
  | .cast type operand => .cons (.cast type operand) operand.nodes
  | .unary op operand => .cons (.unary op operand) operand.nodes
  | .binary op left right =>
      .cons (.binary op left right) (List.rel_append left.nodes right.nodes)
  | .conditional test yes no => .cons (.conditional test yes no)
      (List.rel_append (List.rel_append test.nodes yes.nodes) no.nodes)
  | .call target each => .cons (.call target each) each.nodes
  | .array element each => .cons (.array element each) each.nodes
  | .lambda body => .cons (.lambda body) body.nodes

theorem RenamedAll.nodes {items items' : List Expr} : RenamedAll names items items' →
    List.Forall₂ (Renamed names) (Expr.nodesOf items) (Expr.nodesOf items')
  | .nil => .nil
  | .cons first others => List.rel_append first.nodes others.nodes

end

theorem Renamed.isIdent (h : Renamed names e e') : e'.isIdent = e.isIdent := by
  cases h <;> rfl

theorem Renamed.needsParens (h : Renamed names e e') : e'.needsParens = e.needsParens := by
  cases h <;> rfl

theorem Renamed.needsParensBehindSign (h : Renamed names e e') :
    e'.needsParensBehindSign = e.needsParensBehindSign := by
  cases h <;> rfl

theorem Renamed.operandInParens (h : Renamed names e e') :
    e'.operandInParens = e.operandInParens := by
  cases h <;> rfl

theorem Renamed.endsInName {e e' : Expr} : Renamed names e e' → e'.endsInName = e.endsInName
  | .literal _ | .null | .ident _ | .call .. | .array .. => rfl
  | .cast _ operand | .binary _ _ operand | .conditional _ _ operand => by
      simp only [Expr.endsInName, operand.needsParens, operand.endsInName]
  | .unary _ operand => by
      simp only [Expr.endsInName, operand.needsParensBehindSign, operand.endsInName]
  | .lambda body => body.endsInName

theorem Renamed.opens {e e' : Expr} : Renamed names e e' → e'.opens = e.opens
  | .binary _ left right => by
      simp only [Expr.opens_binary, Expr.operandEndsInName, left.needsParens, left.endsInName,
        right.isIdent]
  | .lambda body => body.opens
  | .literal _ | .null | .ident _ | .cast .. | .unary .. | .conditional .. | .call .. | .array .. =>
      rfl

theorem Renamed.closes (h : Renamed names e e') : e'.closes = e.closes := by
  cases h with
  | binary _ left right => simp only [Expr.closes_binary, left.isIdent, right.operandInParens]
  | _ => rfl

theorem RenamedAll.closing {items items' : List Expr} : RenamedAll names items items' →
    Expr.closing items' = Expr.closing items
  | .nil => rfl
  | .cons first others => by
      rw [Expr.closing, Expr.closing, first.closes, first.isIdent, others.closing]

theorem RenamedAll.mistaken {items items' : List Expr} : RenamedAll names items items' →
    Expr.mistaken items' = Expr.mistaken items
  | .nil => rfl
  | .cons first others => by
      rw [Expr.mistaken, Expr.mistaken, first.opens, others.closing, others.mistaken]

theorem Renamed.mistakes (h : Renamed names e e') : e'.mistakes = e.mistakes := by
  cases h with
  | call _ each | array _ each => exact each.mistaken
  | _ => rfl

/-- New names do not change what is misread. -/
theorem Renamed.misread (h : Renamed names e e') : e'.misread = e.misread := by
  have pairs := h.nodes
  rw [Expr.misread, Expr.misread]
  generalize e.nodes = old at pairs ⊢
  generalize e'.nodes = new at pairs ⊢
  induction pairs with
  | nil => rfl
  | cons first _ ih => rw [List.any_cons, List.any_cons, first.mistakes, ih]

/-- Under names that can be read, what was spelled up to its identifiers is spelled. -/
theorem Renamed.spelled (h : Renamed names e e') (readable : ∀ raw n, names raw = some n → IsName n)
    (spelled : (∀ n, e ≠ .ident n) → e.Spelled) : e'.Spelled := by
  cases h with
  | ident found => exact readable _ _ found
  | unary | binary | call => exact spelled nofun
  | literal | null | cast | conditional | array | lambda => trivial

end Renaming

section Written

variable {Γ : Context} {e e' : Expr} {τ : CodeType} {names : String → Option String}

theorem HasType.tokens?_render_rename (typed : HasType Γ e τ) (renamed : e.rename names = .ok e')
    (readable : ∀ raw n, names raw = some n → IsName n) :
    tokens? e'.render.toList = some e'.tokens := by
  refine e'.tokens?_render fun d' member => ?_
  obtain ⟨d, inside, renamed⟩ := exists_left_of_forall₂ (renamed_of_rename e renamed).nodes member
  refine renamed.spelled readable fun other => ?_
  rcases typed.node d inside with rfl | ⟨σ, typed⟩
  · trivial
  · exact typed.spelled other

/-- Typed code whose arrays are not misread is misread only in the arguments of three functions. -/
theorem HasType.misread_iff (typed : HasType Γ e τ)
    (plain : ∀ element items, .array element items ∈ e.nodes → Expr.mistaken items = false) :
    e.misread ↔ ∃ helper ∈ comparing, ∃ before first between last after,
      .support helper (before ++ first :: (List.map .ident between ++ last :: after)) ∈ e.nodes ∧
        first.opens ∧ last.closes := by
  rw [Expr.misread, List.any_eq_true]
  constructor
  · rintro ⟨d, inside, mistakes⟩
    cases d with
    | call target args =>
        obtain nothing | ⟨σ, typed⟩ := typed.node _ inside
        · cases nothing
        · obtain ⟨helper, listed, rfl⟩ := typed.mem_comparing mistakes
          obtain ⟨before, first, between, last, after, rfl, looks⟩ := Expr.mistaken_iff.mp mistakes
          exact ⟨helper, listed, before, first, between, last, after, inside, looks⟩
    | array element items => cases mistakes.symm.trans (plain element items inside)
    | _ => cases mistakes
  · rintro ⟨helper, -, before, first, between, last, after, inside, looks⟩
    exact ⟨_, inside, Expr.mistaken_iff.mpr ⟨before, first, between, last, after, rfl, looks⟩⟩

end Written

end SheetCompiler.Code
