import SheetCompiler.Proofs.Lowering.Computes
import SheetCompiler.Proofs.Lowering.Failure
import SheetCompiler.Proofs.Lowering.Positions

/-!
# Lowering with and without inlined values

A workbook is lowered twice, once with references to value cells as identifiers and once with their
literals in place. The two runs go through the same formulas side by side. They agree in everything
that a type decides, since the type of a reference is the same either way, and code that reads no
cell is the same code in both. So inlining changes the code of statements and nothing else about
them; only a divisor that is known by now can be found to be zero.
-/

namespace SheetCompiler.Lowering

open Code (ValueType)
open Formula (Function)

/-- How a computation with inlined values ends beside the same computation without them: with a
related result, with the same error, or with a division by zero. -/
inductive Follows {α β : Type} (R : α → β → Prop) :
    Except CompileError α → Except CompileError β → Prop
  | ok {a : α} {b : β} (related : R a b) : Follows R (.ok a) (.ok b)
  | error (e : CompileError) : Follows R (.error e) (.error e)
  | zero (plain : Except CompileError α) (cell : Address) :
      Follows R plain (.error (.divisionByZero cell))

namespace Follows

variable {α β γ δ : Type} {R : α → β → Prop} {S : γ → δ → Prop}
variable {x : Except CompileError α} {y : Except CompileError β}

theorem bind {f : α → Except CompileError γ} {g : β → Except CompileError δ} (h : Follows R x y)
    (next : ∀ a b, R a b → Follows S (f a) (g b)) : Follows S (x >>= f) (y >>= g) := by
  cases h with
  | ok related => exact next _ _ related
  | error e => exact .error e
  | zero plain cell => exact .zero _ cell

theorem map {f : α → γ} {g : β → δ} (h : Follows R x y) (next : ∀ a b, R a b → S (f a) (g b)) :
    Follows S (x.map f) (y.map g) := by
  cases h with
  | ok related => exact .ok (next _ _ related)
  | error e => exact .error e
  | zero plain cell => exact .zero _ cell

theorem mapM {f : α → Except CompileError γ} {g : β → Except CompileError δ} {l : List α}
    {l' : List β} (h : List.Forall₂ R l l') (next : ∀ a b, R a b → Follows S (f a) (g b)) :
    Follows (List.Forall₂ S) (l.mapM f) (l'.mapM g) := by
  induction h with
  | nil => exact .ok .nil
  | cons head _ ih =>
      rw [List.mapM_cons, List.mapM_cons]
      refine (next _ _ head).bind fun c d first => ?_
      exact ih.bind fun cs ds rest => .ok (.cons first rest)

end Follows

section Code

open Code.Expr (occurrencesOf)

/-- What stands for an expression when values are inlined: the same expression if it reads no
cell. -/
def Keeps (e e' : Code.Expr) : Prop :=
  e.occurrences = [] → e' = e

variable {e e' l l' r r' : Code.Expr} {items items' : List Code.Expr}

theorem keeps_refl (e : Code.Expr) : Keeps e e :=
  fun _ => rfl

theorem Keeps.unary (h : Keeps e e') (op : Code.UnaryOp) : Keeps (.unary op e) (.unary op e') :=
  fun closed => congrArg _ (h closed)

theorem Keeps.lambda (h : Keeps e e') : Keeps (.lambda e) (.lambda e') :=
  fun closed => congrArg _ (h closed)

theorem Keeps.binary (left : Keeps l l') (right : Keeps r r') (op : Code.BinaryOp) :
    Keeps (.binary op l r) (.binary op l' r') := by
  intro closed
  obtain ⟨first, second⟩ := List.append_eq_nil_iff.mp closed
  rw [left first, right second]

theorem Keeps.conditional (test : Keeps e e') (yes : Keeps l l') (no : Keeps r r') :
    Keeps (.conditional e l r) (.conditional e' l' r') := by
  intro closed
  obtain ⟨front, third⟩ := List.append_eq_nil_iff.mp closed
  obtain ⟨first, second⟩ := List.append_eq_nil_iff.mp front
  rw [test first, yes second, no third]

theorem eq_of_forall₂_keeps (h : List.Forall₂ Keeps items items')
    (closed : occurrencesOf items = []) :
    items' = items := by
  induction h with
  | nil => rfl
  | cons head _ ih =>
      obtain ⟨first, others⟩ := List.append_eq_nil_iff.mp closed
      rw [head first, ih others]

theorem keeps_call (h : List.Forall₂ Keeps items items') (target : String) :
    Keeps (.call target items) (.call target items') :=
  fun closed => congrArg _ (eq_of_forall₂_keeps h closed)

theorem keeps_array (h : List.Forall₂ Keeps items items') (element : Code.ElementType) :
    Keeps (.array element items) (.array element items') :=
  fun closed => congrArg _ (eq_of_forall₂_keeps h closed)

/-- A sum from the left. -/
theorem keeps_foldl_add (first : Keeps e e') (others : List.Forall₂ Keeps items items') :
    Keeps (items.foldl (fun sum part => .binary .add sum part) e)
      (items'.foldl (fun sum part => .binary .add sum part) e') := by
  induction others generalizing e e' with
  | nil => exact first
  | cons head _ ih => exact ih (first.binary head .add)

theorem keeps_joinTexts (h : List.Forall₂ Keeps items items') :
    Keeps (joinTexts items) (joinTexts items') := by
  cases h with
  | nil => exact keeps_refl _
  | cons head others => exact keeps_foldl_add head others

theorem Keeps.fromObject (h : Keeps e e') (type : ValueType) :
    Keeps (fromObject type e) (fromObject type e') := by
  cases type with
  | integer | number | text | boolean => exact keeps_call (.cons h .nil) _

/-- Nothing is read by code that denotes a number by itself. -/
theorem occurrences_of_constant? : (e : Code.Expr) → {d : Float} → e.constant? = some d →
    e.occurrences = []
  | .literal _, _, _ => rfl
  | .unary .negate operand, _, h => by
      obtain ⟨x, constant, -⟩ := Option.map_eq_some_iff.mp h
      exact occurrences_of_constant? operand constant
  | .cast _ operand, _, h =>
      occurrences_of_constant? operand (by simpa [Code.Expr.constant?] using h)
  | .null, _, h | .ident _, _, h | .unary .not _, _, h | .unary (.other _) _, _, h
  | .binary .., _, h
  | .conditional .., _, h | .call .., _, h | .array .., _, h | .lambda _, _, h => nomatch h

/-- Only a constant over a constant is found to be divided by zero. -/
theorem division_cases_of_open (cell : Address) (reads : l.occurrences ++ r.occurrences ≠ []) :
    ∃ e, division cell l r = .ok e ∧ e.occurrences = l.occurrences ++ r.occurrences := by
  have twoOperands (helper : String) :
      (Code.Expr.support helper [l, r]).occurrences = l.occurrences ++ r.occurrences := by
    simp [Code.Expr.support, Code.Expr.occurrences, occurrencesOf]
  cases outcome : division cell l r with
  | error err =>
      obtain ⟨-, first, d, second, -⟩ := division_eq_error_iff.mp outcome
      obtain ⟨x, first⟩ := Option.isSome_iff_exists.mp first
      rw [occurrences_of_constant? l first, occurrences_of_constant? r second] at reads
      exact absurd rfl reads
  | ok e =>
      refine ⟨e, rfl, ?_⟩
      obtain rfl | ⟨d, -, -, rfl⟩ := division_cases outcome
      · exact twoOperands "Divide"
      · rfl

theorem follows_division {cell : Address} (left : Keeps l l') (right : Keeps r r') :
    Follows Keeps (division cell l r) (division cell l' r') := by
  by_cases closed : l.occurrences ++ r.occurrences = []
  · obtain ⟨first, second⟩ := List.append_eq_nil_iff.mp closed
    rw [left first, right second]
    cases division cell l r with
    | ok e => exact .ok (keeps_refl e)
    | error e => exact .error e
  · obtain ⟨e, divided, reads⟩ := division_cases_of_open cell closed
    rw [divided]
    cases outcome : division cell l' r' with
    | ok e' => exact .ok fun none => absurd (reads ▸ none) closed
    | error err =>
        obtain ⟨rfl, -⟩ := division_eq_error_iff.mp outcome
        exact .zero _ cell

end Code

/-- What typed code is when values are inlined: it has the same type, and is the same if it reads no
cell. -/
structure Inlined (t u : Typed) : Prop where
  type : u.type = t.type
  code : Keeps t.expr u.expr

section Typed

variable {t u l l' r r' : Typed}

theorem inlined_refl (t : Typed) : Inlined t t :=
  ⟨rfl, keeps_refl _⟩

theorem occurrences_toNumber (t : Typed) : t.toNumber.occurrences = t.expr.occurrences := by
  obtain ⟨e, type⟩ := t
  unfold Typed.toNumber
  dsimp only
  split
  case h_4 => split <;> rfl
  case h_1 | h_2 | h_3 | h_5 => rfl
  case h_6 => exact List.append_nil _

theorem occurrences_toText (t : Typed) : t.toText.occurrences = t.expr.occurrences := by
  obtain ⟨e, type⟩ := t
  unfold Typed.toText
  dsimp only
  split
  case h_1 | h_2 | h_3 | h_4 => rfl
  case h_5 => exact List.append_nil _

theorem occurrences_toBoolean (t : Typed) : t.toBoolean.occurrences = t.expr.occurrences := by
  obtain ⟨e, type⟩ := t
  unfold Typed.toBoolean
  dsimp only
  split
  case h_4 => split <;> rfl
  case h_1 | h_2 | h_3 => rfl
  case h_5 => exact List.append_nil _

theorem occurrences_convert (t : Typed) (target : ValueType) :
    (t.convert target).occurrences = t.expr.occurrences := by
  unfold Typed.convert
  split
  case isTrue => rfl
  case isFalse =>
    cases target with
    | number | integer => exact occurrences_toNumber t
    | text => exact occurrences_toText t
    | boolean => exact occurrences_toBoolean t

namespace Inlined

/-- Code that reads no cell is not changed. -/
theorem eq (h : Inlined t u) (closed : t.expr.occurrences = []) : u = t := by
  obtain ⟨e, type⟩ := t
  obtain ⟨e', type'⟩ := u
  obtain ⟨rfl, code⟩ := h
  rw [show e' = e from code closed]

/-- Whatever is made of typed code without dropping what it reads. -/
theorem keeps (h : Inlined t u) {f : Typed → Code.Expr}
    (reads : ∀ t, (f t).occurrences = t.expr.occurrences) : Keeps (f t) (f u) := by
  intro closed
  rw [h.eq ((reads t).symm.trans closed)]

theorem toNumber (h : Inlined t u) : Keeps t.toNumber u.toNumber :=
  h.keeps occurrences_toNumber

theorem toText (h : Inlined t u) : Keeps t.toText u.toText :=
  h.keeps occurrences_toText

theorem toBoolean (h : Inlined t u) : Keeps t.toBoolean u.toBoolean :=
  h.keeps occurrences_toBoolean

theorem convert (h : Inlined t u) (target : ValueType) :
    Keeps (t.convert target) (u.convert target) :=
  h.keeps fun t => occurrences_convert t target

theorem unary (h : Inlined t u) (op : Formula.UnaryOp) : Inlined (unary op t) (unary op u) := by
  cases op with
  | plus => exact h
  | neg =>
      rw [Lowering.unary, Lowering.unary, h.type]
      split
      case isTrue => exact ⟨rfl, h.code.unary .negate⟩
      case isFalse => exact ⟨rfl, h.toNumber.unary .negate⟩
  | percent => exact ⟨rfl, h.toNumber.binary (keeps_refl _) .div⟩

theorem comparison (left : Inlined l l') (right : Inlined r r') (op : Formula.BinaryOp) :
    Inlined (comparison op l r) (comparison op l' r') := by
  rw [Lowering.comparison, Lowering.comparison, left.type, right.type]
  split
  case isTrue => exact ⟨rfl, left.code.binary right.code _⟩
  case isFalse =>
    have compared :=
      keeps_call (.cons left.code (.cons right.code .nil)) (Code.supportName "Compare")
    exact ⟨rfl, compared.binary (keeps_refl _) _⟩

theorem binary (left : Inlined l l') (right : Inlined r r') (cell : Address)
    (op : Formula.BinaryOp) :
    Follows Inlined (binary cell op l r) (binary cell op l' r') := by
  cases op with
  | concat => exact .ok ⟨rfl, left.toText.binary right.toText .add⟩
  | add | sub | mul => exact .ok ⟨rfl, left.toNumber.binary right.toNumber _⟩
  | div => exact (follows_division left.toNumber right.toNumber).map fun e e' kept => ⟨rfl, kept⟩
  | pow => exact .ok ⟨rfl, keeps_call (.cons left.toNumber (.cons right.toNumber .nil)) _⟩
  | eq | ne | lt | le | gt | ge => exact .ok (left.comparison right _)

theorem conditional (test : Inlined t u) (yes : Inlined l l') (no : Inlined r r') :
    Inlined (conditional t l r) (conditional u l' r') := by
  rw [Lowering.conditional, Lowering.conditional, yes.type, no.type]
  exact ⟨rfl, test.toBoolean.conditional (yes.convert _) (no.convert _)⟩

end Inlined

theorem types_of_forall₂ {ts us : List Typed} (h : List.Forall₂ Inlined ts us) :
    us.map Typed.type = ts.map Typed.type := by
  induction h with
  | nil => rfl
  | cons head _ ih => rw [List.map_cons, List.map_cons, head.type, ih]

end Typed

section Items

/-- Items of the same origin. -/
inductive ItemInlined : Item → Item → Prop
  | fromRange {t u : Typed} (h : Inlined t u) : ItemInlined (.fromRange t) (.fromRange u)
  | direct {t u : Typed} (h : Inlined t u) : ItemInlined (.direct t) (.direct u)

variable {i j : Item} {its its' : List Item}

theorem ItemInlined.number? (h : ItemInlined i j) : Option.Rel Keeps i.number? j.number? := by
  cases h with
  | fromRange h =>
      rw [Item.number?, Item.number?, h.type]
      split
      case isTrue => exact .some h.toNumber
      case isFalse => exact .none
  | direct h => exact .some h.toNumber

theorem ItemInlined.boolean? (h : ItemInlined i j) : Option.Rel Keeps i.boolean? j.boolean? := by
  cases h with
  | fromRange h =>
      rw [Item.boolean?, Item.boolean?, h.type]
      split
      case isTrue => exact .some h.toBoolean
      case isFalse => exact .none
  | direct h => exact .some h.toBoolean

theorem ItemInlined.countCheck? (h : ItemInlined i j) :
    Option.Rel Keeps i.countCheck? j.countCheck? := by
  cases h with
  | fromRange h => exact .none
  | direct h =>
      rw [Item.countCheck?, Item.countCheck?, h.type]
      split
      case isTrue => exact .some (keeps_call (.cons h.code .nil) _)
      case isFalse => exact .none

theorem ItemInlined.isCounted (h : ItemInlined i j) : j.isCounted = i.isCounted := by
  cases h with
  | fromRange h | direct h => rw [Item.isCounted, Item.isCounted, h.type]

theorem countP_isCounted (h : List.Forall₂ ItemInlined its its') :
    its'.countP Item.isCounted = its.countP Item.isCounted := by
  induction h with
  | nil => rfl
  | cons head _ ih => rw [List.countP_cons, List.countP_cons, head.isCounted, ih]

theorem inlined_count (h : List.Forall₂ ItemInlined its its') :
    Inlined (count its) (count its') := by
  have checks := List.rel_filterMap (fun _ _ related => ItemInlined.countCheck? related) h
  refine ⟨rfl, ?_⟩
  rw [count, count, countP_isCounted h]
  exact keeps_foldl_add (keeps_refl _) checks

end Items

section Blocks

/-- Blocks of the same shape. -/
structure BlockInlined (b b' : Block) : Prop where
  width : b'.width = b.width
  cells : List.Forall₂ (Option.Rel Inlined) b.cells b'.cells

variable {b b' : Block}

theorem forall₂_mapIdx {α β γ δ : Type} {R : α → β → Prop} {S : γ → δ → Prop} {l : List α}
    {l' : List β} (h : List.Forall₂ R l l') {f : Nat → α → γ} {g : Nat → β → δ}
    (next : ∀ i a b, R a b → S (f i a) (g i b)) : List.Forall₂ S (l.mapIdx f) (l'.mapIdx g) := by
  induction h generalizing f g with
  | nil => exact .nil
  | cons head _ ih =>
      rw [List.mapIdx_cons, List.mapIdx_cons]
      exact .cons (next 0 _ _ head) (ih fun i a b related => next (i + 1) a b related)

/-- The common type of a block is decided by the types of its cells. -/
theorem BlockInlined.elementType (h : BlockInlined b b') (skip : Nat) :
    b'.elementType skip = b.elementType skip := by
  simp only [Block.elementType, h.width]
  generalize (if b.width ≤ skip then 0 else skip) = column
  refine congrArg ValueType.unifyAll (types_of_forall₂ ?_)
  refine List.rel_filterMap (fun _ _ related => related) (forall₂_mapIdx h.cells ?_)
  intro i c c' related
  rw [id, id]
  split
  case isTrue => exact related
  case isFalse => exact .none

theorem BlockInlined.objects (h : BlockInlined b b') : Keeps b.objects b'.objects := by
  refine keeps_array (List.rel_map (fun c c' related => ?_) h.cells) _
  cases related with
  | none => exact keeps_refl _
  | some related => exact related.code

theorem BlockInlined.typed (h : BlockInlined b b') (type : ValueType) :
    Keeps (b.typed type) (b'.typed type) := by
  refine keeps_array (List.rel_map (fun c c' related => ?_) h.cells) _
  cases related with
  | none => exact keeps_refl _
  | some related => exact related.convert type

theorem BlockInlined.widthLiteral (h : BlockInlined b b') : b'.widthLiteral = b.widthLiteral := by
  rw [Block.widthLiteral, Block.widthLiteral, h.width]

end Blocks

section References

variable {w : Workbook} {inlineValues : Bool} {types : Types} {cell target : Address}

theorem reference_of_literal {l : Literal} (literal : w.literal? target = some l) :
    (Scope.ofWorkbook w inlineValues).reference types cell target =
      .ok (if inlineValues then .literal l
        else ⟨(Scope.ofWorkbook w inlineValues).identifier target, .ofLiteral l⟩) := by
  have found : (Scope.ofWorkbook w inlineValues).workbook.literal? target = some l := literal
  rw [Scope.reference, found]
  rfl

theorem reference_of_get? {type : ValueType} (literal : w.literal? target = none)
    (known : types.get? target = some type) :
    (Scope.ofWorkbook w inlineValues).reference types cell target =
      .ok ⟨(Scope.ofWorkbook w inlineValues).identifier target, type⟩ := by
  simp only [Scope.reference, Scope.ofWorkbook, literal, known]

theorem reference_of_unknown {c : Cell} (literal : w.literal? target = none)
    (unknown : types.get? target = none) (present : w.cell? target = some c) :
    (Scope.ofWorkbook w inlineValues).reference types cell target =
      .error (.invalidArguments cell (.notComputed target)) := by
  simp only [Scope.reference, Scope.ofWorkbook, literal, unknown, present, Option.isSome_some,
    if_true]

theorem reference_of_missing (unknown : types.get? target = none)
    (missing : w.cell? target = none) :
    (Scope.ofWorkbook w inlineValues).reference types cell target =
      .ok (if inlineValues then .literal (.integer 0)
        else ⟨(Scope.ofWorkbook w inlineValues).identifier target, .integer⟩) := by
  have literal : w.literal? target = none := by rw [Workbook.literal?, missing, Option.bind_none]
  cases inlineValues with
  | true | false => simp [Scope.reference, Scope.ofWorkbook, literal, unknown, missing]

end References

section Calls

variable {w : Workbook} {types : Types} {cell : Address} {arg arg' : Argument}
variable {args args' : List Argument}

theorem follows_reference (w : Workbook) (types : Types) (cell target : Address) :
    Follows Inlined ((Scope.ofWorkbook w false).reference types cell target)
      ((Scope.ofWorkbook w true).reference types cell target) := by
  have identifier {type : ValueType} {u : Typed} (same : u.type = type) :
      Inlined ⟨(Scope.ofWorkbook w false).identifier target, type⟩ u :=
    ⟨same, fun closed => nomatch closed⟩
  cases literal : w.literal? target with
  | some l =>
      rw [reference_of_literal (w := w) literal, reference_of_literal (w := w) literal]
      exact .ok (identifier rfl)
  | none =>
      cases known : types.get? target with
      | some type =>
          rw [reference_of_get? (w := w) literal known, reference_of_get? (w := w) literal known]
          exact .ok (identifier rfl)
      | none =>
          cases present : w.cell? target with
          | some c =>
              rw [reference_of_unknown literal known present,
                reference_of_unknown literal known present]
              exact .error _
          | none =>
              rw [reference_of_missing known present, reference_of_missing known present]
              exact .ok (identifier rfl)

theorem follows_rectangle (w : Workbook) (types : Types) (cell first last : Address) :
    Follows (List.Forall₂ (Option.Rel Inlined))
      ((Scope.ofWorkbook w false).rectangle types cell first last)
      ((Scope.ofWorkbook w true).rectangle types cell first last) := by
  refine Follows.mapM (List.forall₂_same.mpr fun target _ => rfl) fun target target' same => ?_
  subst same
  change Follows _ (if (w.cell? target).isSome then _ else _)
    (if (w.cell? target).isSome then _ else _)
  split
  case isTrue => exact (follows_reference w types cell target).map fun t u related => .some related
  case isFalse => exact .ok .none

/-- The same argument, lowered in both ways. -/
structure ArgumentFollows (arg arg' : Argument) : Prop where
  expr : arg'.expr = arg.expr
  typed : Follows Inlined arg.typed arg'.typed

theorem ArgumentFollows.itemsOf (h : ArgumentFollows arg arg') :
    Follows (List.Forall₂ ItemInlined) (itemsOf (Scope.ofWorkbook w false) types cell arg)
      (itemsOf (Scope.ofWorkbook w true) types cell arg') := by
  obtain ⟨expr, typed⟩ := arg
  obtain ⟨expr', typed'⟩ := arg'
  obtain ⟨rfl, related⟩ : expr' = expr ∧ Follows Inlined typed typed' := ⟨h.expr, h.typed⟩
  cases expr' with
  | range first last =>
      refine (follows_rectangle w types cell first last).bind fun cells cells' each => .ok ?_
      refine List.rel_filterMap (fun c c' same => ?_) each
      cases same with
      | none => exact .none
      | some same => exact .some (.fromRange same)
  | literal | cell | binary | unary | call =>
      exact related.bind fun t u same => .ok (.cons (.direct same) .nil)

theorem follows_items (h : List.Forall₂ ArgumentFollows args args') :
    Follows (List.Forall₂ ItemInlined) (items (Scope.ofWorkbook w false) types cell args)
      (items (Scope.ofWorkbook w true) types cell args') :=
  (Follows.mapM h fun _ _ related => related.itemsOf).bind fun _ _ each =>
    .ok (List.rel_flatten each)

theorem ArgumentFollows.block (h : ArgumentFollows arg arg') :
    Follows BlockInlined (block (Scope.ofWorkbook w false) types cell arg)
      (block (Scope.ofWorkbook w true) types cell arg') := by
  rw [Lowering.block, Lowering.block, h.expr]
  cases arg.expr.corners? with
  | none => exact .error _
  | some corners =>
      exact (follows_rectangle w types cell _ _).bind fun cells cells' each => .ok ⟨rfl, each⟩

theorem follows_optional (h : List.Forall₂ ArgumentFollows args args') (absent : Literal)
    {f : Typed → Code.Expr} (kept : ∀ t u, Inlined t u → Keeps (f t) (f u)) :
    Follows Keeps (optional args.head? absent f) (optional args'.head? absent f) := by
  cases h with
  | nil => exact .ok (keeps_refl _)
  | cons head _ => exact head.typed.map kept

theorem follows_aggregate (helper : String) (h : List.Forall₂ ArgumentFollows args args') :
    Follows Inlined (aggregate (Scope.ofWorkbook w false) types cell helper args)
      (aggregate (Scope.ofWorkbook w true) types cell helper args') := by
  refine (follows_items h).bind fun its its' each => .ok ⟨rfl, keeps_call ?_ _⟩
  exact List.rel_filterMap (fun _ _ related => ItemInlined.number? related) each

theorem follows_logical (helper : String) (h : List.Forall₂ ArgumentFollows args args') :
    Follows Inlined (logical (Scope.ofWorkbook w false) types cell helper args)
      (logical (Scope.ofWorkbook w true) types cell helper args') := by
  refine (follows_items h).bind fun its its' each => .ok ⟨rfl, keeps_call ?_ _⟩
  exact List.rel_filterMap (fun _ _ related => ItemInlined.boolean? related) each

/-- A call goes the same way as its arguments. -/
theorem follows_call (fault : CompileError) (f : Function)
    (h : List.Forall₂ ArgumentFollows args args') :
    Follows Inlined (call (Scope.ofWorkbook w false) types cell fault f args)
      (call (Scope.ofWorkbook w true) types cell fault f args') := by
  -- The runs have equally many arguments, so a wrong number fails in both, with the same fault.
  cases f with
  | sum | average | min | max | product => exact follows_aggregate _ h
  | and | or => exact follows_logical _ h
  | count => exact (follows_items h).bind fun its its' each => .ok (inlined_count each)
  | npv =>
      rcases h with _ | ⟨rate, payments⟩
      · exact .error _
      · refine rate.typed.bind fun r r' first => ?_
        refine (follows_items payments).bind fun its its' each => .ok ⟨rfl, keeps_call ?_ _⟩
        exact .cons first.toNumber
          (List.rel_filterMap (fun _ _ related => ItemInlined.number? related) each)
  | not =>
      rcases h with _ | ⟨arg, _ | ⟨_, _⟩⟩
      · exact .error _
      · exact arg.typed.bind fun a a' first => .ok ⟨rfl, first.toBoolean.unary .not⟩
      · exact .error _
  | abs | int | sqrt =>
      rcases h with _ | ⟨arg, _ | ⟨_, _⟩⟩
      · exact .error _
      · exact arg.typed.bind fun a a' first => .ok ⟨rfl, keeps_call (.cons first.toNumber .nil) _⟩
      · exact .error _
  | len | upper | lower | trim =>
      rcases h with _ | ⟨arg, _ | ⟨_, _⟩⟩
      · exact .error _
      · exact arg.typed.bind fun a a' first => .ok ⟨rfl, keeps_call (.cons first.toText .nil) _⟩
      · exact .error _
  | power | mod | round | roundUp | roundDown =>
      rcases h with _ | ⟨left, _ | ⟨right, _ | ⟨_, _⟩⟩⟩
      · exact .error _
      · exact .error _
      · refine left.typed.bind fun l l' first => right.typed.bind fun r r' second => .ok ⟨rfl, ?_⟩
        exact keeps_call (.cons first.toNumber (.cons second.toNumber .nil)) _
      · exact .error _
  | ifError =>
      rcases h with _ | ⟨attempt, _ | ⟨otherwise, _ | ⟨_, _⟩⟩⟩
      · exact .error _
      · exact .error _
      · refine attempt.typed.bind fun a a' first => otherwise.typed.bind fun o o' second => .ok ?_
        rw [first.type, second.type]
        exact ⟨rfl, keeps_call
          (.cons (first.convert _).lambda (.cons (second.convert _).lambda .nil)) _⟩
      · exact .error _
  | «if» =>
      rcases h with _ | ⟨test, _ | ⟨yes, _ | ⟨no, _ | ⟨_, _⟩⟩⟩⟩
      · exact .error _
      · exact .error _
      · refine test.typed.bind fun t t' first => yes.typed.bind fun y y' second => .ok ?_
        exact first.conditional second (inlined_refl _)
      · refine test.typed.bind fun t t' first => yes.typed.bind fun y y' second => ?_
        exact no.typed.bind fun n n' third => .ok (first.conditional second third)
      · exact .error _
  | choose =>
      rcases h with _ | ⟨index, options⟩
      · exact .error _
      · refine index.typed.bind fun i i' first => ?_
        refine (Follows.mapM options fun _ _ related => related.typed).bind fun os os' each =>
          .ok ?_
        rw [types_of_forall₂ each]
        refine ⟨rfl, keeps_call (.cons first.toNumber ?_) _⟩
        exact List.rel_map (fun o o' (same : Inlined o o') => (same.convert _).lambda) each
  | concatenate =>
      refine (Follows.mapM h fun _ _ related => ?_).bind fun parts parts' each =>
        .ok ⟨rfl, keeps_joinTexts each⟩
      exact related.typed.map fun t u same => same.toText
  | index =>
      rcases h with _ | ⟨range, _ | ⟨row, column⟩⟩
      · exact .error _
      · exact .error _
      · refine range.block.bind fun b b' same => ?_
        refine (follows_optional column _ fun t u => Inlined.toNumber).bind fun c c' third => ?_
        refine row.typed.bind fun r r' second => .ok ?_
        rw [same.elementType, same.widthLiteral]
        exact ⟨rfl, keeps_call (.cons (same.typed _) (.cons (keeps_refl _)
          (.cons second.toNumber (.cons third .nil)))) _⟩
  | «match» =>
      rcases h with _ | ⟨key, _ | ⟨range, kind⟩⟩
      · exact .error _
      · exact .error _
      · refine key.typed.bind fun k k' first => range.block.bind fun b b' same => ?_
        refine (follows_optional kind _ fun t u => Inlined.toNumber).bind fun c c' third => .ok ?_
        exact ⟨rfl, keeps_call (.cons first.code (.cons same.objects (.cons third .nil))) _⟩
  | vlookup =>
      rcases h with _ | ⟨key, _ | ⟨range, _ | ⟨column, approximate⟩⟩⟩
      · exact .error _
      · exact .error _
      · exact .error _
      · refine key.typed.bind fun k k' first => range.block.bind fun b b' same => ?_
        refine (follows_optional approximate _ fun t u => Inlined.toBoolean).bind
          fun a a' fourth => ?_
        refine column.typed.bind fun c c' third => .ok ?_
        rw [same.elementType, same.widthLiteral]
        exact ⟨rfl, Keeps.fromObject (keeps_call (.cons first.code (.cons same.objects
          (.cons (keeps_refl _) (.cons third.toNumber (.cons fourth .nil))))) _) _⟩

mutual

/-- The two runs go side by side through a formula. -/
theorem follows_lower (w : Workbook) (types : Types) (cell : Address) : (e : Formula.Expr) →
    Follows Inlined (lower (Scope.ofWorkbook w false) types cell e)
      (lower (Scope.ofWorkbook w true) types cell e)
  | .literal l => .ok (inlined_refl _)
  | .cell target => follows_reference w types cell target
  | .range _ _ => .error _
  | .unary op operand =>
      (follows_lower w types cell operand).bind fun t u related => .ok (related.unary op)
  | .binary op left right =>
      (follows_lower w types cell left).bind fun l l' first =>
        (follows_lower w types cell right).bind fun r r' second => first.binary second cell op
  | .call name args => by
      have related := follows_arguments w types cell args
      rw [lower, lower]
      split
      · exact .error _
      · split
        · exact follows_call _ _ related
        · exact .error _

theorem follows_arguments (w : Workbook) (types : Types) (cell : Address) :
    (args : List Formula.Expr) → List.Forall₂ ArgumentFollows
      (arguments (Scope.ofWorkbook w false) types cell args)
      (arguments (Scope.ofWorkbook w true) types cell args)
  | [] => .nil
  | e :: rest => .cons ⟨rfl, follows_lower w types cell e⟩ (follows_arguments w types cell rest)

end

end Calls

section Programs

/-- Statements that differ at most in their code. -/
structure SameInterface (s s' : Statement) : Prop where
  cell : s'.cell = s.cell
  raw : s'.raw = s.raw
  label : s'.label = s.label
  type : s'.type = s.type
  kind : s'.kind = s.kind

/-- Formulas are lowered with the same types in both runs, one after the other. -/
theorem follows_formulas (w : Workbook) (types : Types) (order : List Address) :
    Follows (List.Forall₂ SameInterface) ((Scope.ofWorkbook w false).formulas types order)
      ((Scope.ofWorkbook w true).formulas types order) := by
  induction order generalizing types with
  | nil => exact .ok .nil
  | cons a rest ih =>
      cases found : w.formula? a with
      | none =>
          have skipped (inlineValues : Bool) :
              (Scope.ofWorkbook w inlineValues).formulas types (a :: rest) =
                (Scope.ofWorkbook w inlineValues).formulas types rest :=
            formulas_cons_of_none found rest
          rw [skipped, skipped]
          exact ih types
      | some e =>
          obtain ⟨c, present, expr⟩ := Option.bind_eq_some_iff.mp found
          have listed (inlineValues : Bool) :
              (Scope.ofWorkbook w inlineValues).workbook.cell? a = some c := present
          simp only [Scope.formulas, listed, expr]
          refine (follows_lower w types a e).bind fun t u related => ?_
          rw [related.type]
          refine (ih (types.insert a t.type)).bind fun later later' others => .ok ?_
          exact .cons ⟨rfl, rfl, rfl, rfl, rfl⟩ others

theorem follows_statements (w : Workbook) (order : List Address) :
    Follows (List.Forall₂ SameInterface) (statements w false order) (statements w true order) := by
  refine (follows_formulas w _ order).bind fun later later' others => .ok ?_
  exact List.rel_append (List.forall₂_same.mpr fun s _ => ⟨rfl, rfl, rfl, rfl, rfl⟩) others

end Programs

/-- A workbook that can be lowered with inlined values can be lowered without them, to statements of
the same cells with the same names, labels, types and kinds. If it can only be lowered without them,
a division by zero has been found. -/
theorem statements_inlined (w : Workbook) (order : List Address) :
    (∀ inlined, statements w true order = .ok inlined →
      ∃ plain, statements w false order = .ok plain ∧ List.Forall₂ SameInterface plain inlined) ∧
    ∀ plain e, statements w false order = .ok plain → statements w true order = .error e →
      ∃ cell, e = .divisionByZero cell := by
  have followed := follows_statements w order
  constructor
  · intro inlined lowered
    rw [lowered] at followed
    cases outcome : statements w false order with
    | ok plain =>
        rw [outcome] at followed
        cases followed with
        | ok related => exact ⟨plain, rfl, related⟩
    | error e =>
        rw [outcome] at followed
        cases followed
  · intro plain e lowered failed
    rw [lowered, failed] at followed
    cases followed with
    | zero _ cell => exact ⟨cell, rfl⟩

/-- A quotient by a value cell. -/
def quotientBy (divisor : Literal) : Workbook where
  name := "Quotient"
  sheets := ["S"]
  cells := .ofList [(⟨"S", 0, 0⟩, ⟨.value divisor, none, none⟩),
    (⟨"S", 0, 1⟩, ⟨.formula "1/A1" (.binary .div (.literal (.integer 1)) (.cell ⟨"S", 0, 0⟩)),
      none, none⟩)]

/-- A divisor other than zero can be inlined. If it is zero, the division is found out. -/
theorem quotientBy_inlined :
    (∃ plain inlined, statements (quotientBy (.integer 4)) false [⟨"S", 0, 1⟩] = .ok plain ∧
      statements (quotientBy (.integer 4)) true [⟨"S", 0, 1⟩] = .ok inlined ∧
      List.Forall₂ SameInterface plain inlined) ∧
    ∃ plain e cell, statements (quotientBy (.integer 0)) false [⟨"S", 0, 1⟩] = .ok plain ∧
      statements (quotientBy (.integer 0)) true [⟨"S", 0, 1⟩] = .error e ∧
      e = .divisionByZero cell := by
  have known :
      (statements (quotientBy (.integer 4)) true [⟨"S", 0, 1⟩]).map List.length = .ok 2 := by
    decide +kernel
  have unknown : (statements (quotientBy (.integer 0)) false [⟨"S", 0, 1⟩]).map List.length =
      .ok 2 := by decide +kernel
  have zero : ¬ (statements (quotientBy (.integer 0)) true [⟨"S", 0, 1⟩]).isOk := by decide +kernel
  constructor
  · obtain ⟨inlined, lowered, -⟩ := map_eq_ok.mp known
    obtain ⟨plain, lowered', same⟩ := (statements_inlined _ _).1 inlined lowered
    exact ⟨plain, inlined, lowered', lowered, same⟩
  · obtain ⟨plain, lowered, -⟩ := map_eq_ok.mp unknown
    cases failed : statements (quotientBy (.integer 0)) true [⟨"S", 0, 1⟩] with
    | ok inlined =>
        rw [failed] at zero
        exact absurd rfl zero
    | error e =>
        obtain ⟨cell, same⟩ := (statements_inlined _ _).2 plain e lowered failed
        exact ⟨plain, e, cell, lowered, rfl, same⟩

end SheetCompiler.Lowering
