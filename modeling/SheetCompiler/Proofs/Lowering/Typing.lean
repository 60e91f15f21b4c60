import SheetCompiler.Proofs.Code.Typing
import SheetCompiler.Proofs.Lowering.CallCode
import SheetCompiler.Proofs.Lowering.Computes

/-!
# Lowered formulas are well typed

The type that lowering keeps beside each expression is the type that the expression has. Conversions
are where this is decided: a value is converted to its own type, to a number or to a text, and that
is all that a common type of several values ever asks for. Above the conversions one lemma for each
part of the code suffices, and a call is well typed because each of its shapes is.
-/

namespace SheetCompiler.Lowering

open Code
open Formula (Function)

variable {Γ : Context} {t : Typed}

/-- The expression has the type beside it. -/
def Typed.WellTyped (Γ : Context) (t : Typed) : Prop :=
  HasType Γ t.expr (.value t.type)

theorem Typed.WellTyped.hasType (h : t.WellTyped Γ) {type : ValueType} (same : t.type = type) :
    HasType Γ t.expr (.value type) := by
  subst same
  exact h

section Conversions

theorem offers_toNumber (type : ValueType) : Offers "ToNumber" [.value type] none .number := by
  cases type <;> decide

theorem offers_toText (type : ValueType) : Offers "ToText" [.value type] none .text := by
  cases type <;> decide

theorem offers_toBoolean (type : ValueType) : Offers "ToBool" [.value type] none .boolean := by
  cases type <;> decide

/-- A support function of one argument. -/
theorem hasType_support_one {name : String} {type : ValueType} {result : CodeType} {e : Code.Expr}
    (offers : Offers name [.value type] none result) (typed : HasType Γ e (.value type)) :
    HasType Γ (.support name [e]) (result.instantiate type) :=
  .support offers type (.cons (.exact typed) .nil)

theorem Typed.WellTyped.toNumber (h : t.WellTyped Γ) : HasType Γ t.toNumber .number := by
  obtain ⟨e, type⟩ := t
  change HasType Γ e (.value type) at h
  unfold Typed.toNumber
  dsimp only
  split
  case h_1 => exact h
  case h_2 => exact .literal _
  case h_3 => exact .literal _
  case h_4 s _ =>
    split
    case h_1 => exact .literal _
    case h_2 => exact hasType_support_one (offers_toNumber .text) (.literal (.text s))
  case h_5 => exact .cast rfl h
  case h_6 => exact hasType_support_one (offers_toNumber _) h

theorem Typed.WellTyped.toText (h : t.WellTyped Γ) : HasType Γ t.toText .text := by
  obtain ⟨e, type⟩ := t
  change HasType Γ e (.value type) at h
  unfold Typed.toText
  dsimp only
  split
  case h_1 => exact h
  case h_2 => exact .literal _
  case h_3 => exact .literal _
  case h_4 => exact .literal _
  case h_5 => exact hasType_support_one (offers_toText _) h

theorem Typed.WellTyped.toBoolean (h : t.WellTyped Γ) : HasType Γ t.toBoolean .boolean := by
  obtain ⟨e, type⟩ := t
  change HasType Γ e (.value type) at h
  unfold Typed.toBoolean
  dsimp only
  split
  case h_1 => exact h
  case h_2 => exact .literal _
  case h_3 => exact .literal _
  case h_4 s _ =>
    split
    case h_1 => exact .literal _
    case h_2 => exact hasType_support_one (offers_toBoolean .text) (.literal (.text s))
  case h_5 => exact hasType_support_one (offers_toBoolean _) h

/-- The conversions that a common type asks for. -/
def Widens (source target : ValueType) : Prop :=
  target = source ∨ target = .number ∨ target = .text

theorem Typed.WellTyped.convert (h : t.WellTyped Γ) {target : ValueType}
    (widens : Widens t.type target) : HasType Γ (t.convert target) (.value target) := by
  unfold Typed.convert
  split
  case isTrue same => exact h.hasType same
  case isFalse other =>
    rcases widens with rfl | rfl | rfl
    · exact absurd rfl other
    · exact h.toNumber
    · exact h.toText

theorem Widens.trans {a b c : ValueType} (first : Widens a b) (second : Widens b c) :
    Widens a c := by
  rcases second with rfl | other
  · exact first
  · exact .inr other

theorem widens_unify (a b : ValueType) : Widens a (a.unify b) ∧ Widens b (a.unify b) := by
  cases a <;> cases b <;> simp [Widens, ValueType.unify]

theorem widens_foldl_unify (types : List ValueType) (first : ValueType) :
    Widens first (types.foldl ValueType.unify first) ∧
      ∀ type ∈ types, Widens type (types.foldl ValueType.unify first) := by
  induction types generalizing first with
  | nil => exact ⟨.inl rfl, by simp⟩
  | cons next rest ih =>
      obtain ⟨left, right⟩ := widens_unify first next
      obtain ⟨joint, others⟩ := ih (first.unify next)
      refine ⟨left.trans joint, fun type member => ?_⟩
      rcases List.mem_cons.mp member with rfl | later
      · exact right.trans joint
      · exact others type later

/-- Every type widens to the common one. -/
theorem widens_unifyAll {types : List ValueType} {type : ValueType} (member : type ∈ types) :
    Widens type (.unifyAll types) := by
  cases types with
  | nil => cases member
  | cons first rest =>
      obtain ⟨joint, others⟩ := widens_foldl_unify rest first
      rcases List.mem_cons.mp member with rfl | later
      · exact joint
      · exact others type later

end Conversions

section Operators

variable {l r : Typed}

theorem Typed.WellTyped.unary (h : t.WellTyped Γ) (op : Formula.UnaryOp) :
    (unary op t).WellTyped Γ := by
  cases op with
  | plus => exact h
  | neg =>
      rw [Lowering.unary]
      split
      case isTrue integer => exact .negate rfl (h.hasType integer)
      case isFalse => exact .negate rfl h.toNumber
  | percent => exact .arithmetic (by decide) h.toNumber (.literal (.number 100.0))

theorem wellTyped_comparison (hl : l.WellTyped Γ) (hr : r.WellTyped Γ) (op : Formula.BinaryOp) :
    (comparison op l r).WellTyped Γ := by
  have compares : comparisonOp op ∈ [.eq, .ne, .lt, .le, .gt, .ge] := by cases op <;> decide
  rw [comparison]
  split
  case isTrue numeric =>
    obtain ⟨first, second⟩ := Bool.and_eq_true_iff.mp numeric
    exact HasType.comparison (σ := .value l.type) (τ := .value r.type) compares first second hl hr
  case isFalse =>
    have offers : Offers "Compare" [.object, .object] none .ordering := by decide
    have ordering : HasType Γ (.support "Compare" [l.expr, r.expr]) .ordering :=
      .support offers .number (.cons (.boxed hl) (.cons (.boxed hr) .nil))
    exact .comparison compares rfl rfl ordering (.literal (.integer 0))

theorem hasType_two {name : String} {left right : Code.Expr}
    (offers : Offers name [.number, .number] none .number) (hl : HasType Γ left .number)
    (hr : HasType Γ right .number) : HasType Γ (.support name [left, right]) .number :=
  .support offers .number (.cons (.exact hl) (.cons (.exact hr) .nil))

theorem hasType_division {cell : Address} {left right e : Code.Expr}
    (h : division cell left right = .ok e) (hl : HasType Γ left .number)
    (hr : HasType Γ right .number) : HasType Γ e .number := by
  obtain rfl | ⟨d, -, -, rfl⟩ := division_cases h
  · exact hasType_two (by decide) hl hr
  · exact .arithmetic (by decide) hl hr

theorem wellTyped_binary {cell : Address} {op : Formula.BinaryOp} (hl : l.WellTyped Γ)
    (hr : r.WellTyped Γ) (h : binary cell op l r = .ok t) : t.WellTyped Γ := by
  cases op with
  | concat =>
      cases h
      exact HasType.add (t := .text) (by decide) hl.toText hr.toText
  | add =>
      cases h
      exact HasType.add (t := .number) (by decide) hl.toNumber hr.toNumber
  | sub | mul =>
      cases h
      exact .arithmetic (by decide) hl.toNumber hr.toNumber
  | div =>
      obtain ⟨e, divided, rfl⟩ := map_eq_ok.mp h
      exact hasType_division divided hl.toNumber hr.toNumber
  | pow =>
      cases h
      exact hasType_two (by decide) hl.toNumber hr.toNumber
  | eq | ne | lt | le | gt | ge =>
      cases h
      exact wellTyped_comparison hl hr _

theorem wellTyped_conditional (h : t.WellTyped Γ) (hl : l.WellTyped Γ) (hr : r.WellTyped Γ) :
    (conditional t l r).WellTyped Γ := by
  obtain ⟨left, right⟩ := widens_unify l.type r.type
  exact .conditional h.toBoolean (hl.convert left) (hr.convert right)

end Operators

section Parts

/-- The typed code of an item. -/
def Item.typed : Item → Typed
  | .fromRange t | .direct t => t

variable {i : Item} {e : Code.Expr}

theorem hasType_number? (h : i.typed.WellTyped Γ) (counts : i.number? = some e) :
    HasType Γ e .number := by
  cases i with
  | fromRange t =>
      obtain ⟨-, rfl⟩ : t.type.isNumeric ∧ t.toNumber = e := by simpa [Item.number?] using counts
      exact h.toNumber
  | direct t =>
      cases counts
      exact h.toNumber

theorem hasType_boolean? (h : i.typed.WellTyped Γ) (counts : i.boolean? = some e) :
    HasType Γ e .boolean := by
  cases i with
  | fromRange t =>
      obtain ⟨-, rfl⟩ : t.type ≠ .text ∧ t.toBoolean = e := by simpa [Item.boolean?] using counts
      exact h.toBoolean
  | direct t =>
      cases counts
      exact h.toBoolean

theorem hasType_countCheck? (h : i.typed.WellTyped Γ) (counts : i.countCheck? = some e) :
    HasType Γ e .integer := by
  cases i with
  | fromRange t => cases counts
  | direct t =>
      obtain ⟨text, rfl⟩ : t.type = .text ∧ .support "CountNumeric" [t.expr] = e := by
        simpa [Item.countCheck?] using counts
      have offers : Offers "CountNumeric" [.text] none .integer := by decide
      exact hasType_support_one offers (h.hasType text)

/-- A sum from the left of expressions of one type. -/
theorem hasType_foldl_add {type : ValueType} (addable : type ≠ .boolean) {parts : List Code.Expr}
    {sum : Code.Expr} (first : HasType Γ sum (.value type))
    (others : ∀ e ∈ parts, HasType Γ e (.value type)) :
    HasType Γ (parts.foldl (fun sofar part => .binary .add sofar part) sum) (.value type) := by
  induction parts generalizing sum with
  | nil => exact first
  | cons part rest ih =>
      refine ih (.add addable first (others part List.mem_cons_self)) fun e later => ?_
      exact others e (List.mem_cons_of_mem _ later)

theorem wellTyped_count {its : List Item} (h : ∀ i ∈ its, i.typed.WellTyped Γ) :
    (count its).WellTyped Γ := by
  have integers : ValueType.integer ≠ .boolean := by decide
  refine hasType_foldl_add integers (.literal (.integer _)) fun e member => ?_
  obtain ⟨i, listed, counts⟩ := List.mem_filterMap.mp member
  exact hasType_countCheck? (h i listed) counts

theorem hasType_joinTexts {parts : List Code.Expr} (h : ∀ e ∈ parts, HasType Γ e .text) :
    HasType Γ (joinTexts parts) .text := by
  cases parts with
  | nil => exact .literal (.text "")
  | cons first rest =>
      have texts : ValueType.text ≠ .boolean := by decide
      refine hasType_foldl_add texts (h first List.mem_cons_self) fun e later => ?_
      exact h e (List.mem_cons_of_mem _ later)

theorem hasType_fromObject {type : ValueType} (h : HasType Γ e .object) (other : type ≠ .integer) :
    HasType Γ (fromObject type e) (.value type) := by
  cases type with
  | integer => exact absurd rfl other
  | number =>
      have offers : Offers "ToNumber" [.object] none .number := by decide
      exact .support offers .number (.cons (.exact h) .nil)
  | text =>
      have offers : Offers "ToText" [.object] none .text := by decide
      exact .support offers .text (.cons (.exact h) .nil)
  | boolean =>
      have offers : Offers "ToBool" [.object] none .boolean := by decide
      exact .support offers .boolean (.cons (.exact h) .nil)

theorem ofLiteral_zero (type : ValueType) : ValueType.ofLiteral type.zero = type := by
  cases type <;> rfl

variable {b : Block}

/-- A block is well typed if its cells are. -/
def Block.WellTyped (Γ : Context) (b : Block) : Prop :=
  ∀ t, some t ∈ b.cells → t.WellTyped Γ

theorem Block.WellTyped.objects (h : b.WellTyped Γ) : HasType Γ b.objects (.array .object) := by
  refine .array (.replicate fun e member => ?_)
  obtain ⟨c, listed, rfl⟩ := List.mem_map.mp member
  cases c with
  | none => exact .null
  | some t => exact .boxed (h t listed)

theorem Block.WellTyped.typed (h : b.WellTyped Γ) :
    HasType Γ (b.typed (b.elementType 0)) (.array (.value (b.elementType 0))) := by
  refine .array (.replicate fun e member => ?_)
  obtain ⟨c, listed, rfl⟩ := List.mem_map.mp member
  cases c with
  | none =>
      have zero := HasType.literal (Γ := Γ) (b.elementType 0).zero
      rw [ofLiteral_zero] at zero
      exact .exact zero
  | some t =>
      refine .exact ((h t listed).convert (widens_unifyAll (List.mem_map_of_mem ?_)))
      obtain ⟨i, bound, here⟩ := List.mem_iff_getElem.mp listed
      refine List.mem_filterMap.mpr ⟨some t, List.mem_mapIdx.mpr ⟨i, bound, ?_⟩, rfl⟩
      simp [here]

theorem hasType_optional {o : Option Argument} {absent : Literal} {f : Typed → Code.Expr}
    (h : optional o absent f = .ok e)
    (given : ∀ arg ∈ o.toList, ∀ t, arg.typed = .ok t →
      HasType Γ (f t) (.value (.ofLiteral absent))) :
    HasType Γ e (.value (.ofLiteral absent)) := by
  cases o with
  | none =>
      cases h
      exact .literal absent
  | some arg =>
      obtain ⟨t, typed, rfl⟩ := map_eq_ok.mp h
      exact given arg (by simp) t typed

end Parts

section Calls

variable {scope : Scope} {types : Types} {cell : Address} {f : Function} {args : List Argument}

/-- What the argument is lowered to is well typed. -/
def Argument.WellTyped (Γ : Context) (arg : Argument) : Prop :=
  ∀ t, arg.typed = .ok t → t.WellTyped Γ

/-- References to the cells that exist are well typed. -/
def Scope.CellsTyped (scope : Scope) (types : Types) (cell : Address) (Γ : Context) : Prop :=
  ∀ target t, (scope.workbook.cell? target).isSome → scope.reference types cell target = .ok t →
    t.WellTyped Γ

theorem wellTyped_rectangle (cells : scope.CellsTyped types cell Γ) {first last : Address}
    {found : List (Option Typed)} (h : scope.rectangle types cell first last = .ok found) :
    ∀ t, some t ∈ found → t.WellTyped Γ := by
  intro t member
  obtain ⟨target, -, found⟩ := exists_left_of_forall₂ (mapM_eq_ok.mp h) member
  split at found
  case isTrue present =>
    obtain ⟨u, reference, same⟩ := map_eq_ok.mp found
    exact cells target t present (Option.some.inj same ▸ reference)
  case isFalse => cases found

theorem wellTyped_block (cells : scope.CellsTyped types cell Γ) {arg : Argument} {b : Block}
    (h : block scope types cell arg = .ok b) : b.WellTyped Γ := by
  rw [block] at h
  split at h
  case h_1 => cases h
  case h_2 =>
    simp only [bind_eq_ok, pure_eq_ok] at h
    obtain ⟨found, read, rfl⟩ := h
    exact wellTyped_rectangle cells read

theorem wellTyped_items (cells : scope.CellsTyped types cell Γ)
    (arguments : ∀ arg ∈ args, arg.WellTyped Γ) {its : List Item}
    (h : items scope types cell args = .ok its) : ∀ i ∈ its, i.typed.WellTyped Γ := by
  intro i member
  simp only [items, bind_eq_ok, pure_eq_ok] at h
  obtain ⟨parts, each, rfl⟩ := h
  obtain ⟨part, listed, member⟩ := List.mem_flatten.mp member
  obtain ⟨arg, given, found⟩ := exists_left_of_forall₂ (mapM_eq_ok.mp each) listed
  rw [itemsOf] at found
  split at found
  case h_1 =>
    simp only [bind_eq_ok, pure_eq_ok] at found
    obtain ⟨row, read, rfl⟩ := found
    obtain ⟨c, inRow, item⟩ := List.mem_filterMap.mp member
    obtain ⟨t, rfl, rfl⟩ := Option.map_eq_some_iff.mp item
    exact wellTyped_rectangle cells read t inRow
  case h_2 =>
    simp only [bind_eq_ok, pure_eq_ok] at found
    obtain ⟨t, typed, rfl⟩ := found
    rw [List.mem_singleton.mp member]
    exact arguments arg given t typed

/-- A function that gathers values of one type. -/
theorem hasType_gathering {helper : String} {type : ValueType} {parts : List Code.Expr}
    (offers : Offers helper [] (some (.value type)) (.value type))
    (each : ∀ e ∈ parts, HasType Γ e (.value type)) :
    HasType Γ (.support helper parts) (.value type) :=
  .gathered offers type .nil each

theorem hasType_numeric {e : Code.Expr} {p : Function × String} (known : p ∈ numerics)
    (h : HasType Γ e .number) : HasType Γ (.call p.2 [e]) .number := by
  have offered : ∀ p ∈ numerics, ∃ q ∈ callable, q.1 = p.2 ∧ q.2.expected .number 1 = [.number] ∧
      q.2.result.instantiate .number = .number := by decide
  obtain ⟨⟨target, s⟩, listed, rfl, expected, result⟩ := offered p known
  have accepted : Accepted Γ [e] (s.expected .number 1) := by
    rw [expected]
    exact .cons (.exact h) .nil
  exact result ▸ HasType.call .number listed accepted

theorem wellTyped_ifError {a o : Typed} (ha : a.WellTyped Γ) (ho : o.WellTyped Γ) :
    HasType Γ (.support "IfError" [.lambda (a.convert (a.type.unify o.type)),
      .lambda (o.convert (a.type.unify o.type))]) (.value (a.type.unify o.type)) := by
  have offers : Offers "IfError" [.delayed .parameter, .delayed .parameter] none .parameter := by
    decide
  obtain ⟨left, right⟩ := widens_unify a.type o.type
  exact .support offers _ (.cons (.exact (.lambda (ha.convert left)))
    (.cons (.exact (.lambda (ho.convert right))) .nil))

theorem hasType_choose {index : Code.Expr} {os : List Typed} (hi : HasType Γ index .number)
    (ho : ∀ o ∈ os, o.WellTyped Γ) :
    HasType Γ (.support "Choose"
      (index :: os.map fun o => .lambda (o.convert (.unifyAll (os.map Typed.type)))))
      (.value (.unifyAll (os.map Typed.type))) := by
  have offers : Offers "Choose" [.number] (some (.delayed .parameter)) .parameter := by decide
  refine HasType.gathered offers _ (.cons (.exact hi) .nil) fun e member => ?_
  obtain ⟨o, listed, rfl⟩ := List.mem_map.mp member
  exact .lambda ((ho o listed).convert (widens_unifyAll (List.mem_map_of_mem listed)))

theorem hasType_index {b : Block} {row column : Code.Expr} (hb : b.WellTyped Γ)
    (hr : HasType Γ row .number) (hc : HasType Γ column .number) :
    HasType Γ (.support "Index" [b.typed (b.elementType 0), b.widthLiteral, row, column])
      (.value (b.elementType 0)) := by
  have offers : Offers "Index" [.array .parameter, .integer, .number, .number] none .parameter := by
    decide
  exact .support offers _ (.cons (.exact hb.typed) (.cons (.exact (.literal (.integer _)))
    (.cons (.exact hr) (.cons (.exact hc) .nil))))

theorem hasType_match {b : Block} {key : Typed} {kind : Code.Expr} (hk : key.WellTyped Γ)
    (hb : b.WellTyped Γ) (ht : HasType Γ kind .number) :
    HasType Γ (.support "Match" [key.expr, b.objects, kind]) .integer := by
  have offers : Offers "Match" [.object, .array .object, .number] none .integer := by decide
  exact .support offers .integer
    (.cons (.boxed hk) (.cons (.exact hb.objects) (.cons (.exact ht) .nil)))

theorem hasType_vlookup {b : Block} {key : Typed} {column approximate : Code.Expr}
    (hk : key.WellTyped Γ) (hb : b.WellTyped Γ) (hc : HasType Γ column .number)
    (ha : HasType Γ approximate .boolean) :
    HasType Γ (.support "VLookup" [key.expr, b.objects, b.widthLiteral, column, approximate])
      .object := by
  have offers : Offers "VLookup" [.object, .array .object, .integer, .number, .boolean] none
      .object := by
    decide
  exact .support offers .number (.cons (.boxed hk) (.cons (.exact hb.objects)
    (.cons (.exact (.literal (.integer _))) (.cons (.exact hc) (.cons (.exact ha) .nil)))))

theorem lookupType_ne_integer (type : ValueType) : lookupType type ≠ .integer := by
  cases type <;> decide

/-- A lowered call is well typed. -/
theorem CallCode.wellTyped (h : CallCode scope types cell f args t)
    (cells : scope.CellsTyped types cell Γ) (arguments : ∀ arg ∈ args, arg.WellTyped Γ) :
    t.WellTyped Γ := by
  cases h with
  | aggregate known read =>
      have offers : ∀ p ∈ aggregates, Offers p.2 [] (some .number) .number := by decide
      refine hasType_gathering (offers _ known) fun e member => ?_
      obtain ⟨i, listed, counts⟩ := List.mem_filterMap.mp member
      exact hasType_number? (wellTyped_items cells arguments read i listed) counts
  | npv first read =>
      have offers : Offers "Npv" [.number] (some .number) .number := by decide
      have rate := arguments _ List.mem_cons_self _ first
      have payments := wellTyped_items cells
        (fun arg later => arguments arg (List.mem_cons_of_mem _ later)) read
      refine HasType.gathered offers .number (.cons (.exact rate.toNumber) .nil) fun e member => ?_
      obtain ⟨i, listed, counts⟩ := List.mem_filterMap.mp member
      exact hasType_number? (payments i listed) counts
  | count read => exact wellTyped_count (wellTyped_items cells arguments read)
  | logical known read =>
      have offers : ∀ p ∈ logicals, Offers p.2 [] (some .boolean) .boolean := by decide
      refine hasType_gathering (offers _ known) fun e member => ?_
      obtain ⟨i, listed, counts⟩ := List.mem_filterMap.mp member
      exact hasType_boolean? (wellTyped_items cells arguments read i listed) counts
  | not first => exact .not (arguments _ (by simp) _ first).toBoolean
  | ifThen first second =>
      exact wellTyped_conditional (arguments _ (by simp) _ first) (arguments _ (by simp) _ second)
        (.literal (.boolean false))
  | ifThenElse first second third =>
      exact wellTyped_conditional (arguments _ (by simp) _ first) (arguments _ (by simp) _ second)
        (arguments _ (by simp) _ third)
  | ifError first second =>
      exact wellTyped_ifError (arguments _ (by simp) _ first) (arguments _ (by simp) _ second)
  | choose first others =>
      refine hasType_choose (arguments _ (by simp) _ first).toNumber fun o member => ?_
      obtain ⟨arg, given, typed⟩ := exists_left_of_forall₂ others member
      exact arguments arg (List.mem_cons_of_mem _ given) o typed
  | numeric known first => exact hasType_numeric known (arguments _ (by simp) _ first).toNumber
  | numericPair known first second =>
      have offers : ∀ p ∈ numericPairs, Offers p.2 [.number, .number] none .number := by decide
      exact hasType_two (offers _ known) (arguments _ (by simp) _ first).toNumber
        (arguments _ (by simp) _ second).toNumber
  | concatenate each =>
      refine hasType_joinTexts fun e member => ?_
      obtain ⟨arg, given, found⟩ := exists_left_of_forall₂ each member
      obtain ⟨t, typed, rfl⟩ := map_eq_ok.mp found
      exact (arguments arg given t typed).toText
  | len first =>
      have offers : Offers "Len" [.text] none .integer := by decide
      exact hasType_support_one offers (arguments _ (by simp) _ first).toText
  | textual known first =>
      have offers : ∀ p ∈ textuals, Offers p.2 [.text] none .text := by decide
      exact hasType_support_one (offers _ known) (arguments _ (by simp) _ first).toText
  | index read second third =>
      refine hasType_index (wellTyped_block cells read) (arguments _ (by simp) _ second).toNumber ?_
      refine hasType_optional third fun arg given t typed => ?_
      exact (arguments arg (by simp_all) t typed).toNumber
  | «match» first read third =>
      refine hasType_match (arguments _ (by simp) _ first) (wellTyped_block cells read) ?_
      refine hasType_optional third fun arg given t typed => ?_
      exact (arguments arg (by simp_all) t typed).toNumber
  | vlookup first read third fourth =>
      refine hasType_fromObject (hasType_vlookup (arguments _ (by simp) _ first)
        (wellTyped_block cells read) (arguments _ (by simp) _ third).toNumber ?_)
        (lookupType_ne_integer _)
      refine hasType_optional fourth fun arg given t typed => ?_
      exact (arguments arg (by simp_all) t typed).toBoolean

mutual

/-- A lowered formula is well typed if the references in it are. -/
theorem wellTyped_of_lower (cells : scope.CellsTyped types cell Γ) :
    (e : Formula.Expr) → {t : Typed} →
    (∀ target ∈ directReferences e, ∀ u, scope.reference types cell target = .ok u →
      u.WellTyped Γ) →
    lower scope types cell e = .ok t → t.WellTyped Γ
  | .literal l, _, _, h => by
      cases h
      exact .literal l
  | .cell target, _, references, h => references target List.mem_cons_self _ h
  | .range .., _, _, h => nomatch h
  | .unary op operand, _, references, h => by
      simp only [lower, bind_eq_ok, pure_eq_ok] at h
      obtain ⟨o, lowered, rfl⟩ := h
      exact (wellTyped_of_lower cells operand references lowered).unary op
  | .binary op left right, _, references, h => by
      simp only [lower, bind_eq_ok] at h
      obtain ⟨l, first, r, second, h⟩ := h
      have hl := wellTyped_of_lower cells left
        (fun target member => references target (List.mem_append_left _ member)) first
      have hr := wellTyped_of_lower cells right
        (fun target member => references target (List.mem_append_right _ member)) second
      exact wellTyped_binary hl hr h
  | .call name args, _, references, h => by
      rw [lower] at h
      split at h
      case h_1 => cases h
      case h_2 g named =>
        split at h
        case isFalse => cases h
        case isTrue admitted =>
          have code := callCode_of_call (by simpa [arguments_eq_map] using admitted) h
          exact code.wellTyped cells (wellTyped_arguments cells args references)

theorem wellTyped_arguments (cells : scope.CellsTyped types cell Γ) : (args : List Formula.Expr) →
    (∀ target ∈ directReferencesOf args, ∀ u, scope.reference types cell target = .ok u →
      u.WellTyped Γ) →
    ∀ arg ∈ arguments scope types cell args, arg.WellTyped Γ
  | [], _ => nofun
  | e :: rest, references => by
      intro arg member
      rcases List.mem_cons.mp member with rfl | later
      · intro t lowered
        exact wellTyped_of_lower cells e
          (fun target member => references target (List.mem_append_left _ member)) lowered
      · exact wellTyped_arguments cells rest
          (fun target member => references target (List.mem_append_right _ member)) arg later

end

end Calls

end SheetCompiler.Lowering
