import SheetCompiler.Proofs.Code.Neighbours
import SheetCompiler.Proofs.Lowering.Declarations

/-!
# Arrays in lowered formulas

An array is made from a range and nothing else, so its items are references, converted or as they
are. None of them is a comparison, whatever formula the array stands in.
-/

namespace SheetCompiler.Lowering

open Formula (Function)

/-- No item of the array, if the expression is one, ends in a comparison. -/
def ItemsPlain : Code.Expr → Prop
  | .array _ items => ∀ x ∈ items, x.opens = false
  | _ => True

/-- No item of an array in the expression ends in a comparison. -/
def PlainArrays (e : Code.Expr) : Prop :=
  ∀ d ∈ e.nodes, ItemsPlain d

/-- The expression can be an item of a plain array. -/
def PlainItem (e : Code.Expr) : Prop :=
  e.opens = false ∧ PlainArrays e

section Constructors

variable {e l r : Code.Expr} {items : List Code.Expr}

theorem forall_nodesOf {P : Code.Expr → Prop} :
    (∀ d ∈ Code.Expr.nodesOf items, P d) ↔ ∀ e ∈ items, ∀ d ∈ e.nodes, P d := by
  induction items with
  | nil => simp [Code.Expr.nodesOf]
  | cons e rest ih => rw [Code.Expr.nodesOf, List.forall_mem_append, List.forall_mem_cons, ih]

/-- The nodes of an expression are the expression and what stands below it. -/
theorem plainArrays_iff (e : Code.Expr) {below : List Code.Expr} (h : e.nodes = e :: below) :
    PlainArrays e ↔ ItemsPlain e ∧ ∀ d ∈ below, ItemsPlain d := by
  rw [PlainArrays, h, List.forall_mem_cons]

/-- An expression that is no array asks for nothing by itself. -/
theorem plainArrays_iff_below (e : Code.Expr) {below : List Code.Expr}
    (h : e.nodes = e :: below) (here : ItemsPlain e) :
    PlainArrays e ↔ ∀ d ∈ below, ItemsPlain d := by
  rw [plainArrays_iff e h, and_iff_right here]

@[simp] theorem plainArrays_literal (value : Literal) : PlainArrays (.literal value) :=
  (plainArrays_iff_below (.literal value) rfl trivial).mpr (List.forall_mem_nil _)

@[simp] theorem plainArrays_null : PlainArrays .null :=
  (plainArrays_iff_below .null rfl trivial).mpr (List.forall_mem_nil _)

@[simp] theorem plainArrays_ident (name : String) : PlainArrays (.ident name) :=
  (plainArrays_iff_below (.ident name) rfl trivial).mpr (List.forall_mem_nil _)

@[simp] theorem plainArrays_cast (type : Code.ValueType) :
    PlainArrays (.cast type e) ↔ PlainArrays e :=
  plainArrays_iff_below (.cast type e) rfl trivial

@[simp] theorem plainArrays_unary (op : Code.UnaryOp) : PlainArrays (.unary op e) ↔ PlainArrays e :=
  plainArrays_iff_below (.unary op e) rfl trivial

@[simp] theorem plainArrays_lambda : PlainArrays (.lambda e) ↔ PlainArrays e :=
  plainArrays_iff_below (.lambda e) rfl trivial

@[simp] theorem plainArrays_binary (op : Code.BinaryOp) :
    PlainArrays (.binary op l r) ↔ PlainArrays l ∧ PlainArrays r :=
  (plainArrays_iff_below (.binary op l r) rfl trivial).trans List.forall_mem_append

@[simp] theorem plainArrays_conditional :
    PlainArrays (.conditional e l r) ↔ PlainArrays e ∧ PlainArrays l ∧ PlainArrays r := by
  rw [plainArrays_iff_below (.conditional e l r) rfl trivial, List.forall_mem_append,
    List.forall_mem_append, and_assoc]
  rfl

@[simp] theorem plainArrays_call (target : String) :
    PlainArrays (.call target items) ↔ ∀ x ∈ items, PlainArrays x :=
  (plainArrays_iff_below (.call target items) rfl trivial).trans forall_nodesOf

@[simp] theorem plainArrays_support (helper : String) :
    PlainArrays (.support helper items) ↔ ∀ x ∈ items, PlainArrays x :=
  plainArrays_call _

@[simp] theorem plainArrays_array (element : Code.ElementType) :
    PlainArrays (.array element items) ↔ ∀ x ∈ items, PlainItem x := by
  rw [plainArrays_iff (.array element items) rfl, forall_nodesOf]
  exact forall₂_and.symm

end Constructors

section Conversions

/-- What a conversion makes of an expression. -/
inductive Converted (e : Code.Expr) : Code.Expr → Prop
  | same : Converted e e
  | literal (l : Literal) : Converted e (.literal l)
  | cast : Converted e (.cast .number e)
  | support (helper : String) : Converted e (.support helper [e])

theorem converted_toNumber (t : Typed) : Converted t.expr t.toNumber := by
  obtain ⟨e, type⟩ := t
  unfold Typed.toNumber
  dsimp only
  split
  case h_1 => exact .same
  case h_2 | h_3 => exact .literal _
  case h_4 =>
    split
    · exact .literal _
    · exact .support _
  case h_5 => exact .cast
  case h_6 => exact .support _

theorem converted_toText (t : Typed) : Converted t.expr t.toText := by
  obtain ⟨e, type⟩ := t
  unfold Typed.toText
  dsimp only
  split
  case h_1 => exact .same
  case h_2 | h_3 | h_4 => exact .literal _
  case h_5 => exact .support _

theorem converted_toBoolean (t : Typed) : Converted t.expr t.toBoolean := by
  obtain ⟨e, type⟩ := t
  unfold Typed.toBoolean
  dsimp only
  split
  case h_1 => exact .same
  case h_2 | h_3 => exact .literal _
  case h_4 =>
    split
    · exact .literal _
    · exact .support _
  case h_5 => exact .support _

theorem converted_convert (t : Typed) (target : Code.ValueType) :
    Converted t.expr (t.convert target) := by
  unfold Typed.convert
  split
  · exact .same
  · cases target with
    | number | integer => exact converted_toNumber t
    | text => exact converted_toText t
    | boolean => exact converted_toBoolean t

variable {e e' : Code.Expr}

theorem Converted.plainArrays (h : Converted e e') (plain : PlainArrays e) : PlainArrays e' := by
  cases h with
  | same => exact plain
  | literal l => exact plainArrays_literal l
  | cast | support => simpa using plain

theorem Converted.plainItem (h : Converted e e') (plain : PlainItem e) : PlainItem e' := by
  refine ⟨?_, h.plainArrays plain.2⟩
  cases h with
  | same => exact plain.1
  | literal | cast | support => rfl

end Conversions

section Operators

variable {t l r : Typed}

theorem plainArrays_toNumber (h : PlainArrays t.expr) : PlainArrays t.toNumber :=
  (converted_toNumber t).plainArrays h

theorem plainArrays_toText (h : PlainArrays t.expr) : PlainArrays t.toText :=
  (converted_toText t).plainArrays h

theorem plainArrays_toBoolean (h : PlainArrays t.expr) : PlainArrays t.toBoolean :=
  (converted_toBoolean t).plainArrays h

theorem plainArrays_convert (h : PlainArrays t.expr) (target : Code.ValueType) :
    PlainArrays (t.convert target) :=
  (converted_convert t target).plainArrays h

theorem plainArrays_unaryOp (h : PlainArrays t.expr) (op : Formula.UnaryOp) :
    PlainArrays (unary op t).expr := by
  cases op with
  | plus => exact h
  | neg =>
      rw [Lowering.unary]
      split
      · exact (plainArrays_unary _).mpr h
      · exact (plainArrays_unary _).mpr (plainArrays_toNumber h)
  | percent => exact (plainArrays_binary _).mpr ⟨plainArrays_toNumber h, plainArrays_literal _⟩

theorem plainArrays_comparison (hl : PlainArrays l.expr) (hr : PlainArrays r.expr)
    (op : Formula.BinaryOp) : PlainArrays (comparison op l r).expr := by
  rw [comparison]
  split <;> simp [Typed.boolean, hl, hr]

theorem plainArrays_binaryOp {cell : Address} {op : Formula.BinaryOp} (hl : PlainArrays l.expr)
    (hr : PlainArrays r.expr) (h : binary cell op l r = .ok t) : PlainArrays t.expr := by
  cases op with
  | concat =>
      cases h
      exact (plainArrays_binary _).mpr ⟨plainArrays_toText hl, plainArrays_toText hr⟩
  | add | sub | mul =>
      cases h
      exact (plainArrays_binary _).mpr ⟨plainArrays_toNumber hl, plainArrays_toNumber hr⟩
  | div =>
      obtain ⟨e, divided, rfl⟩ := map_eq_ok.mp h
      obtain rfl | ⟨d, -, -, rfl⟩ := division_cases divided <;>
        simp [Typed.number, plainArrays_toNumber hl, plainArrays_toNumber hr]
  | pow =>
      cases h
      simp [Typed.number, plainArrays_toNumber hl, plainArrays_toNumber hr]
  | eq | ne | lt | le | gt | ge =>
      cases h
      exact plainArrays_comparison hl hr _

theorem plainArrays_conditionalOf (h : PlainArrays t.expr) (hl : PlainArrays l.expr)
    (hr : PlainArrays r.expr) : PlainArrays (conditional t l r).expr :=
  plainArrays_conditional.mpr
    ⟨plainArrays_toBoolean h, plainArrays_convert hl _, plainArrays_convert hr _⟩

end Operators

section Parts

variable {scope : Scope} {types : Types} {cell : Address} {e : Code.Expr} {i : Item}

/-- A reference is an identifier or a literal. -/
theorem plain_reference {target : Address} {t : Typed}
    (h : scope.reference types cell target = .ok t) : PlainItem t.expr := by
  have literal : ∀ l, PlainItem (.literal l) := fun l => ⟨rfl, plainArrays_literal l⟩
  have identifier : ∀ a, PlainItem (scope.identifier a) := fun a => ⟨rfl, plainArrays_ident _⟩
  rw [Scope.reference] at h
  split at h
  · cases h
    split
    · exact literal _
    · exact identifier _
  · split at h
    · cases h
      exact identifier _
    · split_ifs at h
      · cases h
        exact literal _
      · cases h
        exact identifier _

theorem plain_rectangle {first last : Address} {found : List (Option Typed)}
    (h : scope.rectangle types cell first last = .ok found) :
    ∀ t, some t ∈ found → PlainItem t.expr := by
  intro t member
  obtain ⟨target, -, found⟩ := exists_left_of_forall₂ (mapM_eq_ok.mp h) member
  split at found
  case isTrue =>
    obtain ⟨u, reference, same⟩ := map_eq_ok.mp found
    exact plain_reference (Option.some.inj same ▸ reference)
  case isFalse => cases found

theorem plain_block {arg : Argument} {b : Block} (h : block scope types cell arg = .ok b) :
    ∀ t, some t ∈ b.cells → PlainItem t.expr := by
  rw [block] at h
  split at h
  case h_1 => cases h
  case h_2 =>
    simp only [bind_eq_ok, pure_eq_ok] at h
    obtain ⟨found, read, rfl⟩ := h
    exact plain_rectangle read

theorem plainArrays_objects {arg : Argument} {b : Block} (h : block scope types cell arg = .ok b) :
    PlainArrays b.objects := by
  refine (plainArrays_array _).mpr fun x member => ?_
  obtain ⟨c, listed, rfl⟩ := List.mem_map.mp member
  cases c with
  | none => exact ⟨rfl, plainArrays_null⟩
  | some t => exact plain_block h t listed

theorem plainArrays_typed {arg : Argument} {b : Block} (h : block scope types cell arg = .ok b)
    (type : Code.ValueType) : PlainArrays (b.typed type) := by
  refine (plainArrays_array _).mpr fun x member => ?_
  obtain ⟨c, listed, rfl⟩ := List.mem_map.mp member
  cases c with
  | none => exact ⟨rfl, plainArrays_literal _⟩
  | some t => exact (converted_convert t type).plainItem (plain_block h t listed)

theorem converted_number? (counts : i.number? = some e) : Converted i.typed.expr e := by
  cases i with
  | fromRange t =>
      obtain ⟨-, rfl⟩ : t.type.isNumeric ∧ t.toNumber = e := by simpa [Item.number?] using counts
      exact converted_toNumber t
  | direct t =>
      cases counts
      exact converted_toNumber t

theorem converted_boolean? (counts : i.boolean? = some e) : Converted i.typed.expr e := by
  cases i with
  | fromRange t =>
      obtain ⟨-, rfl⟩ : t.type ≠ .text ∧ t.toBoolean = e := by simpa [Item.boolean?] using counts
      exact converted_toBoolean t
  | direct t =>
      cases counts
      exact converted_toBoolean t

theorem converted_countCheck? (counts : i.countCheck? = some e) : Converted i.typed.expr e := by
  cases i with
  | fromRange t => cases counts
  | direct t =>
      obtain ⟨-, rfl⟩ : t.type = .text ∧ .support "CountNumeric" [t.expr] = e := by
        simpa [Item.countCheck?] using counts
      exact .support _

theorem plainArrays_foldl_add {parts : List Code.Expr} {sum : Code.Expr} (first : PlainArrays sum)
    (others : ∀ e ∈ parts, PlainArrays e) :
    PlainArrays (parts.foldl (fun sofar part => .binary .add sofar part) sum) := by
  induction parts generalizing sum with
  | nil => exact first
  | cons part rest ih =>
      rw [List.forall_mem_cons] at others
      exact ih ((plainArrays_binary _).mpr ⟨first, others.1⟩) others.2

theorem plainArrays_optional {o : Option Argument} {absent : Literal} {f : Typed → Code.Expr}
    (h : optional o absent f = .ok e)
    (given : ∀ arg ∈ o.toList, ∀ t, arg.typed = .ok t → PlainArrays (f t)) : PlainArrays e := by
  cases o with
  | none =>
      cases h
      exact plainArrays_literal absent
  | some arg =>
      obtain ⟨t, typed, rfl⟩ := map_eq_ok.mp h
      exact given arg (by simp) t typed

theorem plainArrays_items {args : List Argument} {its : List Item}
    (arguments : ∀ arg ∈ args, ∀ t, arg.typed = .ok t → PlainArrays t.expr)
    (h : items scope types cell args = .ok its) : ∀ i ∈ its, PlainArrays i.typed.expr := by
  intro i member
  simp only [items, bind_eq_ok, pure_eq_ok] at h
  obtain ⟨parts, each, rfl⟩ := h
  obtain ⟨part, listed, member⟩ := List.mem_flatten.mp member
  obtain ⟨arg, given, found⟩ := exists_left_of_forall₂ (mapM_eq_ok.mp each) listed
  rw [itemsOf] at found
  split at found
  case h_1 =>
    simp only [bind_eq_ok, pure_eq_ok] at found
    obtain ⟨row, read, rfl⟩ := found
    obtain ⟨c, inRow, item⟩ := List.mem_filterMap.mp member
    obtain ⟨t, rfl, rfl⟩ := Option.map_eq_some_iff.mp item
    exact (plain_rectangle read t inRow).2
  case h_2 =>
    simp only [bind_eq_ok, pure_eq_ok] at found
    obtain ⟨t, typed, rfl⟩ := found
    rw [List.mem_singleton.mp member]
    exact arguments arg given t typed

/-- What is made of each of some items. -/
theorem plainArrays_filterMap {its : List Item} {g : Item → Option Code.Expr}
    (h : ∀ i ∈ its, PlainArrays i.typed.expr)
    (converted : ∀ {i : Item} {e : Code.Expr}, g i = some e → Converted i.typed.expr e) :
    ∀ e ∈ its.filterMap g, PlainArrays e := by
  intro e member
  obtain ⟨i, listed, counts⟩ := List.mem_filterMap.mp member
  exact (converted counts).plainArrays (h i listed)

theorem plainArrays_joinTexts {parts : List Code.Expr} (h : ∀ e ∈ parts, PlainArrays e) :
    PlainArrays (joinTexts parts) := by
  cases parts with
  | nil => exact plainArrays_literal _
  | cons first rest =>
      rw [List.forall_mem_cons] at h
      exact plainArrays_foldl_add h.1 h.2

theorem plainArrays_fromObject (h : PlainArrays e) (type : Code.ValueType) :
    PlainArrays (fromObject type e) := by
  cases type <;> simpa [fromObject] using h

end Parts

section Calls

variable {scope : Scope} {types : Types} {cell : Address} {f : Function} {args : List Argument}
  {t : Typed}

/-- The arrays of a lowered call are those of its arguments and what is made of ranges. -/
theorem CallCode.plainArrays (h : CallCode scope types cell f args t)
    (arguments : ∀ arg ∈ args, ∀ t, arg.typed = .ok t → PlainArrays t.expr) :
    PlainArrays t.expr := by
  cases h with
  | aggregate known read =>
      exact (plainArrays_support _).mpr
        (plainArrays_filterMap (plainArrays_items arguments read) converted_number?)
  | npv first read =>
      rw [List.forall_mem_cons] at arguments
      exact (plainArrays_support _).mpr (List.forall_mem_cons.mpr
        ⟨plainArrays_toNumber (arguments.1 _ first),
          plainArrays_filterMap (plainArrays_items arguments.2 read) converted_number?⟩)
  | count read =>
      exact plainArrays_foldl_add (plainArrays_literal _)
        (plainArrays_filterMap (plainArrays_items arguments read) converted_countCheck?)
  | logical known read =>
      exact (plainArrays_support _).mpr
        (plainArrays_filterMap (plainArrays_items arguments read) converted_boolean?)
  | not first =>
      exact (plainArrays_unary _).mpr (plainArrays_toBoolean (arguments _ (by simp) _ first))
  | ifThen first second =>
      exact plainArrays_conditionalOf (arguments _ (by simp) _ first)
        (arguments _ (by simp) _ second) (plainArrays_literal _)
  | ifThenElse first second third =>
      exact plainArrays_conditionalOf (arguments _ (by simp) _ first)
        (arguments _ (by simp) _ second) (arguments _ (by simp) _ third)
  | ifError first second =>
      have attempt := arguments _ (by simp) _ first
      have otherwise := arguments _ (by simp) _ second
      simp [plainArrays_convert attempt, plainArrays_convert otherwise]
  | choose first others =>
      have index := plainArrays_toNumber (arguments _ (by simp) _ first)
      refine (plainArrays_support _).mpr (List.forall_mem_cons.mpr ⟨index, fun e member => ?_⟩)
      obtain ⟨o, listed, rfl⟩ := List.mem_map.mp member
      obtain ⟨arg, given, typed⟩ := exists_left_of_forall₂ others listed
      exact plainArrays_lambda.mpr
        (plainArrays_convert (arguments arg (List.mem_cons_of_mem _ given) o typed) _)
  | numeric known first =>
      simp [Typed.number, plainArrays_toNumber (arguments _ (by simp) _ first)]
  | numericPair known first second =>
      simp [Typed.number, plainArrays_toNumber (arguments _ (by simp) _ first),
        plainArrays_toNumber (arguments _ (by simp) _ second)]
  | concatenate each =>
      refine plainArrays_joinTexts fun e member => ?_
      obtain ⟨arg, given, found⟩ := exists_left_of_forall₂ each member
      obtain ⟨t, typed, rfl⟩ := map_eq_ok.mp found
      exact plainArrays_toText (arguments arg given t typed)
  | len first => simp [plainArrays_toText (arguments _ (by simp) _ first)]
  | textual known first =>
      simp [Typed.text, plainArrays_toText (arguments _ (by simp) _ first)]
  | index read second third =>
      have row := plainArrays_toNumber (arguments _ (by simp) _ second)
      have column := plainArrays_optional third fun arg given t typed =>
        plainArrays_toNumber (arguments arg (by simp_all) t typed)
      simp [Block.widthLiteral, plainArrays_typed read, row, column]
  | «match» first read third =>
      have key := arguments _ (by simp) _ first
      have kind := plainArrays_optional third fun arg given t typed =>
        plainArrays_toNumber (arguments arg (by simp_all) t typed)
      simp [plainArrays_objects read, key, kind]
  | vlookup first read third fourth =>
      have key := arguments _ (by simp) _ first
      have column := plainArrays_toNumber (arguments _ (by simp) _ third)
      have approximate := plainArrays_optional fourth fun arg given t typed =>
        plainArrays_toBoolean (arguments arg (by simp_all) t typed)
      refine plainArrays_fromObject ?_ _
      simp [Block.widthLiteral, plainArrays_objects read, key, column, approximate]

mutual

theorem plainArrays_of_lower : (e : Formula.Expr) → {t : Typed} →
    lower scope types cell e = .ok t → PlainArrays t.expr
  | .literal l, _, h => by
      cases h
      exact plainArrays_literal l
  | .cell _, _, h => (plain_reference h).2
  | .range .., _, h => nomatch h
  | .unary op operand, _, h => by
      simp only [lower, bind_eq_ok, pure_eq_ok] at h
      obtain ⟨o, lowered, rfl⟩ := h
      exact plainArrays_unaryOp (plainArrays_of_lower operand lowered) op
  | .binary op left right, _, h => by
      simp only [lower, bind_eq_ok] at h
      obtain ⟨l, first, r, second, h⟩ := h
      exact plainArrays_binaryOp (plainArrays_of_lower left first)
        (plainArrays_of_lower right second) h
  | .call name args, _, h => by
      rw [lower] at h
      split at h
      case h_1 => cases h
      case h_2 g named =>
        split at h
        case isFalse => cases h
        case isTrue admitted =>
          have code := callCode_of_call (by simpa [arguments_eq_map] using admitted) h
          exact code.plainArrays (plainArrays_arguments args)

theorem plainArrays_arguments : (args : List Formula.Expr) →
    ∀ arg ∈ arguments scope types cell args, ∀ t, arg.typed = .ok t → PlainArrays t.expr
  | [] => nofun
  | e :: rest => List.forall_mem_cons.mpr
      ⟨fun _ lowered => plainArrays_of_lower e lowered, plainArrays_arguments rest⟩

end

end Calls

section Statements

open Dependency (EvaluationOrder)

variable {w : Workbook} {inlineValues : Bool} {order : List Address} {program : List Statement}

theorem mistaken_eq_false {items : List Code.Expr} (h : ∀ x ∈ items, x.opens = false) :
    Code.Expr.mistaken items = false := by
  induction items with
  | nil => rfl
  | cons e rest ih =>
      rw [List.forall_mem_cons] at h
      rw [Code.Expr.mistaken, h.1, ih h.2]
      rfl

/-- The items of an array in a program never read as type arguments. -/
theorem mistaken_of_array (ordered : EvaluationOrder w order)
    (lowered : statements w inlineValues order = .ok program) {s : Statement} (member : s ∈ program)
    {element : Code.ElementType} {items : List Code.Expr}
    (inside : .array element items ∈ s.expr.nodes) : Code.Expr.mistaken items = false := by
  have plain : PlainArrays s.expr := by
    obtain ⟨before, after, split⟩ := List.append_of_mem member
    rcases ahead_or_mem_inputs ordered lowered split with input | ⟨-, e, -, code⟩
    · obtain ⟨a, label, rfl, -, -⟩ := mem_inputs input
      exact plainArrays_literal _
    · exact plainArrays_of_lower e code
  exact mistaken_eq_false (plain _ inside)

end Statements

end SheetCompiler.Lowering
