import SheetCompiler.Evaluation.Basic
import SheetCompiler.Proofs.Except
import SheetCompiler.Proofs.Lowering.Computes
import SheetCompiler.Proofs.Lowering.Fragment
import SheetCompiler.Proofs.Workbook

/-!
# Lowering the numeric fragment

Lowering and evaluation walk through a formula side by side. As long as references are lowered to
expressions that compute the values read, every expression of the numeric fragment that can be
lowered has a value, its code has the type that the fragment gives it, and the code computes the
value.

Ranges are where the two differ most: lowering chooses the cells that count by their static types,
evaluation by their values.
-/

namespace SheetCompiler.Lowering

open Code (ValueType Store)
open Evaluation (eval fromCoerced)
open Formula (Expr Function)

/-- References are lowered to expressions that compute what is read: literals as they are, formulas
of the fragment with the type that the fragment gives them. -/
structure Agreement (scope : Scope) (types : Types) (store : Store)
    (read : Address → Except CompileError Value) : Prop where
  value : ∀ {cell a l t}, scope.workbook.literal? a = some l →
    scope.reference types cell a = .ok t →
    t.type = .ofLiteral l ∧ read a = .ok (.ofLiteral l) ∧ Computes store t (.ofLiteral l)
  formula : ∀ {cell a e type t}, scope.workbook.formula? a = some e →
    e.Numeric scope.workbook type → scope.reference types cell a = .ok t →
    t.type = type ∧ ∃ v, read a = .ok v ∧ Computes store t v
  missing : ∀ {a}, scope.workbook.cell? a = none → read a = .ok .blank

variable {scope : Scope} {types : Types} {store : Store}
  {read : Address → Except CompileError Value}
variable {cell : Address}

theorem computes_literal {l : Literal} (numeric : (ValueType.ofLiteral l).isNumeric) :
    Computes store (.literal l) (.ofLiteral l) := by
  refine ⟨.value l rfl, fun {d} constant => ?_⟩
  cases l with
  | integer i => exact congrArg Value.number (Option.some.inj constant)
  | number x => exact congrArg Value.number (Option.some.inj constant)
  | text | boolean => cases numeric

section Ranges

/-- One cell of a range. -/
theorem Agreement.counts_cell (A : Agreement scope types store read)
    (fragment : scope.workbook.Numeric) {a : Address} {c : Option Typed}
    (h : (if (scope.workbook.cell? a).isSome then (scope.reference types cell a).map some
      else .ok none) = .ok c) :
    ∃ v, read a = .ok v ∧
      Counts store ((c.map Item.fromRange).toList.filterMap Item.number?) [⟨v, true⟩] := by
  split at h
  case isFalse absent =>
    cases h
    refine ⟨.blank, A.missing (by simpa using absent), .passed (fun numeric => ?_) .nil⟩
    cases numeric
  case isTrue present =>
    obtain ⟨t, lowered, rfl⟩ := map_eq_ok.mp h
    show ∃ v, read a = .ok v ∧ Counts store ([Item.fromRange t].filterMap Item.number?) [⟨v, true⟩]
    rcases Workbook.cell_cases scope.workbook a with absent | ⟨l, found⟩ | ⟨e, found⟩
    · rw [absent] at present
      cases present
    · obtain ⟨type, reads, computes⟩ := A.value found lowered
      refine ⟨.ofLiteral l, reads, ?_⟩
      cases numeric : t.type.isNumeric with
      | true =>
          simp only [List.filterMap_cons, Item.number?, numeric]
          exact .taken true (computes.toNumber numeric) .nil
      | false =>
          simp only [List.filterMap_cons, Item.number?, numeric]
          refine .passed (fun isNumeric => ?_) .nil
          cases l <;> simp_all [ValueType.isNumeric, ValueType.ofLiteral] <;> cases isNumeric
    · obtain ⟨type, belongs⟩ := fragment a e found
      obtain ⟨rfl, v, reads, computes⟩ := A.formula found belongs lowered
      refine ⟨v, reads, ?_⟩
      simp only [List.filterMap_cons, Item.number?, belongs.isNumeric]
      exact .taken true (computes.toNumber belongs.isNumeric) .nil

/-- All cells of a range. -/
theorem Agreement.counts_rectangle (A : Agreement scope types store read)
    (fragment : scope.workbook.Numeric) {first last : Address} {cells : List (Option Typed)}
    (h : scope.rectangle types cell first last = .ok cells) :
    ∃ values, (Address.rectangle first last).mapM read = .ok values ∧
      Counts store ((cells.filterMap fun c => c.map Item.fromRange).filterMap Item.number?)
        (values.map fun v => ⟨v, true⟩) := by
  rw [Scope.rectangle, mapM_eq_ok] at h
  simp only [mapM_eq_ok]
  generalize Address.rectangle first last = addresses at h ⊢
  induction h with
  | nil => exact ⟨[], .nil, .nil⟩
  | @cons a c addresses cells head _ ih =>
      obtain ⟨v, reads, counts⟩ := A.counts_cell fragment head
      obtain ⟨values, later, others⟩ := ih
      refine ⟨v :: values, .cons reads later, ?_⟩
      have both := counts.append others
      cases c with
      | none => exact both
      | some t => rwa [← List.filterMap_append] at both

end Ranges

/-- If the expression can be lowered, its code has the type and computes its value. -/
def Agrees (scope : Scope) (types : Types) (store : Store)
    (read : Address → Except CompileError Value) (cell : Address) (e : Expr) (type : ValueType) :
    Prop :=
  ∀ t, lower scope types cell e = .ok t →
    t.type = type ∧ ∃ v, eval read cell e = .ok v ∧ Computes store t v

/-- The operands of arithmetic are converted to floating point numbers. -/
theorem Agrees.toNumber {e : Expr} {type : ValueType} {t : Typed}
    (h : Agrees scope types store read cell e type) (numeric : type.isNumeric)
    (lowered : lower scope types cell e = .ok t) :
    ∃ v, eval read cell e = .ok v ∧ Computes store (.number t.toNumber) v := by
  obtain ⟨rfl, v, value, computes⟩ := h t lowered
  exact ⟨v, value, computes.toNumber numeric⟩

section Items

theorem sequence_range {first last : Address} {x : Except CompileError Value} {values : List Value}
    {rest : List (Evaluation.Argument (Except CompileError))} {items : List Evaluation.Item}
    (reads : (Address.rectangle first last).mapM read = .ok values)
    (later : Evaluation.sequence read rest = .ok items) :
    Evaluation.sequence read (⟨.range first last, x⟩ :: rest) =
      .ok ((values.map fun v => ⟨v, true⟩) ++ items) := by
  rw [Evaluation.sequence]
  simp only [reads, later]
  rfl

theorem sequence_direct {e : Expr} (single : e.isRange = false) {v : Value}
    {rest : List (Evaluation.Argument (Except CompileError))} {items : List Evaluation.Item}
    (later : Evaluation.sequence read rest = .ok items) :
    Evaluation.sequence read (⟨e, .ok v⟩ :: rest) = .ok (⟨v, false⟩ :: items) := by
  rw [Evaluation.sequence, later]
  cases e with
  | range first last => cases single
  | literal | cell | binary | unary | call => rfl

/-- The items of one argument that is not a range. -/
theorem itemsOf_direct {e : Expr} (single : e.isRange = false) {typed : Except CompileError Typed}
    {part : List Item} (h : itemsOf scope types cell ⟨e, typed⟩ = .ok part) :
    ∃ t, typed = .ok t ∧ part = [.direct t] := by
  have direct : itemsOf scope types cell ⟨e, typed⟩ = typed >>= fun t => pure [.direct t] := by
    cases e with
    | range first last => cases single
    | literal | cell | binary | unary | call => rfl
  rw [direct, bind_eq_ok] at h
  obtain ⟨t, found, same⟩ := h
  exact ⟨t, found, (pure_eq_ok.mp same).symm⟩

/-- The arguments of a function that takes ranges. -/
theorem Agreement.counts_items (A : Agreement scope types store read)
    (fragment : scope.workbook.Numeric) {args : List Expr} {type : Expr → ValueType}
    (numeric : ∀ arg ∈ args, arg.isRange = false → (type arg).isNumeric)
    (agrees : ∀ arg ∈ args, arg.isRange = false → Agrees scope types store read cell arg (type arg))
    {its : List Item} (h : items scope types cell (arguments scope types cell args) = .ok its) :
    ∃ found, Evaluation.sequence read (Evaluation.arguments read cell args) = .ok found ∧
      Counts store (its.filterMap Item.number?) found := by
  obtain ⟨parts, each, same⟩ := bind_eq_ok.mp h
  rw [← pure_eq_ok.mp same]
  clear h same
  induction args generalizing parts with
  | nil =>
      obtain rfl := List.forall₂_nil_left_iff.mp (mapM_eq_ok.mp each)
      exact ⟨[], rfl, .nil⟩
  | cons arg args ih =>
      rw [arguments, mapM_eq_ok, List.forall₂_cons_left_iff] at each
      obtain ⟨part, others, head, tail, rfl⟩ := each
      obtain ⟨found, later, counts⟩ :=
        ih (fun e member => numeric e (List.mem_cons_of_mem _ member))
        (fun e member => agrees e (List.mem_cons_of_mem _ member)) others (mapM_eq_ok.mpr tail)
      rw [List.flatten_cons, List.filterMap_append, Evaluation.arguments]
      cases kind : arg.isRange with
      | false =>
          obtain ⟨t, lowered, rfl⟩ := itemsOf_direct kind head
          obtain ⟨v, value, computes⟩ :=
            (agrees arg List.mem_cons_self kind).toNumber (numeric arg List.mem_cons_self kind)
              lowered
          rw [value]
          exact ⟨_, sequence_direct kind later, .taken false computes counts⟩
      | true =>
          cases arg with
          | range first last =>
              obtain ⟨cells, rectangle, same⟩ := bind_eq_ok.mp head
              rw [← pure_eq_ok.mp same]
              obtain ⟨values, reads, first⟩ := A.counts_rectangle fragment rectangle
              exact ⟨_, sequence_range reads later, first.append counts⟩
          | literal | cell | binary | unary | call => cases kind

end Items

section Calls

/-- A call that can be lowered is lowered and evaluated as a call of the function it names. -/
theorem lower_call (read : Address → Except CompileError Value) {name : String} {f : Function}
    (named : Function.ofName? name = some f) {args : List Expr} {t : Typed}
    (h : lower scope types cell (.call name args) = .ok t) :
    ∃ fault, call scope types cell fault f (arguments scope types cell args) = .ok t ∧
      eval read cell (.call name args) =
        Evaluation.call read cell fault f (Evaluation.arguments read cell args) := by
  rw [lower, named] at h
  rw [eval, named]
  simp only at h ⊢
  split at h
  case isTrue admitted => exact ⟨_, h, if_pos admitted⟩
  case isFalse => cases h

theorem agrees_one {name : String} {f : Function} {arg : Expr} {type : ValueType}
    (named : Function.ofName? name = some f) (member : f ∈ [.abs, .int, .sqrt])
    (numeric : type.isNumeric) (agrees : Agrees scope types store read cell arg type) :
    Agrees scope types store read cell (.call name [arg]) .number := by
  intro t h
  obtain ⟨fault, h, evaluated⟩ := lower_call read named h
  obtain ⟨target, code, meaning, value⟩ : ∃ target,
      call scope types cell fault f (arguments scope types cell [arg]) =
        Lowering.numeric target ⟨arg, lower scope types cell arg⟩ ∧
      Code.numericTargets.lookup target = some (Code.ofOne (Evaluation.numeric f)) ∧
      Evaluation.call read cell fault f (Evaluation.arguments read cell [arg]) =
        eval read cell arg >>= fun v => pure (fromCoerced v.toNumber (Evaluation.numeric f)) := by
    simp only [List.mem_cons, List.not_mem_nil, or_false] at member
    rcases member with rfl | rfl | rfl <;> exact ⟨_, rfl, rfl, rfl⟩
  rw [code, Lowering.numeric, bind_eq_ok] at h
  obtain ⟨operand, lowered, same⟩ := h
  obtain ⟨v, found, computes⟩ := agrees.toNumber numeric lowered
  rw [← pure_eq_ok.mp same]
  refine ⟨rfl, _, ?_, computes.one meaning (isNumeric_numeric f)⟩
  rw [evaluated, value, found]
  rfl

theorem agrees_two {name : String} {f : Function} {left right : Expr} {l r : ValueType}
    (named : Function.ofName? name = some f)
    (member : f ∈ [.power, .mod, .round, .roundUp, .roundDown])
    (numeric : l.isNumeric) (numeric' : r.isNumeric)
    (first : Agrees scope types store read cell left l)
    (second : Agrees scope types store read cell right r) :
    Agrees scope types store read cell (.call name [left, right]) .number := by
  intro t h
  obtain ⟨fault, h, evaluated⟩ := lower_call read named h
  obtain ⟨helper, code, meaning, value⟩ : ∃ helper,
      call scope types cell fault f (arguments scope types cell [left, right]) =
        Lowering.numericPair helper ⟨left, lower scope types cell left⟩
          ⟨right, lower scope types cell right⟩ ∧
      Code.numericTargets.lookup (Code.supportName helper) =
        some (Code.ofTwo (Evaluation.numericPair f)) ∧
      Evaluation.call read cell fault f (Evaluation.arguments read cell [left, right]) =
        eval read cell left >>= fun v => Evaluation.withCoerced v.toNumber fun x =>
          eval read cell right >>= fun u =>
            pure (fromCoerced u.toNumber (Evaluation.numericPair f x)) := by
    simp only [List.mem_cons, List.not_mem_nil, or_false] at member
    rcases member with rfl | rfl | rfl | rfl | rfl <;> exact ⟨_, rfl, rfl, rfl⟩
  rw [code, Lowering.numericPair] at h
  simp only [bind_eq_ok] at h
  obtain ⟨operand, lowered, operand', lowered', same⟩ := h
  obtain ⟨v, found, computes⟩ := first.toNumber numeric lowered
  obtain ⟨u, found', computes'⟩ := second.toNumber numeric' lowered'
  rw [← pure_eq_ok.mp same]
  refine ⟨rfl, _, ?_, computes.two computes' meaning (isNumeric_numericPair f)⟩
  rw [evaluated, value, found, found']
  -- An error on the left is the result, whatever stands on the right.
  show Evaluation.withCoerced v.toNumber _ = _
  cases v.toNumber <;> rfl

theorem agrees_ifError {name : String} {attempt otherwise : Expr} {first second : ValueType}
    (named : Function.ofName? name = some .ifError) (numeric : first.isNumeric)
    (numeric' : second.isNumeric) (tries : Agrees scope types store read cell attempt first)
    (falls : Agrees scope types store read cell otherwise second) :
    Agrees scope types store read cell (.call name [attempt, otherwise]) (first.unify second) := by
  intro t h
  obtain ⟨fault, h, evaluated⟩ := lower_call read named h
  obtain ⟨operand, lowered, h⟩ := bind_eq_ok.mp h
  obtain ⟨operand', lowered', same⟩ := bind_eq_ok.mp h
  obtain ⟨rfl, v, found, computes⟩ := tries operand lowered
  obtain ⟨rfl, u, found', computes'⟩ := falls operand' lowered'
  rw [← pure_eq_ok.mp same]
  refine ⟨rfl, _, ?_, computes.ifError computes' numeric numeric'⟩
  rw [evaluated]
  show (eval read cell attempt >>= _) = _
  rw [found]
  cases v with
  | error error => exact found'
  | number | text | boolean | blank => rfl

theorem agrees_aggregate (A : Agreement scope types store read) (fragment : scope.workbook.Numeric)
    {name : String} {f : Function} {args : List Expr} {type : Expr → ValueType}
    (named : Function.ofName? name = some f) (member : f ∈ [.sum, .average, .min, .max, .product])
    (numeric : ∀ arg ∈ args, arg.isRange = false → (type arg).isNumeric)
    (agrees : ∀ arg ∈ args, arg.isRange = false →
      Agrees scope types store read cell arg (type arg)) :
    Agrees scope types store read cell (.call name args) .number := by
  intro t h
  obtain ⟨fault, h, evaluated⟩ := lower_call read named h
  obtain ⟨helper, code, meaning, value⟩ : ∃ helper,
      call scope types cell fault f (arguments scope types cell args) =
        aggregate scope types cell helper (arguments scope types cell args) ∧
      Code.numericTargets.lookup (Code.supportName helper) =
        some (fun xs => some (Evaluation.aggregate f xs)) ∧
      Evaluation.call read cell fault f (Evaluation.arguments read cell args) =
        Evaluation.sequence read (Evaluation.arguments read cell args) >>= fun items =>
          pure (fromCoerced (Evaluation.numbers items) (Evaluation.aggregate f)) := by
    simp only [List.mem_cons, List.not_mem_nil, or_false] at member
    rcases member with rfl | rfl | rfl | rfl | rfl <;> exact ⟨_, rfl, rfl, rfl⟩
  rw [code, aggregate, bind_eq_ok] at h
  obtain ⟨its, lowered, same⟩ := h
  obtain ⟨found, sequence, counts⟩ := A.counts_items fragment numeric agrees lowered
  rw [← pure_eq_ok.mp same]
  refine ⟨rfl, fromCoerced (Evaluation.numbers found) (Evaluation.aggregate f), ?_,
    counts.call meaning ?_ (isNumeric_fromCoerced (isNumeric_aggregate f))⟩
  · rw [evaluated, value, sequence]
    rfl
  · cases Evaluation.numbers found <;> rfl

theorem agrees_npv (A : Agreement scope types store read) (fragment : scope.workbook.Numeric)
    {name : String} {args : List Expr} {type : Expr → ValueType}
    (named : Function.ofName? name = some .npv)
    (numeric : ∀ arg ∈ args, arg.isRange = false → (type arg).isNumeric)
    (agrees : ∀ arg ∈ args, arg.isRange = false →
      Agrees scope types store read cell arg (type arg)) :
    Agrees scope types store read cell (.call name args) .number := by
  intro t h
  obtain ⟨fault, h, evaluated⟩ := lower_call read named h
  cases args with
  | nil => cases h
  | cons rate payments =>
      obtain ⟨operand, lowered, h⟩ := bind_eq_ok.mp h
      obtain ⟨its, lowered', same⟩ := bind_eq_ok.mp h
      have single : rate.isRange = false := by
        cases rate with
        | range first last => cases lowered
        | literal | cell | binary | unary | call => rfl
      obtain ⟨r, found, computes⟩ := (agrees rate List.mem_cons_self single).toNumber
        (numeric rate List.mem_cons_self single) lowered
      obtain ⟨paid, sequence, counts⟩ := A.counts_items fragment
        (fun e member => numeric e (List.mem_cons_of_mem _ member))
        (fun e member => agrees e (List.mem_cons_of_mem _ member)) lowered'
      rw [← pure_eq_ok.mp same]
      refine ⟨rfl, fromCoerced r.toNumber fun x => fromCoerced (Evaluation.numbers paid) fun xs =>
        .number (Evaluation.netPresentValue x xs), ?_,
          Counts.call (.taken false computes counts) rfl ?_
        (isNumeric_fromCoerced fun x => isNumeric_fromCoerced fun xs => .number _)⟩
      · rw [evaluated]
        show (eval read cell rate >>= _) = _
        rw [found]
        show Evaluation.withCoerced r.toNumber _ = _
        cases r.toNumber with
        | error error => rfl
        | ok x =>
            show (Evaluation.sequence read _ >>= _) = _
            rw [sequence]
            rfl
      · rw [Evaluation.numbers]
        cases computes.isNumeric with
        | error error => rfl
        | number x => cases Evaluation.numbers paid <;> rfl

end Calls

section Operators

theorem agrees_arithmetic {op : Formula.BinaryOp} {left right : Expr} {l r : ValueType}
    (member : op ∈ [.add, .sub, .mul, .div, .pow]) (numeric : l.isNumeric) (numeric' : r.isNumeric)
    (first : Agrees scope types store read cell left l)
    (second : Agrees scope types store read cell right r) :
    Agrees scope types store read cell (.binary op left right) .number := by
  intro t h
  rw [lower] at h
  simp only [bind_eq_ok] at h
  obtain ⟨operand, lowered, operand', lowered', code⟩ := h
  obtain ⟨v, found, computes⟩ := first.toNumber numeric lowered
  obtain ⟨u, found', computes'⟩ := second.toNumber numeric' lowered'
  have value : eval read cell (.binary op left right) = .ok (fromCoerced v.toNumber fun x =>
      fromCoerced u.toNumber (Evaluation.arithmetic op x)) := by
    rw [eval, found, found', ← binary_eq_arithmetic member computes.isNumeric computes'.isNumeric]
    rfl
  suffices typed : t.type = .number ∧ Computes store t (fromCoerced v.toNumber fun x =>
      fromCoerced u.toNumber (Evaluation.arithmetic op x)) from ⟨typed.1, _, value, typed.2⟩
  simp only [List.mem_cons, List.not_mem_nil, or_false] at member
  rcases member with rfl | rfl | rfl | rfl | rfl
  · cases code
    exact ⟨rfl, computes.binary computes' .add fun x y => rfl⟩
  · cases code
    exact ⟨rfl, computes.binary computes' .sub fun x y => rfl⟩
  · cases code
    exact ⟨rfl, computes.binary computes' .mul fun x y => rfl⟩
  · obtain ⟨quotient, divided, rfl⟩ := map_eq_ok.mp code
    exact ⟨rfl, computes.divide computes' divided⟩
  · cases code
    exact ⟨rfl, computes.two computes' rfl (isNumeric_numericPair .power)⟩

theorem agrees_percent {e : Expr} {type : ValueType} (numeric : type.isNumeric)
    (agrees : Agrees scope types store read cell e type) :
    Agrees scope types store read cell (.unary .percent e) .number := by
  intro t h
  rw [lower, bind_eq_ok] at h
  obtain ⟨operand, lowered, same⟩ := h
  obtain ⟨v, found, computes⟩ := agrees.toNumber numeric lowered
  rw [← pure_eq_ok.mp same]
  refine ⟨rfl, _, ?_, computes.percent⟩
  rw [eval, found]
  rfl

theorem agrees_negative {e : Expr} (agrees : Agrees scope types store read cell e .number) :
    Agrees scope types store read cell (.unary .neg e) .number := by
  intro t h
  rw [lower, bind_eq_ok] at h
  obtain ⟨operand, lowered, same⟩ := h
  obtain ⟨type, v, found, computes⟩ := agrees operand lowered
  have code : unary .neg operand = .number (.unary .negate operand.toNumber) := by
    rw [unary, if_neg (by rw [type]; decide)]
  rw [← pure_eq_ok.mp same, code]
  refine ⟨rfl, _, ?_, (computes.toNumber (by rw [type]; rfl)).negate⟩
  rw [eval, found]
  rfl

end Operators

/-- Lowering and evaluation agree on the numeric fragment. -/
theorem Agreement.agrees (A : Agreement scope types store read) (fragment : scope.workbook.Numeric)
    {e : Expr} {type : ValueType} (h : e.Numeric scope.workbook type) :
    Agrees scope types store read cell e type := by
  induction h with
  | integer i =>
      intro t lowered
      cases lowered
      exact ⟨rfl, _, rfl, computes_literal rfl⟩
  | number x =>
      intro t lowered
      cases lowered
      exact ⟨rfl, _, rfl, computes_literal rfl⟩
  | value found _ =>
      intro t lowered
      obtain ⟨type, reads, computes⟩ := A.value found lowered
      exact ⟨type, _, reads, computes⟩
  | formula found belongs _ => exact fun t lowered => A.formula found belongs lowered
  | plus _ ih =>
      intro t lowered
      rw [lower, bind_eq_ok] at lowered
      obtain ⟨operand, lowered, same⟩ := lowered
      obtain ⟨type, v, found, computes⟩ := ih operand lowered
      rw [← pure_eq_ok.mp same]
      refine ⟨type, v, ?_, computes⟩
      rw [eval, found]
      rfl
  | negative _ ih => exact agrees_negative ih
  | percent belongs ih => exact agrees_percent belongs.isNumeric ih
  | arithmetic member left right first second =>
      exact agrees_arithmetic member left.isNumeric right.isNumeric first second
  | one named member belongs ih => exact agrees_one named member belongs.isNumeric ih
  | two named member left right first second =>
      exact agrees_two named member left.isNumeric right.isNumeric first second
  | ifError named attempt otherwise first second =>
      exact agrees_ifError named attempt.isNumeric otherwise.isNumeric first second
  | @sequence name f args types named member belongs ih =>
      have numeric := fun arg inside single => (belongs arg inside single).isNumeric
      by_cases npv : f = .npv
      · subst npv
        exact agrees_npv A fragment named numeric ih
      · refine agrees_aggregate A fragment named ?_ numeric ih
        simpa [npv] using member

end SheetCompiler.Lowering
