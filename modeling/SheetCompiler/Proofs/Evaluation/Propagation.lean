import SheetCompiler.Proofs.Evaluation.Memory
import SheetCompiler.Proofs.Lowering.Stems

/-!
# Errors travel

An error value in a cell reaches every formula that references the cell, unless a function stops it.
Seven functions can: `IF`, `CHOOSE`, `INDEX` and `VLOOKUP` select among what they reference,
`IFERROR` replaces an error, `COUNT` passes over it and `MATCH` compares with it. All other
functions and all operators give an error as soon as one of their operands is one.

The proof goes the other way. A value that is no error has been computed from values that are none,
and no cell that the formula references was left out on the way.
-/

namespace SheetCompiler.Evaluation

open Formula (Expr Function callsOf referencesOf)
open Lowering (call_of_eval)

/-- The functions that can have a value in spite of an error in a cell that they reference. -/
def stoppers : List Function :=
  [.if, .ifError, .choose, .count, .index, .match, .vlookup]

/-- The value is no error. -/
def Regular (v : Value) : Prop :=
  ∀ e, v ≠ .error e

section Coercions

variable {v : Value}

theorem regular_of_toNumber {x : Float} (h : v.toNumber = .ok x) : Regular v := by
  rintro e rfl
  cases h

theorem regular_of_toText {s : String} (h : v.toText = .ok s) : Regular v := by
  rintro e rfl
  cases h

theorem regular_of_toBoolean {b : Bool} (h : v.toBoolean = .ok b) : Regular v := by
  rintro e rfl
  cases h

theorem exists_of_fromCoerced {α : Type} {c : Coerced α} {f : α → Value}
    (h : Regular (fromCoerced c f)) : ∃ a, c = .ok a := by
  cases c with
  | ok a => exact ⟨a, rfl⟩
  | error e => exact absurd rfl (h e)

theorem regular_of_unary {op : Formula.UnaryOp} (h : Regular (unary op v)) : Regular v := by
  cases op with
  | plus => exact h
  | neg | percent =>
      obtain ⟨x, number⟩ := exists_of_fromCoerced h
      exact regular_of_toNumber number

theorem regular_of_binary {op : Formula.BinaryOp} {l r : Value} (h : Regular (binary op l r)) :
    Regular l ∧ Regular r := by
  constructor
  · rintro e rfl
    exact h e rfl
  · rintro e rfl
    cases l with
    | error e' => exact h e' rfl
    | number | text | boolean | blank => exact h e rfl

end Coercions

section Sequences

variable {items : List Item}

/-- Numbers are only taken from a sequence without errors, also from one whose other items are
passed over. -/
theorem regular_of_numbers {xs : List Float} (h : numbers items = .ok xs) :
    ∀ item ∈ items, Regular item.value := by
  induction items generalizing xs with
  | nil => nofun
  | cons item rest ih =>
      obtain ⟨value, fromRange⟩ := item
      rw [List.forall_mem_cons]
      cases value with
      | error e => cases h
      | number x =>
          obtain ⟨ys, later, -⟩ := bind_eq_ok.mp h
          exact ⟨nofun, ih later⟩
      | text | boolean | blank =>
          cases fromRange with
          | true => exact ⟨nofun, ih h⟩
          | false =>
              obtain ⟨x, -, next⟩ := bind_eq_ok.mp h
              obtain ⟨ys, later, -⟩ := bind_eq_ok.mp next
              exact ⟨nofun, ih later⟩

theorem regular_of_booleans {bs : List Bool} (h : booleans items = .ok bs) :
    ∀ item ∈ items, Regular item.value := by
  induction items generalizing bs with
  | nil => nofun
  | cons item rest ih =>
      obtain ⟨value, fromRange⟩ := item
      rw [List.forall_mem_cons]
      cases value with
      | error e => cases h
      | number | boolean =>
          obtain ⟨b, -, next⟩ := bind_eq_ok.mp h
          obtain ⟨cs, later, -⟩ := bind_eq_ok.mp next
          exact ⟨nofun, ih later⟩
      | text | blank =>
          cases fromRange with
          | true => exact ⟨nofun, ih h⟩
          | false =>
              obtain ⟨b, -, next⟩ := bind_eq_ok.mp h
              obtain ⟨cs, later, -⟩ := bind_eq_ok.mp next
              exact ⟨nofun, ih later⟩

end Sequences

section Calls

variable {read : Address → Except CompileError Value} {cell : Address} {v : Value}
variable {args : List (Argument (Except CompileError))} {arg : Argument (Except CompileError)}

/-- What is computed has a value that is no error. -/
def Succeeds (x : Except CompileError Value) : Prop :=
  ∃ v, x = .ok v ∧ Regular v

/-- An argument without an error: every cell of a range, or the one value of any other
expression. -/
def Argument.Clean (read : Address → Except CompileError Value)
    (arg : Argument (Except CompileError)) : Prop :=
  (∃ first last, arg.expr = .range first last ∧
    ∀ a ∈ Address.rectangle first last, Succeeds (read a)) ∨ Succeeds arg.value

theorem clean_of_toNumber {x : Float} (value : arg.value = .ok v) (number : v.toNumber = .ok x) :
    arg.Clean read :=
  .inr ⟨v, value, regular_of_toNumber number⟩

theorem clean_of_sequence {items : List Item} (h : sequence read args = .ok items)
    (regular : ∀ item ∈ items, Regular item.value) : ∀ arg ∈ args, arg.Clean read := by
  induction args generalizing items with
  | nil => nofun
  | cons arg rest ih =>
      obtain ⟨expr, value⟩ := arg
      rw [sequence] at h
      rw [List.forall_mem_cons]
      cases expr with
      | range first last =>
          obtain ⟨values, reads, next⟩ := bind_eq_ok.mp h
          obtain ⟨here, listed, next⟩ := bind_eq_ok.mp next
          obtain ⟨later, others, made⟩ := bind_eq_ok.mp next
          obtain rfl := pure_eq_ok.mp listed
          obtain rfl := pure_eq_ok.mp made
          rw [List.forall_mem_append] at regular
          refine ⟨.inl ⟨first, last, rfl, ?_⟩, ih others regular.2⟩
          intro a within
          obtain ⟨u, member, found⟩ := exists_right_of_forall₂ (mapM_eq_ok.mp reads) within
          exact ⟨u, found, regular.1 ⟨u, true⟩ (List.mem_map_of_mem member)⟩
      | literal | cell | binary | unary | call =>
          obtain ⟨u, found, next⟩ := bind_eq_ok.mp h
          obtain ⟨here, listed, next⟩ := bind_eq_ok.mp next
          obtain ⟨later, others, made⟩ := bind_eq_ok.mp next
          obtain rfl := pure_eq_ok.mp listed
          obtain rfl := pure_eq_ok.mp made
          rw [List.forall_mem_append] at regular
          exact ⟨.inr ⟨u, found, regular.1 ⟨u, false⟩ List.mem_cons_self⟩, ih others regular.2⟩

theorem clean_of_concatenation {sofar : String} (h : concatenation sofar args = .ok v)
    (regular : Regular v) : ∀ arg ∈ args, arg.Clean read := by
  induction args generalizing sofar with
  | nil => nofun
  | cons arg rest ih =>
      obtain ⟨u, value, next⟩ := bind_eq_ok.mp h
      obtain ⟨s, text, later⟩ := exists_of_withCoerced regular next
      rw [List.forall_mem_cons]
      exact ⟨.inr ⟨u, value, regular_of_toText text⟩, ih later⟩

/-- A function that is no stopper and has a value that is no error has looked at all of its
arguments and found no error. -/
theorem clean_of_call {f : Function} {fault : CompileError} (opens : f ∉ stoppers)
    (h : call read cell fault f args = .ok v) (regular : Regular v) :
    ∀ arg ∈ args, arg.Clean read := by
  cases f with
  | «if» | ifError | choose | count | index | «match» | vlookup => exact absurd (by decide) opens
  | sum | average | min | max | product =>
      obtain ⟨items, taken, made⟩ := bind_eq_ok.mp h
      obtain rfl := pure_eq_ok.mp made
      obtain ⟨xs, numbers⟩ := exists_of_fromCoerced regular
      exact clean_of_sequence taken (regular_of_numbers numbers)
  | and | or =>
      obtain ⟨items, taken, made⟩ := bind_eq_ok.mp h
      obtain rfl := pure_eq_ok.mp made
      obtain ⟨bs, booleans⟩ := exists_of_fromCoerced regular
      exact clean_of_sequence taken (regular_of_booleans booleans)
  | npv =>
      cases args with
      | nil => cases h
      | cons rate payments =>
          obtain ⟨u, value, next⟩ := bind_eq_ok.mp h
          obtain ⟨r, number, later⟩ := exists_of_withCoerced regular next
          obtain ⟨items, taken, made⟩ := bind_eq_ok.mp later
          obtain rfl := pure_eq_ok.mp made
          obtain ⟨xs, numbers⟩ := exists_of_fromCoerced regular
          rw [List.forall_mem_cons]
          exact ⟨clean_of_toNumber value number,
            clean_of_sequence taken (regular_of_numbers numbers)⟩
  | concatenate => exact clean_of_concatenation h regular
  | not =>
      obtain _ | ⟨arg, _ | _⟩ := args
      · cases h
      · obtain ⟨u, value, made⟩ := bind_eq_ok.mp h
        obtain rfl := pure_eq_ok.mp made
        obtain ⟨b, boolean⟩ := exists_of_fromCoerced regular
        rw [List.forall_mem_singleton]
        exact .inr ⟨u, value, regular_of_toBoolean boolean⟩
      · cases h
  | abs | int | sqrt =>
      obtain _ | ⟨arg, _ | _⟩ := args
      · cases h
      · obtain ⟨u, value, made⟩ := bind_eq_ok.mp h
        obtain rfl := pure_eq_ok.mp made
        obtain ⟨x, number⟩ := exists_of_fromCoerced regular
        rw [List.forall_mem_singleton]
        exact clean_of_toNumber value number
      · cases h
  | len | upper | lower | trim =>
      obtain _ | ⟨arg, _ | _⟩ := args
      · cases h
      · obtain ⟨u, value, made⟩ := bind_eq_ok.mp h
        obtain rfl := pure_eq_ok.mp made
        obtain ⟨s, text⟩ := exists_of_fromCoerced regular
        rw [List.forall_mem_singleton]
        exact .inr ⟨u, value, regular_of_toText text⟩
      · cases h
  | power | mod | round | roundUp | roundDown =>
      obtain _ | ⟨left, _ | ⟨right, _ | _⟩⟩ := args
      · cases h
      · cases h
      · obtain ⟨u, value, next⟩ := bind_eq_ok.mp h
        obtain ⟨x, number, later⟩ := exists_of_withCoerced regular next
        obtain ⟨u', value', made⟩ := bind_eq_ok.mp later
        obtain rfl := pure_eq_ok.mp made
        obtain ⟨y, number'⟩ := exists_of_fromCoerced regular
        rw [List.forall_mem_cons, List.forall_mem_singleton]
        exact ⟨clean_of_toNumber value number, clean_of_toNumber value' number'⟩
      · cases h

end Calls

section Expressions

variable {read : Address → Except CompileError Value} {cell : Address} {v : Value}

/-- None of the calls is one of a stopper. -/
def WithoutStoppers (calls : List (String × List Expr)) : Prop :=
  ∀ call ∈ calls, ∀ f, Function.ofName? call.1 = some f → f ∉ stoppers

mutual

/-- An expression without stoppers whose value is no error references no cell with an error. -/
theorem succeeds_of_eval : (e : Expr) → {v : Value} → WithoutStoppers e.calls →
    eval read cell e = .ok v → Regular v → ∀ a ∈ e.references, Succeeds (read a)
  | .literal _, _, _, _, _ => nofun
  | .cell address, v, _, value, regular => by
      intro a member
      obtain rfl := List.mem_singleton.mp member
      exact ⟨v, value, regular⟩
  | .range _ _, _, _, value, _ => nomatch value
  | .unary _ operand, _, opens, value, regular => by
      obtain ⟨u, inner, made⟩ := bind_eq_ok.mp value
      obtain rfl := pure_eq_ok.mp made
      exact succeeds_of_eval operand opens inner (regular_of_unary regular)
  | .binary _ left right, _, opens, value, regular => by
      obtain ⟨l, first, next⟩ := bind_eq_ok.mp value
      obtain ⟨r, second, made⟩ := bind_eq_ok.mp next
      obtain rfl := pure_eq_ok.mp made
      rw [WithoutStoppers, Expr.calls, List.forall_mem_append] at opens
      rw [Expr.references, List.forall_mem_append]
      obtain ⟨regularLeft, regularRight⟩ := regular_of_binary regular
      exact ⟨succeeds_of_eval left opens.1 first regularLeft,
        succeeds_of_eval right opens.2 second regularRight⟩
  | .call name args, _, opens, value, regular => by
      obtain ⟨f, fault, named, value⟩ := call_of_eval value
      rw [WithoutStoppers, Expr.calls, List.forall_mem_cons] at opens
      have clean := clean_of_call (opens.1 f named) value regular
      rw [List.forall_mem_map] at clean
      exact succeeds_of_clean args opens.2 clean

theorem succeeds_of_clean : (args : List Expr) → WithoutStoppers (callsOf args) →
    (∀ e ∈ args, Argument.Clean read ⟨e, eval read cell e⟩) →
    ∀ a ∈ referencesOf args, Succeeds (read a)
  | [], _, _ => nofun
  | e :: rest, opens, clean => by
      rw [WithoutStoppers, callsOf, List.forall_mem_append] at opens
      rw [List.forall_mem_cons] at clean
      rw [referencesOf, List.forall_mem_append]
      refine ⟨?_, succeeds_of_clean rest opens.2 clean.2⟩
      rcases clean.1 with ⟨first, last, range, reads⟩ | ⟨v, value, regular⟩
      · cases range
        exact reads
      · exact succeeds_of_eval e opens.1 value regular

end

end Expressions

section Cells

variable {w : Workbook} {cell a : Address} {e : Expr} {v : Value}

theorem regular_shown : Regular (shown w cell v) ↔ Regular v := by
  cases v with
  | blank =>
      rw [shown]
      refine iff_of_true ?_ (by simp [Regular])
      split <;> simp [Regular]
  | number | text | boolean | error => rfl

/-- What a formula cell shows comes from evaluating its formula with the cell on the path. -/
theorem exists_eval_of_evaluateCell (formula : w.formula? cell = some e)
    (value : evaluateCell w cell = .ok v) :
    ∃ u, eval (valueOf Memory.none w [cell]) cell e = .ok u ∧ v = shown w cell u := by
  obtain ⟨c, found, expr⟩ := Option.bind_eq_some_iff.mp formula
  obtain ⟨u, own, shows⟩ := exists_valueOf_of_evaluateCell value
  refine ⟨u, ?_, shows⟩
  rw [valueOf_none_eq, found] at own
  cases content : c.content with
  | value l => simp [Cell.expr?, content] at expr
  | formula text e' =>
      simp only [Cell.expr?, content, Option.some.injEq] at expr
      simpa [content, expr] using own

/-- An error in a cell that a formula references, directly or through a range, makes the value of
the formula an error, if the formula calls none of the functions that stop errors. -/
theorem evaluateCell_error_of_reference (formula : w.formula? cell = some e)
    (open_ : WithoutStoppers e.calls) (value : evaluateCell w cell = .ok v)
    (reference : a ∈ e.references) {err : ErrorValue}
    (error : evaluateCell w a = .ok (.error err)) :
    ∃ err', v = .error err' := by
  obtain ⟨u, own, rfl⟩ := exists_eval_of_evaluateCell formula value
  by_contra none
  have regular : Regular (shown w cell u) := fun e same => none ⟨e, same⟩
  obtain ⟨u', read, regular'⟩ := succeeds_of_eval e open_ own (regular_shown.mp regular) a reference
  have shows := evaluateCell_eq_ok (hasValue_of_valueOf_none read)
  rw [error] at shows
  exact regular_shown.mpr regular' err (Except.ok.inj shows).symm

/-- The formula of `B1` in the workbook below. -/
def roundedTotal : Expr :=
  .call "TRIM" [.binary .concat (.unary .neg (.call "ROUND"
    [.call "SUM" [.range ⟨"S", 0, 0⟩ ⟨"S", 1, 0⟩], .literal (.integer 1)])) (.literal (.text "%"))]

/-- `A1` negates a text that is no truth value, and `B1` rounds a sum over a range with `A1` in
it. -/
def sharedError : Workbook where
  name := "Shared"
  sheets := ["S"]
  cells := .ofList [
    (⟨"S", 0, 0⟩, ⟨.formula "NOT(\"no\")" (.call "NOT" [.literal (.text "no")]), none, none⟩),
    (⟨"S", 1, 0⟩, ⟨.value (.boolean true), none, none⟩),
    (⟨"S", 0, 1⟩, ⟨.formula "TRIM(-ROUND(SUM(A1:A2),1)&\"%\")" roundedTotal, none, none⟩)]

theorem sharedError_travels : sharedError.formula? ⟨"S", 0, 1⟩ = some roundedTotal ∧
    WithoutStoppers roundedTotal.calls ∧ ⟨"S", 0, 0⟩ ∈ roundedTotal.references ∧
      evaluateCell sharedError ⟨"S", 0, 0⟩ = .ok (.error .value) ∧
      ∃ v, evaluateCell sharedError ⟨"S", 0, 1⟩ = .ok v ∧ ∃ err, v = .error err := by
  have open_ : WithoutStoppers roundedTotal.calls := by
    have names : ∀ call ∈ roundedTotal.calls, call.1 ∈ ["TRIM", "ROUND", "SUM"] := by
      simp [roundedTotal, Expr.calls, callsOf]
    have known : ∀ name ∈ ["TRIM", "ROUND", "SUM"], ∀ f ∈ stoppers,
        Function.ofName? name ≠ some f := by
      decide
    intro call member f named stopper
    exact known call.1 (names call member) f stopper named
  have found : HasValue sharedError ⟨"S", 0, 1⟩ (.error .value) := ⟨3, rfl⟩
  have value := evaluateCell_eq_ok found
  have error : evaluateCell sharedError ⟨"S", 0, 0⟩ = .ok (.error .value) :=
    evaluateCell_eq_ok (v := .error .value) ⟨2, rfl⟩
  have reference : ⟨"S", 0, 0⟩ ∈ roundedTotal.references := by decide
  exact ⟨rfl, open_, reference, error, _, value,
    evaluateCell_error_of_reference rfl open_ value reference error⟩

end Cells

end SheetCompiler.Evaluation
