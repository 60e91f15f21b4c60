import SheetCompiler.Proofs.Lowering.Positions
import SheetCompiler.Proofs.Lowering.Failure
import SheetCompiler.Proofs.Lowering.Quiet

/-!
# Divisions that are found to be by zero

A division by zero is reported while formulas are lowered only if the code of both operands is
constant. As long as value cells are not replaced by their values, this can be told from the
formula: the constants are the literals that are numbers, what stands behind a sign if it is
constant itself, and calls that were folded. Two functions are folded. `COUNT` counts by static
types and is a literal unless a text is given directly, and `CONCATENATE` of one argument is the
text of that argument. Whatever else is a divisor is checked when its value is known.
-/

namespace SheetCompiler

/-- The number that a literal stands for. -/
def Literal.number? : Literal → Option Float
  | .integer i => some (.ofInt i.toInt)
  | .number x => some x
  | .text s => numberOfText? s
  | .boolean b => some (if b then 1.0 else 0.0)

namespace Formula

mutual

/-- The divisions in an expression, each with its two operands. -/
def Expr.divisions : Expr → List (Expr × Expr)
  | .literal _ | .cell _ | .range .. => []
  | .binary op left right =>
    (if op = .div then [(left, right)] else []) ++ (left.divisions ++ right.divisions)
  | .unary _ operand => operand.divisions
  | .call _ args => divisionsOf args

/-- The divisions in a list of expressions. -/
def divisionsOf : List Expr → List (Expr × Expr)
  | [] => []
  | e :: rest => e.divisions ++ divisionsOf rest

end

/-- The number that a literal under signs stands for. In place of the literal there may be a call
whose value is known. -/
def Expr.constant? (known : String → List Expr → Option Float) : Expr → Option Float
  | .literal l => l.number?
  | .unary .plus operand => operand.constant? known
  | .unary .neg operand => (operand.constant? known).map fun x => -x
  | .call name args => known name args
  | .unary .percent _ | .cell _ | .range .. | .binary .. => none

end Formula

namespace Lowering

open Code (ValueType)
open Evaluation (FailsOnly failsOnly_ok failsOnly_throw)
open Formula (Expr Function divisionsOf)

variable {scope : Scope} {types : Types} {cell : Address} {f : Function} {t : Typed}

variable (scope types cell) in
/-- The number that a call was folded to. -/
def foldedCall? (name : String) (args : List Expr) : Option Float :=
  (lower scope types cell (.call name args)).toOption.bind fun t => t.toNumber.constant?

section Constants

theorem constant?_toNumber_literal (l : Literal) :
    (Typed.literal l).toNumber.constant? = l.number? := by
  cases l with
  | integer i => rfl
  | number x => rfl
  | boolean b => rfl
  | text s =>
      simp only [Typed.literal, Typed.toNumber, Literal.number?, ValueType.ofLiteral]
      cases numberOfText? s with
      | none => rfl
      | some x => rfl

theorem constant?_toNumber_of_isComputed (computed : isComputed t.expr) :
    t.toNumber.constant? = none := by
  have none := constant?_of_isComputed computed
  obtain ⟨expr, type⟩ := t
  cases type with
  | number => exact none
  | integer => cases expr with
    | literal l => cases computed
    | null | ident | cast | unary | binary | conditional | call | array | lambda => exact none
  | text | boolean => cases expr with
    | literal l => cases computed
    | null | ident | cast | unary | binary | conditional | call | array | lambda => rfl

/-- Code that stands for a text is constant only if it is a literal. -/
theorem exists_literal_of_text {part : Code.Expr} {x : Float}
    (known : (Typed.text part).toNumber.constant? = some x) : ∃ l, part = .literal l := by
  cases part with
  | literal l => exact ⟨l, rfl⟩
  | null | ident | cast | unary | binary | conditional | call | array | lambda => cases known

theorem isComputed_fromObject (type : ValueType) (e : Code.Expr) :
    isComputed (fromObject type e) := by
  cases type <;> rfl

theorem isComputed_foldl_add (first next : Code.Expr) (rest : List Code.Expr) :
    isComputed ((next :: rest).foldl (fun sum e => .binary .add sum e) first) := by
  rw [List.foldl_cons]
  obtain same | ⟨l, r, same⟩ := foldl_add_cases (.binary .add first next) rest
  · rw [same]
    rfl
  · rw [same]
    rfl

/-- The code of a call is constant only if the function is folded. -/
theorem CallCode.constant_cases {args : List Argument} (code : CallCode scope types cell f args t) :
    (t.toNumber.constant? = none ∧ t.expr.constant? = none) ∨
      (f = .count ∧ ∃ i, t = ⟨.literal (.integer i), .integer⟩) ∨
      (f = .concatenate ∧ args.length = 1 ∧ ∃ part, t = .text part) := by
  have unknown {t : Typed} (computed : isComputed t.expr) :
      t.toNumber.constant? = none ∧ t.expr.constant? = none :=
    ⟨constant?_toNumber_of_isComputed computed, constant?_of_isComputed computed⟩
  cases code with
  | count read =>
      rename_i its
      cases checks : its.filterMap Item.countCheck? with
      | nil =>
          refine .inr (.inl ⟨rfl, .ofNat (its.countP Item.isCounted), ?_⟩)
          rw [Lowering.count, checks]
          rfl
      | cons check rest =>
          refine .inl (unknown ?_)
          rw [Lowering.count, checks]
          exact isComputed_foldl_add _ check rest
  | concatenate each =>
      cases each with
      | nil => exact .inl ⟨by decide +kernel, rfl⟩
      | cons first others =>
          cases others with
          | nil => exact .inr (.inr ⟨rfl, rfl, _, rfl⟩)
          | cons second others => exact .inl (unknown (isComputed_foldl_add _ _ _))
  | vlookup => exact .inl (unknown (isComputed_fromObject _ _))
  | aggregate | npv | logical | not | ifThen | ifThenElse | ifError | choose | numeric | numericPair
  | len | textual | index | «match» => exact .inl (unknown rfl)

theorem isComputed_binary {op : Formula.BinaryOp} {l r : Typed} (h : binary cell op l r = .ok t) :
    isComputed t.expr := by
  cases op with
  | div =>
      obtain ⟨e, divided, rfl⟩ := map_eq_ok.mp h
      obtain rfl | ⟨d, -, -, rfl⟩ := division_cases divided
      · rfl
      · rfl
  | concat | add | sub | mul | pow =>
      cases h
      rfl
  | eq | ne | lt | le | gt | ge =>
      cases h
      rw [comparison]
      split
      case isTrue => rfl
      case isFalse => rfl

theorem isComputed_reference {target : Address} (plain : scope.inlineValues = false)
    (h : scope.reference types cell target = .ok t) : isComputed t.expr := by
  simp only [Scope.reference, plain] at h
  split at h
  case h_1 =>
    cases h
    rfl
  case h_2 =>
    split at h
    case h_1 =>
      cases h
      rfl
    case h_2 =>
      split at h
      case isTrue => cases h
      case isFalse =>
        cases h
        rfl

/-- Whether the code of a formula is constant can be told from the formula. -/
theorem constant?_of_lower (plain : scope.inlineValues = false) : (e : Expr) → ∀ t,
    lower scope types cell e = .ok t →
      t.toNumber.constant? = e.constant? (foldedCall? scope types cell) ∧
      (t.type = .integer → t.expr.constant? = t.toNumber.constant?)
  | .literal l => by
      intro t h
      cases h
      refine ⟨constant?_toNumber_literal l, fun integer => ?_⟩
      cases l with
      | integer i => rfl
      | number | text | boolean => cases integer
  | .cell target => by
      intro t h
      have computed := isComputed_reference plain h
      have none := constant?_toNumber_of_isComputed computed
      exact ⟨none, fun _ => by rw [none, constant?_of_isComputed computed]⟩
  | .range _ _ => by
      intro t h
      cases h
  | .unary op operand => by
      intro t h
      obtain ⟨u, lowered, same⟩ := bind_eq_ok.mp h
      obtain rfl := pure_eq_ok.mp same
      obtain ⟨value, integer⟩ := constant?_of_lower plain operand u lowered
      cases op with
      | plus => exact ⟨value, integer⟩
      | percent => exact ⟨rfl, fun other => by cases other⟩
      | neg =>
          rw [Expr.constant?, ← value, unary]
          split
          case isTrue type =>
            rw [← integer type]
            exact ⟨rfl, fun _ => rfl⟩
          case isFalse => exact ⟨rfl, fun other => by cases other⟩
  | .binary op left right => by
      intro t h
      obtain ⟨l, -, h⟩ := bind_eq_ok.mp h
      obtain ⟨r, -, h⟩ := bind_eq_ok.mp h
      have computed := isComputed_binary h
      have none := constant?_toNumber_of_isComputed computed
      exact ⟨none, fun _ => by rw [none, constant?_of_isComputed computed]⟩
  | .call name args => by
      intro t h
      refine ⟨by rw [Expr.constant?, foldedCall?, h]; rfl, fun integer => ?_⟩
      obtain ⟨f, -, -, code, -⟩ := callCode_of_lower (fun _ => .ok .blank) h
      rcases code.constant_cases with ⟨none, none'⟩ | ⟨-, i, rfl⟩ | ⟨-, -, part, rfl⟩
      · rw [none, none']
      · rfl
      · cases integer

/-- Only `COUNT`, and `CONCATENATE` of one argument, are folded, and their code is a literal
then. -/
theorem exists_literal_of_foldedCall? {name : String} {args : List Expr} {x : Float}
    (folded : foldedCall? scope types cell name args = some x) :
    (Function.ofName? name = some .count ∨
        Function.ofName? name = some .concatenate ∧ args.length = 1) ∧
      ∃ l type, lower scope types cell (.call name args) = .ok ⟨.literal l, type⟩ := by
  obtain ⟨t, lowered, known⟩ := Option.bind_eq_some_iff.mp folded
  cases h : lower scope types cell (.call name args) with
  | error e =>
      rw [h] at lowered
      cases lowered
  | ok u =>
      rw [h] at lowered
      cases lowered
      obtain ⟨f, -, named, code, -⟩ := callCode_of_lower (fun _ => .ok .blank) h
      rcases code.constant_cases with ⟨none, -⟩ | ⟨rfl, i, rfl⟩ | ⟨rfl, single, part, rfl⟩
      · rw [none] at known
        cases known
      · exact ⟨.inl named, _, _, rfl⟩
      · obtain ⟨l, rfl⟩ := exists_literal_of_text known
        exact ⟨.inr ⟨named, by simpa using single⟩, l, _, rfl⟩

end Constants

section Divisions

variable {left right : Expr} {l r : Typed}

variable (scope types cell) in
/-- Both operands are constant, and the divisor is zero. -/
def DividesByZero (left right : Expr) : Prop :=
  (left.constant? (foldedCall? scope types cell)).isSome ∧
    ∃ d, right.constant? (foldedCall? scope types cell) = some d ∧ d == 0.0

theorem lower_binary (op : Formula.BinaryOp) (first : lower scope types cell left = .ok l)
    (second : lower scope types cell right = .ok r) :
    lower scope types cell (.binary op left right) = binary cell op l r := by
  rw [lower, first, second]
  rfl

/-- A division whose operands can be lowered fails exactly if it is by zero. -/
theorem lower_div_eq_error_iff (plain : scope.inlineValues = false)
    (first : lower scope types cell left = .ok l) (second : lower scope types cell right = .ok r)
    {err : CompileError} :
    lower scope types cell (.binary .div left right) = .error err ↔
      err = .divisionByZero cell ∧ DividesByZero scope types cell left right := by
  rw [lower_binary .div first second, binary, map_eq_error, division_eq_error_iff, DividesByZero,
    (constant?_of_lower plain left l first).1, (constant?_of_lower plain right r second).1]

/-- A divisor that is not constant is checked when its value is known. -/
theorem lower_div_of_constant?_eq_none (plain : scope.inlineValues = false)
    (first : lower scope types cell left = .ok l) (second : lower scope types cell right = .ok r)
    (unknown : right.constant? (foldedCall? scope types cell) = none) :
    lower scope types cell (.binary .div left right) =
      .ok (.number (.support "Divide" [l.toNumber, r.toNumber])) := by
  rw [← (constant?_of_lower plain right r second).1] at unknown
  rw [lower_binary .div first second, binary, division, unknown]
  cases l.toNumber.constant? with
  | none => rfl
  | some x => rfl

end Divisions

section Failures

variable (scope types cell) in
/-- The failure is a division by zero only if one of the divisions is by zero. -/
def Reports (divisions : List (Expr × Expr)) (err : CompileError) : Prop :=
  ∀ c, err = .divisionByZero c →
    c = cell ∧ ∃ left right, (left, right) ∈ divisions ∧ DividesByZero scope types cell left right

theorem reports_invalidArguments (divisions : List (Expr × Expr)) (fault : ArgumentFault) :
    Reports scope types cell divisions (.invalidArguments cell fault) := by
  intro c same
  cases same

theorem reports_unsupportedFunction (divisions : List (Expr × Expr)) (name : String) :
    Reports scope types cell divisions (.unsupportedFunction name cell) := by
  intro c same
  cases same

theorem reports_mono {α : Type} {x : Except CompileError α}
    {divisions divisions' : List (Expr × Expr)} (fewer : divisions ⊆ divisions')
    (h : FailsOnly (Reports scope types cell divisions) x) :
    FailsOnly (Reports scope types cell divisions') x := by
  intro err failed c same
  obtain ⟨here, left, right, member, zero⟩ := h err failed c same
  exact ⟨here, left, right, fewer member, zero⟩

theorem reports_reference (divisions : List (Expr × Expr)) (target : Address) :
    FailsOnly (Reports scope types cell divisions) (scope.reference types cell target) := by
  rw [Scope.reference]
  split
  case h_1 => exact failsOnly_ok _
  case h_2 =>
    split
    case h_1 => exact failsOnly_ok _
    case h_2 =>
      split
      case isTrue => exact failsOnly_throw (reports_invalidArguments _ _)
      case isFalse =>
        split
        case isTrue => exact failsOnly_ok _
        case isFalse => exact failsOnly_ok _

mutual

/-- A formula reports a division by zero only if it has one. -/
theorem reports_lower (plain : scope.inlineValues = false) : (e : Expr) →
    FailsOnly (Reports scope types cell e.divisions) (lower scope types cell e)
  | .literal _ => failsOnly_ok _
  | .cell target => reports_reference _ target
  | .range _ _ => failsOnly_throw (reports_invalidArguments _ _)
  | .unary _ operand => (reports_lower plain operand).bind fun t _ => failsOnly_ok _
  | .binary op left right => by
      have operands : left.divisions ++ right.divisions ⊆ (Expr.binary op left right).divisions :=
        List.subset_append_right _ _
      have first := reports_mono (List.Subset.trans (List.subset_append_left _ _) operands)
        (reports_lower plain left)
      have second := reports_mono (List.Subset.trans (List.subset_append_right _ _) operands)
        (reports_lower plain right)
      refine first.bind fun l lowered => second.bind fun r lowered' => ?_
      intro err failed
      cases op with
      | div =>
          rw [← lower_binary .div lowered lowered',
            lower_div_eq_error_iff plain lowered lowered'] at failed
          obtain ⟨rfl, zero⟩ := failed
          intro c same
          cases same
          exact ⟨rfl, left, right, List.mem_cons_self, zero⟩
      | concat | add | sub | mul | pow | eq | ne | lt | le | gt | ge => cases failed
  | .call name args => by
      rw [lower]
      split
      case h_1 => exact failsOnly_throw (reports_unsupportedFunction _ name)
      case h_2 f named =>
        split
        case isFalse => exact failsOnly_throw (reports_invalidArguments _ _)
        case isTrue =>
          exact failsOnly_call (reports_arguments plain args) (reports_invalidArguments _ _)
            (reports_invalidArguments _ _)

theorem reports_arguments (plain : scope.inlineValues = false) : (args : List Expr) →
    ∀ arg ∈ arguments scope types cell args,
      Tame (Reports scope types cell (divisionsOf args)) scope types cell arg
  | [] => by simp [arguments]
  | e :: rest => by
      rw [arguments, List.forall_mem_cons]
      have own :=
        reports_mono (List.subset_append_left _ (divisionsOf rest)) (reports_lower plain e)
      refine ⟨⟨own, fun target _ => reports_reference _ target⟩, fun arg member => ?_⟩
      have tame := reports_arguments plain rest arg member
      exact ⟨reports_mono (List.subset_append_right _ _) tame.typed,
        fun target _ => reports_reference _ target⟩

end

end Failures

/-- A division by zero is reported only for a formula in which a constant is divided by the constant
zero. Constants are literals under signs and folded calls, and of all functions only `COUNT`, and
`CONCATENATE` of one argument, are folded. Any other divisor is checked when its value is known. -/
theorem statements_divisionByZero (w : Workbook) (order : List Address) :
    (∀ c, statements w false order = .error (.divisionByZero c) →
      ∃ done rest before e left right, order = done ++ c :: rest ∧
        statements w false done = .ok before ∧ w.formula? c = some e ∧ (left, right) ∈ e.divisions ∧
        DividesByZero (Scope.ofWorkbook w false) (typesOf before) c left right) ∧
    (∀ types cell left right l r, lower (Scope.ofWorkbook w false) types cell left = .ok l →
      lower (Scope.ofWorkbook w false) types cell right = .ok r →
        (lower (Scope.ofWorkbook w false) types cell (.binary .div left right) =
            .error (.divisionByZero cell) ↔
          DividesByZero (Scope.ofWorkbook w false) types cell left right) ∧
        (right.constant? (foldedCall? (Scope.ofWorkbook w false) types cell) = none →
          lower (Scope.ofWorkbook w false) types cell (.binary .div left right) =
            .ok (.number (.support "Divide" [l.toNumber, r.toNumber])))) ∧
    ∀ types cell name args x, foldedCall? (Scope.ofWorkbook w false) types cell name args = some x →
      (Function.ofName? name = some .count ∨
        Function.ofName? name = some .concatenate ∧ args.length = 1) ∧
      ∃ l type, lower (Scope.ofWorkbook w false) types cell (.call name args) =
        .ok ⟨.literal l, type⟩ := by
  refine ⟨?_, ?_, ?_⟩
  · intro c failed
    obtain ⟨done, a, rest, before, e, split, made, found, here⟩ := statements_eq_error failed
    obtain ⟨rfl, left, right, member, zero⟩ := reports_lower rfl e _ here c rfl
    exact ⟨done, rest, before, e, left, right, split, made, found, member, zero⟩
  · intro types cell left right l r first second
    refine ⟨?_, lower_div_of_constant?_eq_none rfl first second⟩
    rw [lower_div_eq_error_iff rfl first second]
    exact and_iff_right rfl
  · intro types cell name args x folded
    exact exists_literal_of_foldedCall? folded

/-- A share of what is counted in two cells that are missing. -/
def shareOfNone : Workbook where
  name := "Share"
  sheets := ["S"]
  cells := .ofList [(⟨"S", 0, 0⟩, ⟨.formula "1/COUNT(B1:B2)" (.binary .div (.literal (.integer 1))
    (.call "COUNT" [.range ⟨"S", 0, 1⟩ ⟨"S", 1, 1⟩])), none, none⟩)]

/-- The divisor is a call, and no literal under signs, but it is folded to zero. -/
theorem shareOfNone_divisionByZero :
    statements shareOfNone false [⟨"S", 0, 0⟩] = .error (.divisionByZero ⟨"S", 0, 0⟩) ∧
      ∃ before left right, (left, right) ∈ (Expr.binary .div (.literal (.integer 1))
          (.call "COUNT" [.range ⟨"S", 0, 1⟩ ⟨"S", 1, 1⟩])).divisions ∧
        DividesByZero (Scope.ofWorkbook shareOfNone false) (typesOf before) ⟨"S", 0, 0⟩ left right ∧
        right.constant? (fun _ _ => none) = none := by
  have failed : (statements shareOfNone false [⟨"S", 0, 0⟩]).map List.length =
      .error (.divisionByZero ⟨"S", 0, 0⟩) := by decide +kernel
  rw [map_eq_error] at failed
  refine ⟨failed, ?_⟩
  obtain ⟨done, rest, before, e, left, right, -, -, found, member, zero⟩ :=
    (statements_divisionByZero shareOfNone [⟨"S", 0, 0⟩]).1 _ failed
  cases found
  refine ⟨before, left, right, member, zero, ?_⟩
  obtain ⟨rfl, rfl⟩ : left = .literal (.integer 1) ∧
      right = .call "COUNT" [.range ⟨"S", 0, 1⟩ ⟨"S", 1, 1⟩] := by
    simpa [Expr.divisions, divisionsOf] using member
  rfl

end Lowering

end SheetCompiler
