import SheetCompiler.Proofs.ClassFile.Deferral

/-!
# Kinds of made values

An expression makes its value, or it hands on a value of another place: that of a cell it refers to,
or that of one of several parts, between which a choice or a lookup decides. What is made has the
kind that lowering says, for a literal and for every operator and function, unless it is an error.
-/

namespace SheetCompiler

namespace Formula

/-- References to the cells of a block. -/
def Expr.blockCells (block : Expr) : List Expr :=
  match block.corners? with
  | some (first, last) => (Address.rectangle first last).map .cell
  | none => []

/-- The parts of a call, one of which gives it its value; none where the function makes a value of
its own. -/
def Function.handedOn? : Function → List Expr → Option (List Expr)
  | .if, [_, yes] => some [yes, .literal (.boolean false)]
  | .if, [_, yes, no] => some [yes, no]
  | .ifError, [attempt, otherwise] => some [attempt, otherwise]
  | .choose, _ :: options => some options
  | .index, block :: _ => some block.blockCells
  | .vlookup, _ :: block :: _ => some block.blockCells
  | _, _ => none

/-- The parts of an expression, one of which gives it its value; none where it makes its value
itself. A reference has its value from elsewhere. -/
def Expr.handedOn? : Expr → Option (List Expr)
  | .cell _ => some []
  | .unary .plus operand => some [operand]
  | .call name args => (Function.ofName? name).bind fun f => f.handedOn? args
  | _ => none

end Formula

namespace Lowering

open Code (ValueType)
open Evaluation (eval fromCoerced withCoerced)
open Formula (Expr Function)

section Kinds

variable {type : ValueType} {v : Value}

/-- The value is of the type. An integer is a number. -/
def IsOf (type : ValueType) : Value → Prop
  | .number _ => type.isNumeric
  | .text _ => type = .text
  | .boolean _ => type = .boolean
  | .error _ | .blank => False

/-- The value is of the type, or an error. -/
def MadeAs (type : ValueType) (v : Value) : Prop :=
  (∃ e, v = .error e) ∨ IsOf type v

theorem isOf_literal (l : Literal) : IsOf (.ofLiteral l) (.ofLiteral l) := by
  cases l <;> rfl

theorem madeAs_error (e : ErrorValue) : MadeAs type (.error e) :=
  .inl ⟨e, rfl⟩

theorem madeAs_text (s : String) : MadeAs .text (.text s) :=
  .inr rfl

theorem madeAs_boolean (b : Bool) : MadeAs .boolean (.boolean b) :=
  .inr rfl

theorem madeAs_number (x : Float) : MadeAs .number (.number x) :=
  .inr rfl

theorem madeAs_of_isNumeric (h : IsNumeric v) : MadeAs .number v := by
  cases h with
  | number x => exact madeAs_number x
  | error e => exact madeAs_error e

theorem madeAs_fromCoerced {α : Type} {c : Coerced α} {f : α → Value} (h : ∀ a, MadeAs type (f a)) :
    MadeAs type (fromCoerced c f) := by
  cases c with
  | ok a => exact h a
  | error e => exact madeAs_error e

theorem madeAs_of_withCoerced {α : Type} {c : Coerced α} {next : α → Except CompileError Value}
    (h : withCoerced c next = .ok v) (each : ∀ a, next a = .ok v → MadeAs type v) :
    MadeAs type v := by
  cases c with
  | ok a => exact each a h
  | error e =>
      cases h
      exact madeAs_error e

end Kinds

section Operators

variable {cell : Address} {t : Typed}

theorem madeAs_unary {op : Formula.UnaryOp} (makes : op ≠ .plus) (operand : Typed) (v : Value) :
    MadeAs (unary op operand).type (Evaluation.unary op v) := by
  have number (type : ValueType) (numeric : type.isNumeric) (f : Float → Float) :
      MadeAs type (fromCoerced v.toNumber fun x => .number (f x)) :=
    madeAs_fromCoerced fun x => .inr numeric
  cases op with
  | plus => exact absurd rfl makes
  | percent => exact number .number rfl _
  | neg =>
      rw [unary]
      split
      · exact number .integer rfl _
      · exact number .number rfl _

/-- The type of the value of an operator between two operands. -/
def resultType (op : Formula.BinaryOp) : ValueType :=
  if op = .concat then .text else if op.isComparison then .boolean else .number

theorem type_of_binary {op : Formula.BinaryOp} {left right : Typed}
    (h : binary cell op left right = .ok t) : t.type = resultType op := by
  have compared (op : Formula.BinaryOp) : (comparison op left right).type = .boolean := by
    rw [comparison]
    split <;> rfl
  cases op with
  | div =>
      obtain ⟨e, -, rfl⟩ := map_eq_ok.mp h
      rfl
  | add | sub | mul | pow | concat =>
      cases h
      rfl
  | eq | ne | lt | le | gt | ge =>
      cases h
      exact compared _

theorem isNumeric_arithmetic (op : Formula.BinaryOp) (x y : Float) :
    IsNumeric (Evaluation.arithmetic op x y) := by
  cases op
  case add | sub | mul => exact .number _
  case div => exact isNumeric_divide x y
  all_goals exact isNumeric_ite (.number _) (.error _)

theorem madeAs_binary (op : Formula.BinaryOp) (u v : Value) :
    MadeAs (resultType op) (Evaluation.binary op u v) := by
  unfold Evaluation.binary
  split
  · exact madeAs_error _
  · exact madeAs_error _
  · rw [resultType]
    split
    · exact madeAs_text _
    · split
      · exact madeAs_boolean _
      · exact madeAs_of_isNumeric (isNumeric_fromCoerced fun x =>
          isNumeric_fromCoerced fun y => isNumeric_arithmetic op x y)

end Operators

section Calls

variable {scope : Scope} {types : Types} {cell : Address} {t : Typed} {v : Value}
variable {read : Address → Except CompileError Value}

theorem madeAs_concatenation {args : List (Evaluation.Argument (Except CompileError))}
    {sofar : String} (h : Evaluation.concatenation sofar args = .ok v) : MadeAs .text v := by
  induction args generalizing sofar with
  | nil =>
      cases h
      exact madeAs_text sofar
  | cons arg rest ih =>
      obtain ⟨u, -, joined⟩ := bind_eq_ok.mp h
      exact madeAs_of_withCoerced joined fun s => ih

theorem madeAs_logical (f : Function) (bs : List Bool) :
    MadeAs .boolean (Evaluation.logical f bs) := by
  rw [Evaluation.logical]
  split
  · exact madeAs_error _
  · exact madeAs_boolean _

theorem call_logical {f : Function} {helper : String} {fault : CompileError}
    (known : (f, helper) ∈ logicals) (args : List (Evaluation.Argument (Except CompileError))) :
    Evaluation.call read cell fault f args = (do
      return fromCoerced (Evaluation.booleans (← Evaluation.sequence read args))
        (Evaluation.logical f)) := by
  simp only [logicals, List.mem_cons, Prod.mk.injEq, List.not_mem_nil, or_false] at known
  rcases known with ⟨rfl, rfl⟩ | ⟨rfl, rfl⟩ <;> rfl

theorem madeAs_textual {f : Function} {helper : String} (known : (f, helper) ∈ textuals)
    (s : String) : MadeAs .text (Evaluation.textual f s) := by
  simp only [textuals, List.mem_cons, Prod.mk.injEq, List.not_mem_nil, or_false] at known
  rcases known with ⟨rfl, rfl⟩ | ⟨rfl, rfl⟩ | ⟨rfl, rfl⟩ <;> exact madeAs_text _

theorem madeAs_match {key range : Evaluation.Argument (Except CompileError)}
    {kind : List (Evaluation.Argument (Except CompileError))} {fault : CompileError}
    (h : Evaluation.call read cell fault .match (key :: range :: kind) = .ok v) :
    MadeAs .integer v := by
  have number (c : Coerced Nat) :
      MadeAs .integer (fromCoerced c fun n => .number (.ofNat n)) :=
    madeAs_fromCoerced fun n => .inr rfl
  obtain ⟨k, -, h⟩ := bind_eq_ok.mp h
  cases k with
  | error e =>
      cases h
      exact madeAs_error e
  | number | text | boolean | blank =>
      obtain ⟨b, -, h⟩ := bind_eq_ok.mp h
      cases kind with
      | nil =>
          cases h
          exact number _
      | cons first rest =>
          obtain ⟨u, -, h⟩ := bind_eq_ok.mp h
          refine madeAs_of_withCoerced h fun x found => ?_
          cases found
          exact number _

/-- A call that makes its value makes one of its type. -/
theorem madeAs_call {name : String} {args : List Expr}
    (makes : (Expr.call name args).handedOn? = none)
    (lowered : lower scope types cell (.call name args) = .ok t)
    (value : eval read cell (.call name args) = .ok v) : MadeAs t.type v := by
  obtain ⟨f, fault, named, code, evaluated⟩ := callCode_of_lower read lowered
  rw [evaluated] at value
  simp only [Expr.handedOn?, named, Option.bind_some] at makes
  generalize listed : args.map (fun e => (⟨e, lower scope types cell e⟩ : Argument)) = found at code
  cases code with
  | aggregate known static =>
      rw [call_aggregate known] at value
      obtain ⟨items, -, rfl⟩ := map_eq_ok.mp value
      exact madeAs_of_isNumeric (isNumeric_fromCoerced (isNumeric_aggregate f))
  | npv first static =>
      obtain ⟨rate, payments, rfl, rfl, rfl⟩ := List.map_eq_cons_iff.mp listed
      obtain ⟨u, -, value⟩ := bind_eq_ok.mp value
      refine madeAs_of_withCoerced value fun r value => ?_
      obtain ⟨items, -, rfl⟩ := map_eq_ok.mp value
      exact madeAs_fromCoerced fun xs => madeAs_number _
  | count static =>
      obtain ⟨items, -, rfl⟩ := map_eq_ok.mp value
      exact .inr rfl
  | logical known static =>
      rw [call_logical known] at value
      obtain ⟨items, -, rfl⟩ := map_eq_ok.mp value
      exact madeAs_fromCoerced (madeAs_logical f)
  | not first =>
      obtain ⟨e, rfl, rfl⟩ := List.map_eq_singleton_iff.mp listed
      obtain ⟨u, -, rfl⟩ := map_eq_ok.mp value
      exact madeAs_fromCoerced fun b => madeAs_boolean _
  | ifThen first second =>
      obtain ⟨test, rest, rfl, rfl, single⟩ := List.map_eq_cons_iff.mp listed
      obtain ⟨yes, rfl, rfl⟩ := List.map_eq_singleton_iff.mp single
      cases makes
  | ifThenElse first second third =>
      obtain ⟨test, rest, rfl, rfl, pair⟩ := List.map_eq_cons_iff.mp listed
      obtain ⟨yes, rest, rfl, rfl, single⟩ := List.map_eq_cons_iff.mp pair
      obtain ⟨no, rfl, rfl⟩ := List.map_eq_singleton_iff.mp single
      cases makes
  | ifError first second =>
      obtain ⟨attempt, rest, rfl, rfl, single⟩ := List.map_eq_cons_iff.mp listed
      obtain ⟨otherwise, rfl, rfl⟩ := List.map_eq_singleton_iff.mp single
      cases makes
  | choose first others =>
      obtain ⟨index, options, rfl, rfl, rfl⟩ := List.map_eq_cons_iff.mp listed
      cases makes
  | numeric known first =>
      obtain ⟨e, rfl, rfl⟩ := List.map_eq_singleton_iff.mp listed
      rw [List.map_singleton, call_numeric known] at value
      obtain ⟨u, -, rfl⟩ := map_eq_ok.mp value
      exact madeAs_of_isNumeric (isNumeric_fromCoerced (isNumeric_numeric f))
  | numericPair known first second =>
      obtain ⟨left, rest, rfl, rfl, single⟩ := List.map_eq_cons_iff.mp listed
      obtain ⟨right, rfl, rfl⟩ := List.map_eq_singleton_iff.mp single
      rw [List.map_cons, List.map_singleton, call_numericPair known] at value
      obtain ⟨u, -, value⟩ := bind_eq_ok.mp value
      refine madeAs_of_withCoerced value fun x value => ?_
      obtain ⟨u', -, rfl⟩ := map_eq_ok.mp value
      exact madeAs_of_isNumeric (isNumeric_fromCoerced (isNumeric_numericPair f x))
  | concatenate lowered => exact madeAs_concatenation value
  | len first =>
      obtain ⟨e, rfl, rfl⟩ := List.map_eq_singleton_iff.mp listed
      obtain ⟨u, -, rfl⟩ := map_eq_ok.mp value
      exact madeAs_fromCoerced fun s => .inr rfl
  | textual known first =>
      obtain ⟨e, rfl, rfl⟩ := List.map_eq_singleton_iff.mp listed
      rw [List.map_singleton, call_textual known] at value
      obtain ⟨u, -, rfl⟩ := map_eq_ok.mp value
      exact madeAs_fromCoerced (madeAs_textual known)
  | index read second third =>
      obtain ⟨block, rest, rfl, rfl, others⟩ := List.map_eq_cons_iff.mp listed
      cases makes
  | «match» first read third =>
      obtain ⟨key, rest, rfl, rfl, others⟩ := List.map_eq_cons_iff.mp listed
      obtain ⟨block, rest, rfl, rfl, others⟩ := List.map_eq_cons_iff.mp others
      exact madeAs_match value
  | vlookup first read third fourth =>
      obtain ⟨key, rest, rfl, rfl, others⟩ := List.map_eq_cons_iff.mp listed
      obtain ⟨block, rest, rfl, rfl, others⟩ := List.map_eq_cons_iff.mp others
      cases makes

/-- What an expression makes is of the type that lowering says. -/
theorem madeAs_of_lower {e : Expr} (makes : e.handedOn? = none)
    (lowered : lower scope types cell e = .ok t) (value : eval read cell e = .ok v) :
    MadeAs t.type v := by
  cases e with
  | literal l =>
      cases lowered
      cases value
      exact .inr (isOf_literal l)
  | cell a => cases makes
  | range first last => cases lowered
  | unary op operand =>
      obtain ⟨o, -, rfl⟩ := map_eq_ok.mp lowered
      obtain ⟨u, -, rfl⟩ := map_eq_ok.mp value
      refine madeAs_unary ?_ o u
      rintro rfl
      cases makes
  | binary op left right =>
      simp only [lower, bind_eq_ok] at lowered
      obtain ⟨l, -, r, -, joined⟩ := lowered
      simp only [eval, bind_eq_ok, pure_eq_ok] at value
      obtain ⟨u, -, u', -, rfl⟩ := value
      rw [type_of_binary joined]
      exact madeAs_binary op u u'
  | call name args => exact madeAs_call makes lowered value

end Calls

end Lowering

end SheetCompiler
