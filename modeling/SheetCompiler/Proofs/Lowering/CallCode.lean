import SheetCompiler.Proofs.Except
import SheetCompiler.Proofs.Formula.WellFormed
import SheetCompiler.Lowering.Basic

/-!
# The code of a call

What a call that can be lowered is made of, function by function: which arguments were lowered,
which were read as sequences or blocks, and the code they were put into. Everything that is said
about lowered calls follows from this, without going back to the cases of `call`.
-/

namespace SheetCompiler.Lowering

open Code (ValueType)
open Formula (Expr Function Role)

/-- The type of a value that a table lookup returns; an integer is looked up as a number. -/
def lookupType : ValueType → ValueType
  | .integer => .number
  | type => type

/-- The functions of a sequence of numbers, each with its helper. -/
def aggregates : List (Function × String) :=
  [(.sum, "Sum"), (.average, "Average"), (.min, "Min"), (.max, "Max"), (.product, "Product")]

/-- The functions of a sequence of truth values. -/
def logicals : List (Function × String) :=
  [(.and, "And"), (.or, "Or")]

/-- The functions of one number, each with its call target. -/
def numerics : List (Function × String) :=
  [(.abs, "Math.Abs"), (.int, "Math.Floor"), (.sqrt, Code.supportName "Sqrt")]

/-- The functions of two numbers. -/
def numericPairs : List (Function × String) :=
  [(.power, "Power"), (.mod, "Mod"), (.round, "Round"), (.roundUp, "RoundUp"),
    (.roundDown, "RoundDown")]

/-- The functions from text to text. -/
def textuals : List (Function × String) :=
  [(.upper, "Upper"), (.lower, "Lower"), (.trim, "Trim")]

/-- The code of a call of a function with the given arguments. -/
inductive CallCode (scope : Scope) (types : Types) (cell : Address) :
    Function → List Argument → Typed → Prop
  | aggregate {f : Function} {helper : String} {args : List Argument} {its : List Item}
      (known : (f, helper) ∈ aggregates) (read : items scope types cell args = .ok its) :
      CallCode scope types cell f args (.number (.support helper (its.filterMap Item.number?)))
  | npv {rate : Argument} {payments : List Argument} {r : Typed} {its : List Item}
      (first : rate.typed = .ok r) (read : items scope types cell payments = .ok its) :
      CallCode scope types cell .npv (rate :: payments)
        (.number (.support "Npv" (r.toNumber :: its.filterMap Item.number?)))
  | count {args : List Argument} {its : List Item} (read : items scope types cell args = .ok its) :
      CallCode scope types cell .count args (count its)
  | logical {f : Function} {helper : String} {args : List Argument} {its : List Item}
      (known : (f, helper) ∈ logicals) (read : items scope types cell args = .ok its) :
      CallCode scope types cell f args (.boolean (.support helper (its.filterMap Item.boolean?)))
  | not {arg : Argument} {a : Typed} (first : arg.typed = .ok a) :
      CallCode scope types cell .not [arg] (.boolean (.unary .not a.toBoolean))
  | ifThen {test yes : Argument} {t y : Typed} (first : test.typed = .ok t)
      (second : yes.typed = .ok y) :
      CallCode scope types cell .if [test, yes] (conditional t y (.literal (.boolean false)))
  | ifThenElse {test yes no : Argument} {t y n : Typed} (first : test.typed = .ok t)
      (second : yes.typed = .ok y) (third : no.typed = .ok n) :
      CallCode scope types cell .if [test, yes, no] (conditional t y n)
  | ifError {attempt otherwise : Argument} {a o : Typed} (first : attempt.typed = .ok a)
      (second : otherwise.typed = .ok o) :
      CallCode scope types cell .ifError [attempt, otherwise]
        ⟨.support "IfError" [.lambda (a.convert (a.type.unify o.type)),
          .lambda (o.convert (a.type.unify o.type))], a.type.unify o.type⟩
  | choose {index : Argument} {options : List Argument} {i : Typed} {os : List Typed}
      (first : index.typed = .ok i)
      (others : List.Forall₂ (fun (arg : Argument) o => arg.typed = .ok o) options os) :
      CallCode scope types cell .choose (index :: options)
        ⟨.support "Choose"
          (i.toNumber :: os.map fun o => .lambda (o.convert (.unifyAll (os.map Typed.type)))),
          .unifyAll (os.map Typed.type)⟩
  | numeric {f : Function} {target : String} {arg : Argument} {a : Typed}
      (known : (f, target) ∈ numerics) (first : arg.typed = .ok a) :
      CallCode scope types cell f [arg] (.number (.call target [a.toNumber]))
  | numericPair {f : Function} {helper : String} {left right : Argument} {l r : Typed}
      (known : (f, helper) ∈ numericPairs) (first : left.typed = .ok l)
      (second : right.typed = .ok r) :
      CallCode scope types cell f [left, right] (.number (.support helper [l.toNumber, r.toNumber]))
  | concatenate {args : List Argument} {parts : List Code.Expr}
      (each : List.Forall₂ (fun (arg : Argument) part => arg.typed.map Typed.toText = .ok part)
        args parts) :
      CallCode scope types cell .concatenate args (.text (joinTexts parts))
  | len {arg : Argument} {a : Typed} (first : arg.typed = .ok a) :
      CallCode scope types cell .len [arg] ⟨.support "Len" [a.toText], .integer⟩
  | textual {f : Function} {helper : String} {arg : Argument} {a : Typed}
      (known : (f, helper) ∈ textuals) (first : arg.typed = .ok a) :
      CallCode scope types cell f [arg] (.text (.support helper [a.toText]))
  | index {range row : Argument} {column : Option Argument} {b : Block} {r : Typed} {c : Code.Expr}
      (read : block scope types cell range = .ok b) (second : row.typed = .ok r)
      (third : optional column (.number 0.0) Typed.toNumber = .ok c) :
      CallCode scope types cell .index (range :: row :: column.toList)
        ⟨.support "Index" [b.typed (b.elementType 0), b.widthLiteral, r.toNumber, c],
          b.elementType 0⟩
  | match {key range : Argument} {kind : Option Argument} {k : Typed} {b : Block} {c : Code.Expr}
      (first : key.typed = .ok k) (read : block scope types cell range = .ok b)
      (third : optional kind (.number 1.0) Typed.toNumber = .ok c) :
      CallCode scope types cell .match (key :: range :: kind.toList)
        ⟨.support "Match" [k.expr, b.objects, c], .integer⟩
  | vlookup {key range column : Argument} {approximate : Option Argument} {k c : Typed} {b : Block}
      {a : Code.Expr} (first : key.typed = .ok k) (read : block scope types cell range = .ok b)
      (third : column.typed = .ok c)
      (fourth : optional approximate (.boolean true) Typed.toBoolean = .ok a) :
      CallCode scope types cell .vlookup (key :: range :: column :: approximate.toList)
        ⟨fromObject (lookupType (b.elementType 1))
          (.support "VLookup" [k.expr, b.objects, b.widthLiteral, c.toNumber, a]),
          lookupType (b.elementType 1)⟩

variable {scope : Scope} {types : Types} {cell : Address} {f : Function}

theorem arguments_eq_map (args : List Expr) :
    arguments scope types cell args = args.map fun e => ⟨e, lower scope types cell e⟩ := by
  induction args with
  | nil => rfl
  | cons e rest ih => rw [arguments, ih, List.map_cons]

/-- A list of at most one element, as the option that it is. -/
theorem toList_head?_of_length_le {α : Type} {l : List α} (short : l.length ≤ 1) :
    l.head?.toList = l := by
  match l with
  | [] => rfl
  | [a] => rfl
  | a :: b :: rest => simp at short

theorem le_most_of_admits {arity : Function.Arity} {count most : Nat} (h : arity.admits count)
    (bound : arity.most = some most) : count ≤ most := by
  rw [Function.Arity.admits, bound, Bool.and_eq_true] at h
  exact of_decide_eq_true h.2

theorem callCode_of_call {fault : CompileError} {args : List Argument} {t : Typed}
    (admitted : f.arity.admits args.length) (h : call scope types cell fault f args = .ok t) :
    CallCode scope types cell f args t := by
  -- One case for each of the function's own; functions of one family differ in the helper only.
  unfold call at h
  split at h
  case h_1 | h_2 | h_3 | h_4 | h_5 =>
    simp only [Lowering.aggregate, bind_eq_ok, pure_eq_ok] at h
    obtain ⟨its, read, rfl⟩ := h
    exact .aggregate (by decide) read
  case h_6 =>
    simp only [bind_eq_ok, pure_eq_ok] at h
    obtain ⟨r, first, its, read, rfl⟩ := h
    exact .npv first read
  case h_7 =>
    simp only [bind_eq_ok, pure_eq_ok] at h
    obtain ⟨its, read, rfl⟩ := h
    exact .count read
  case h_8 | h_9 =>
    simp only [Lowering.logical, bind_eq_ok, pure_eq_ok] at h
    obtain ⟨its, read, rfl⟩ := h
    exact .logical (by decide) read
  case h_10 =>
    simp only [bind_eq_ok, pure_eq_ok] at h
    obtain ⟨a, first, rfl⟩ := h
    exact .not first
  case h_11 =>
    simp only [bind_eq_ok, pure_eq_ok] at h
    obtain ⟨t, first, y, second, rfl⟩ := h
    exact .ifThen first second
  case h_12 =>
    simp only [bind_eq_ok, pure_eq_ok] at h
    obtain ⟨t, first, y, second, n, third, rfl⟩ := h
    exact .ifThenElse first second third
  case h_13 =>
    simp only [bind_eq_ok, pure_eq_ok] at h
    obtain ⟨a, first, o, second, rfl⟩ := h
    exact .ifError first second
  case h_14 =>
    simp only [bind_eq_ok, pure_eq_ok, mapM_eq_ok] at h
    obtain ⟨i, first, os, others, rfl⟩ := h
    exact .choose first others
  case h_15 | h_16 | h_17 =>
    simp only [Lowering.numeric, bind_eq_ok, pure_eq_ok] at h
    obtain ⟨a, first, rfl⟩ := h
    exact .numeric (by decide) first
  case h_18 | h_19 | h_20 | h_21 | h_22 =>
    simp only [Lowering.numericPair, bind_eq_ok, pure_eq_ok] at h
    obtain ⟨l, first, r, second, rfl⟩ := h
    exact .numericPair (by decide) first second
  case h_23 =>
    simp only [bind_eq_ok, pure_eq_ok, mapM_eq_ok] at h
    obtain ⟨parts, each, rfl⟩ := h
    exact .concatenate each
  case h_24 =>
    simp only [bind_eq_ok, pure_eq_ok] at h
    obtain ⟨a, first, rfl⟩ := h
    exact .len first
  case h_25 | h_26 | h_27 =>
    simp only [Lowering.textual, bind_eq_ok, pure_eq_ok] at h
    obtain ⟨a, first, rfl⟩ := h
    exact .textual (by decide) first
  case h_28 range row column =>
    simp only [bind_eq_ok, pure_eq_ok] at h
    obtain ⟨b, read, c, third, r, second, rfl⟩ := h
    have bound := le_most_of_admits admitted rfl
    have short : column.length ≤ 1 := by
      simp only [List.length_cons] at bound
      omega
    rw [← toList_head?_of_length_le short]
    exact .index read second third
  case h_29 key range kind =>
    simp only [bind_eq_ok, pure_eq_ok] at h
    obtain ⟨k, first, b, read, c, third, rfl⟩ := h
    have bound := le_most_of_admits admitted rfl
    have short : kind.length ≤ 1 := by
      simp only [List.length_cons] at bound
      omega
    rw [← toList_head?_of_length_le short]
    exact .match first read third
  case h_30 key range column approximate =>
    simp only [bind_eq_ok, pure_eq_ok] at h
    obtain ⟨k, first, b, read, a, fourth, c, third, rfl⟩ := h
    have bound := le_most_of_admits admitted rfl
    have short : approximate.length ≤ 1 := by
      simp only [List.length_cons] at bound
      omega
    rw [← toList_head?_of_length_le short]
    exact .vlookup first read third fourth
  case h_31 => cases h

section Fits

variable {args : List Argument} {arg : Argument}

/-- Lowering finds in the argument what a function makes of it. -/
def Argument.Fits (arg : Argument) : Role → Prop
  | .single => ∃ t, arg.typed = .ok t
  | .sequence => arg.expr.isRange ∨ ∃ t, arg.typed = .ok t
  | .block => arg.expr.corners?.isSome

/-- The arguments, the first of them at the given position, have what the function makes of them. -/
def FitsFrom (f : Function) : Nat → List Argument → Prop
  | _, [] => True
  | position, arg :: rest => arg.Fits (f.role position) ∧ FitsFrom f (position + 1) rest

theorem fitsFrom_of_forall (role : Role) {position : Nat} (same : ∀ i ≥ position, f.role i = role)
    (each : ∀ arg ∈ args, arg.Fits role) : FitsFrom f position args := by
  induction args generalizing position with
  | nil => trivial
  | cons arg rest ih =>
      refine ⟨same position (Nat.le_refl _) ▸ each arg List.mem_cons_self, ih ?_ ?_⟩
      · intro i later
        exact same i (Nat.le_of_succ_le later)
      · intro other member
        exact each other (List.mem_cons_of_mem _ member)

theorem fits_of_items {its : List Item} (read : items scope types cell args = .ok its) :
    ∀ arg ∈ args, arg.Fits .sequence := by
  intro arg member
  obtain ⟨parts, each, -⟩ := bind_eq_ok.mp read
  obtain ⟨part, -, found⟩ := exists_right_of_forall₂ (mapM_eq_ok.mp each) member
  rw [itemsOf] at found
  split at found
  case h_1 first last range =>
    refine .inl ?_
    rw [range]
    rfl
  case h_2 =>
    obtain ⟨t, typed, -⟩ := bind_eq_ok.mp found
    exact .inr ⟨t, typed⟩

theorem fits_of_block {b : Block} (read : block scope types cell arg = .ok b) :
    arg.Fits .block := by
  rw [block] at read
  split at read
  case h_1 => cases read
  case h_2 corners => exact Option.isSome_iff_exists.mpr ⟨_, corners⟩

theorem fits_of_optional {absent : Literal} {g : Typed → Code.Expr} {e : Code.Expr}
    {o : Option Argument} (h : optional o absent g = .ok e) :
    ∀ arg ∈ o.toList, arg.Fits .single := by
  intro arg member
  obtain rfl := Option.mem_toList.mp member
  obtain ⟨t, typed, -⟩ := map_eq_ok.mp h
  exact ⟨t, typed⟩

/-- A function that looks something up reads one value from each argument behind its block. -/
theorem role_of_two_le {i : Nat} (known : f ∈ [.index, .match, .vlookup]) (later : 2 ≤ i) :
    f.role i = .single := by
  obtain ⟨i, rfl⟩ := Nat.exists_eq_add_of_le' later
  simp only [List.mem_cons, List.not_mem_nil, or_false] at known
  rcases known with rfl | rfl | rfl <;> rfl

/-- A call is lowered only if every argument is what its function makes of it. -/
theorem CallCode.fits {t : Typed} (h : CallCode scope types cell f args t) : FitsFrom f 0 args := by
  cases h with
  | aggregate known read =>
      have role : ∀ p ∈ aggregates, ∀ i, p.1.role i = .sequence := by
        simp [aggregates, Function.role]
      exact fitsFrom_of_forall _ (fun i _ => role _ known i) (fits_of_items read)
  | npv first read =>
      refine ⟨⟨_, first⟩, fitsFrom_of_forall _ (fun i later => ?_) (fits_of_items read)⟩
      obtain ⟨i, rfl⟩ := Nat.exists_eq_add_of_le' later
      rfl
  | count read => exact fitsFrom_of_forall _ (fun i _ => rfl) (fits_of_items read)
  | logical known read =>
      have role : ∀ p ∈ logicals, ∀ i, p.1.role i = .sequence := by simp [logicals, Function.role]
      exact fitsFrom_of_forall _ (fun i _ => role _ known i) (fits_of_items read)
  | not first => exact ⟨⟨_, first⟩, trivial⟩
  | ifThen first second => exact ⟨⟨_, first⟩, ⟨_, second⟩, trivial⟩
  | ifThenElse first second third => exact ⟨⟨_, first⟩, ⟨_, second⟩, ⟨_, third⟩, trivial⟩
  | ifError first second => exact ⟨⟨_, first⟩, ⟨_, second⟩, trivial⟩
  | choose first others =>
      refine ⟨⟨_, first⟩, fitsFrom_of_forall .single (fun i _ => rfl) fun arg member => ?_⟩
      obtain ⟨o, -, typed⟩ := exists_right_of_forall₂ others member
      exact ⟨o, typed⟩
  | numeric known first =>
      have role : ∀ p ∈ numerics, p.1.role 0 = .single := by decide
      rw [FitsFrom, role _ known]
      exact ⟨⟨_, first⟩, trivial⟩
  | numericPair known first second =>
      have role : ∀ p ∈ numericPairs, p.1.role 0 = .single ∧ p.1.role 1 = .single := by decide
      rw [FitsFrom, FitsFrom, (role _ known).1, (role _ known).2]
      exact ⟨⟨_, first⟩, ⟨_, second⟩, trivial⟩
  | concatenate each =>
      refine fitsFrom_of_forall .single (fun i _ => rfl) fun arg member => ?_
      obtain ⟨part, -, typed⟩ := exists_right_of_forall₂ each member
      obtain ⟨t, typed, -⟩ := map_eq_ok.mp typed
      exact ⟨t, typed⟩
  | len first => exact ⟨⟨_, first⟩, trivial⟩
  | textual known first =>
      have role : ∀ p ∈ textuals, p.1.role 0 = .single := by decide
      rw [FitsFrom, role _ known]
      exact ⟨⟨_, first⟩, trivial⟩
  | index read second third =>
      refine ⟨fits_of_block read, ⟨_, second⟩, fitsFrom_of_forall _ ?_ (fits_of_optional third)⟩
      exact fun i later => role_of_two_le (by decide) later
  | «match» first read third =>
      refine ⟨⟨_, first⟩, fits_of_block read, fitsFrom_of_forall _ ?_ (fits_of_optional third)⟩
      exact fun i later => role_of_two_le (by decide) later
  | vlookup first read third fourth =>
      refine ⟨⟨_, first⟩, fits_of_block read, ⟨_, third⟩,
        fitsFrom_of_forall _ ?_ (fits_of_optional fourth)⟩
      exact fun i later => role_of_two_le (by decide) (Nat.le_of_succ_le later)

end Fits

mutual

/-- Only a well-formed formula can be lowered. -/
theorem wellFormed_of_lower : (e : Expr) → {t : Typed} → lower scope types cell e = .ok t →
    e.wellFormed
  | .literal _, _, _ => rfl
  | .cell _, _, _ => rfl
  | .range .., _, h => nomatch h
  | .unary _ operand, _, h => by
      rw [lower] at h
      obtain ⟨o, lowered, -⟩ := bind_eq_ok.mp h
      exact wellFormed_of_lower operand lowered
  | .binary _ left right, _, h => by
      simp only [lower, bind_eq_ok] at h
      obtain ⟨l, first, r, second, -⟩ := h
      simp [Expr.wellFormed, wellFormed_of_lower left first, wellFormed_of_lower right second]
  | .call name args, _, h => by
      rw [lower] at h
      split at h
      case h_1 => cases h
      case h_2 f named =>
        split at h
        case isFalse => cases h
        case isTrue admitted =>
          have code := callCode_of_call (by simpa [arguments_eq_map] using admitted) h
          simp [Expr.wellFormed, named, admitted, argumentsFit_of_fitsFrom f 0 args code.fits]

/-- Arguments that lowering can use fit what the function makes of them. -/
theorem argumentsFit_of_fitsFrom (g : Function) (position : Nat) : (args : List Expr) →
    FitsFrom g position (arguments scope types cell args) → Formula.argumentsFit g position args
  | [], _ => rfl
  | e :: rest, ⟨first, others⟩ => by
      have later := argumentsFit_of_fitsFrom g (position + 1) rest others
      rw [Formula.argumentsFit, later, Bool.and_true]
      cases role : g.role position with
      | single =>
          rw [role] at first
          obtain ⟨t, lowered⟩ := first
          exact wellFormed_of_lower e lowered
      | sequence =>
          rw [role] at first
          rcases first with range | ⟨t, lowered⟩
          · simp only [show e.isRange = true from range, Bool.true_or]
          · simp only [wellFormed_of_lower e lowered, Bool.or_true]
      | block =>
          rw [role] at first
          exact first

end

end SheetCompiler.Lowering
