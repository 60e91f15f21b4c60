import Mathlib.Data.List.Forall2
import SheetCompiler.Evaluation.Basic

/-!
# Evaluation in two monads

Evaluating an expression uses nothing of its monad but returning, sequencing and failing, and looks
at cells only through its reader. So any relation between two monads that these three operations
respect carries over from the readers to the whole evaluation, and it is enough for the readers to
be related on the cells that the expression references.

This is proved once, function by function. What evaluation does under another memory, another path
or a bound on its depth follows by choosing the relation.
-/

namespace SheetCompiler

/-- The rectangle between a cell and itself is the cell. -/
theorem Address.rectangle_self (a : Address) : rectangle a a = [a] := by
  simp [rectangle, span]

namespace Evaluation

open Formula (Expr Function referencesOf)

/-- A relation between computations in two monads that returning, sequencing and failing respect. -/
structure Simulation (m n : Type → Type) [Monad m] [Monad n] [MonadExceptOf CompileError m]
    [MonadExceptOf CompileError n] where
  rel : {α : Type} → m α → n α → Prop
  rel_pure : ∀ {α : Type} (a : α), rel (pure a) (pure a)
  rel_bind : ∀ {α β : Type} {x : m α} {y : n α} {f : α → m β} {g : α → n β},
    rel x y → (∀ a, rel (f a) (g a)) → rel (x >>= f) (y >>= g)
  rel_throw : ∀ {α : Type} (e : CompileError), rel (throw e : m α) (throw e : n α)

namespace Simulation

variable {m n : Type → Type} [Monad m] [Monad n] [MonadExceptOf CompileError m]
variable [MonadExceptOf CompileError n] (S : Simulation m n)

theorem rel_mapM {α β : Type} {f : α → m β} {g : α → n β} {l : List α}
    (h : ∀ a ∈ l, S.rel (f a) (g a)) : S.rel (l.mapM f) (l.mapM g) := by
  have loop : ∀ (l : List α) (done : List β), (∀ a ∈ l, S.rel (f a) (g a)) →
      S.rel (List.mapM.loop f l done) (List.mapM.loop g l done) := by
    intro l
    induction l with
    | nil => exact fun done _ => S.rel_pure _
    | cons a rest ih =>
        intro done h
        refine S.rel_bind (h a List.mem_cons_self) fun b => ih (b :: done) ?_
        exact fun a member => h a (List.mem_cons_of_mem _ member)
  exact loop l [] h

theorem rel_withCoerced {α : Type} (c : Coerced α) {f : α → m Value} {g : α → n Value}
    (h : ∀ a, S.rel (f a) (g a)) : S.rel (withCoerced c f) (withCoerced c g) := by
  cases c with
  | ok a => exact h a
  | error e => exact S.rel_pure _

theorem rel_withKey (key : Value) {x : m Value} {y : n Value} (h : S.rel x y) :
    S.rel (withKey key x) (withKey key y) := by
  cases key with
  | error e => exact S.rel_pure _
  | number | text | boolean | blank => exact h

section Arguments

variable (read : Address → m Value) (read' : Address → n Value)

/-- Arguments with the same expression whose values are related, as are the readers on the cells
that the expression references. -/
structure ArgumentRel (arg : Argument m) (arg' : Argument n) : Prop where
  expr : arg.expr = arg'.expr
  value : S.rel arg.value arg'.value
  reads : ∀ a ∈ arg.expr.references, S.rel (read a) (read' a)

variable {read read'} {args : List (Argument m)} {args' : List (Argument n)}

theorem rel_sequence (h : List.Forall₂ (S.ArgumentRel read read') args args') :
    S.rel (sequence read args) (sequence read' args') := by
  induction h with
  | nil => exact S.rel_pure _
  | @cons arg arg' _ _ head tail ih =>
      obtain ⟨expr, value⟩ := arg
      obtain ⟨expr', value'⟩ := arg'
      obtain ⟨rfl, related, reads⟩ := head
      have continued (items : List Item) := S.rel_bind (S.rel_pure items) fun items =>
        S.rel_bind ih fun rest => S.rel_pure (items ++ rest)
      cases expr with
      | range first last => exact S.rel_bind (S.rel_mapM reads) fun values => continued _
      | literal | cell | binary | unary | call => exact S.rel_bind related fun v => continued _

theorem rel_concatenation (h : List.Forall₂ (S.ArgumentRel read read') args args')
    (sofar : String) : S.rel (concatenation sofar args) (concatenation sofar args') := by
  induction h generalizing sofar with
  | nil => exact S.rel_pure _
  | cons head tail ih => exact S.rel_bind head.value fun v => S.rel_withCoerced _ fun s => ih _

theorem rel_block (cell : Address) {arg : Argument m} {arg' : Argument n}
    (h : S.ArgumentRel read read' arg arg') :
    S.rel (block read cell arg) (block read' cell arg') := by
  obtain ⟨expr, value⟩ := arg
  obtain ⟨expr', value'⟩ := arg'
  obtain ⟨rfl, -, reads⟩ := h
  cases expr with
  | range first last => exact S.rel_bind (S.rel_mapM reads) fun values => S.rel_pure _
  | cell address =>
      refine S.rel_bind (S.rel_mapM fun a member => reads a ?_) fun values => S.rel_pure _
      simpa [Address.rectangle_self, Expr.references] using member
  | literal | binary | unary | call => exact S.rel_throw _

theorem rel_optionalNumber (h : List.Forall₂ (S.ArgumentRel read read') args args')
    (absent : Float) {f : Float → m Value} {g : Float → n Value} (next : ∀ x, S.rel (f x) (g x)) :
    S.rel (optionalNumber args.head? absent f) (optionalNumber args'.head? absent g) := by
  cases h with
  | nil => exact next absent
  | cons head tail => exact S.rel_bind head.value fun v => S.rel_withCoerced _ next

theorem rel_optionalBoolean (h : List.Forall₂ (S.ArgumentRel read read') args args')
    (absent : Bool) {f : Bool → m Value} {g : Bool → n Value} (next : ∀ b, S.rel (f b) (g b)) :
    S.rel (optionalBoolean args.head? absent f) (optionalBoolean args'.head? absent g) := by
  cases h with
  | nil => exact next absent
  | cons head tail => exact S.rel_bind head.value fun v => S.rel_withCoerced _ next

theorem rel_choose (cell : Address) (h : List.Forall₂ (S.ArgumentRel read read') args args')
    (index : Float) : S.rel (choose cell args index) (choose cell args' index) := by
  have option (i : Nat) : args[i]? = none ∧ args'[i]? = none ∨
      ∃ arg arg', args[i]? = some arg ∧ args'[i]? = some arg' ∧ S.rel arg.value arg'.value := by
    induction h generalizing i with
    | nil => exact .inl ⟨rfl, rfl⟩
    | cons head tail ih =>
        cases i with
        | zero => exact .inr ⟨_, _, rfl, rfl, head.value⟩
        | succ i => exact ih i
  unfold choose
  split
  · exact S.rel_throw _
  · split
    case h_1 i _ =>
      obtain ⟨none, none'⟩ | ⟨arg, arg', found, found', related⟩ := option i
      · rw [none, none']
        exact S.rel_pure _
      · rw [found, found']
        exact related
    case h_2 => exact S.rel_pure _

/-- The calls of every function are related when their arguments are. -/
theorem rel_call (cell : Address) (fault : CompileError) (f : Function)
    (h : List.Forall₂ (S.ArgumentRel read read') args args') :
    S.rel (call read cell fault f args) (call read' cell fault f args') := by
  cases f with
  | sum | average | min | max | product | count | and | or =>
      exact S.rel_bind (S.rel_sequence h) fun items => S.rel_pure _
  | npv =>
      rcases h with _ | ⟨rate, payments⟩
      · exact S.rel_throw _
      · exact S.rel_bind rate.value fun v => S.rel_withCoerced _ fun r =>
          S.rel_bind (S.rel_sequence payments) fun items => S.rel_pure _
  | not | abs | int | sqrt | len | upper | lower | trim =>
      rcases h with _ | ⟨arg, _ | ⟨_, _⟩⟩
      · exact S.rel_throw _
      · exact S.rel_bind arg.value fun v => S.rel_pure _
      · exact S.rel_throw _
  | power | mod | round | roundUp | roundDown =>
      rcases h with _ | ⟨left, _ | ⟨right, _ | ⟨_, _⟩⟩⟩
      · exact S.rel_throw _
      · exact S.rel_throw _
      · exact S.rel_bind left.value fun v => S.rel_withCoerced _ fun x =>
          S.rel_bind right.value fun v => S.rel_pure _
      · exact S.rel_throw _
  | ifError =>
      rcases h with _ | ⟨attempt, _ | ⟨otherwise, _ | ⟨_, _⟩⟩⟩
      · exact S.rel_throw _
      · exact S.rel_throw _
      · refine S.rel_bind attempt.value fun v => ?_
        cases v with
        | error e => exact otherwise.value
        | number | text | boolean | blank => exact S.rel_pure _
      · exact S.rel_throw _
  | «if» =>
      rcases h with _ | ⟨condition, _ | ⟨yes, _ | ⟨no, _ | ⟨_, _⟩⟩⟩⟩
      · exact S.rel_throw _
      · exact S.rel_throw _
      · refine S.rel_bind condition.value fun v => S.rel_withCoerced _ fun b => ?_
        cases b with
        | true => exact yes.value
        | false => exact S.rel_pure _
      · refine S.rel_bind condition.value fun v => S.rel_withCoerced _ fun b => ?_
        cases b with
        | true => exact yes.value
        | false => exact no.value
      · exact S.rel_throw _
  | concatenate => exact S.rel_concatenation h ""
  | index =>
      rcases h with _ | ⟨range, _ | ⟨row, col⟩⟩
      · exact S.rel_throw _
      · exact S.rel_throw _
      · exact S.rel_bind (S.rel_block cell range) fun values => S.rel_bind row.value fun v =>
          S.rel_withCoerced _ fun r => S.rel_optionalNumber col 0.0 fun c => S.rel_pure _
  | «match» =>
      rcases h with _ | ⟨key, _ | ⟨range, kind⟩⟩
      · exact S.rel_throw _
      · exact S.rel_throw _
      · exact S.rel_bind key.value fun k => S.rel_withKey k <|
          S.rel_bind (S.rel_block cell range) fun values =>
            S.rel_optionalNumber kind 1.0 fun t => S.rel_pure _
  | vlookup =>
      rcases h with _ | ⟨key, _ | ⟨range, _ | ⟨col, approximate⟩⟩⟩
      · exact S.rel_throw _
      · exact S.rel_throw _
      · exact S.rel_throw _
      · refine S.rel_bind key.value fun k => S.rel_withKey k <|
          S.rel_bind (S.rel_block cell range) fun values => S.rel_bind col.value fun v =>
            S.rel_withCoerced _ fun c => S.rel_optionalBoolean approximate true fun near =>
              S.rel_withCoerced _ fun found => ?_
        cases found with
        | value v => exact S.rel_pure _
        | outside => exact S.rel_throw _
  | choose =>
      rcases h with _ | ⟨index, options⟩
      · exact S.rel_throw _
      · exact S.rel_bind index.value fun v => S.rel_withCoerced _ fun i =>
          S.rel_choose cell options i

end Arguments

section Expressions

variable {read : Address → m Value} {read' : Address → n Value} {cell : Address}

mutual

/-- Evaluations are related when the readers are related on the cells that the expression
references. -/
theorem rel_eval : (e : Expr) → (∀ a ∈ e.references, S.rel (read a) (read' a)) →
    S.rel (eval read cell e) (eval read' cell e)
  | .literal l, _ => S.rel_pure _
  | .cell address, h => h address List.mem_cons_self
  | .range _ _, _ => S.rel_throw _
  | .unary _ operand, h => S.rel_bind (rel_eval operand h) fun v => S.rel_pure _
  | .binary _ left right, h =>
      S.rel_bind (rel_eval left fun a member => h a (List.mem_append_left _ member)) fun l =>
        S.rel_bind (rel_eval right fun a member => h a (List.mem_append_right _ member)) fun r =>
          S.rel_pure _
  | .call name args, h => by
      have related := rel_arguments args h
      rw [eval, eval]
      split
      · exact S.rel_throw _
      · split
        · exact S.rel_call cell _ _ related
        · exact S.rel_throw _

theorem rel_arguments : (args : List Expr) → (∀ a ∈ referencesOf args, S.rel (read a) (read' a)) →
    List.Forall₂ (S.ArgumentRel read read') (arguments read cell args) (arguments read' cell args)
  | [], _ => .nil
  | e :: rest, h =>
      have head := fun a member => h a (List.mem_append_left _ member)
      have tail := fun a member => h a (List.mem_append_right _ member)
      .cons ⟨rfl, rel_eval e head, head⟩ (rel_arguments rest tail)

end

end Expressions

end Simulation

end Evaluation

end SheetCompiler
