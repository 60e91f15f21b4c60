import Mathlib.Data.Int.CardIntervalMod
import SheetCompiler.Proofs.Evaluation.Simulation
import SheetCompiler.Proofs.Except
import SheetCompiler.Proofs.Formula.WellFormed

/-!
# How evaluation fails

An expression fails to evaluate for one of three reasons: a cell that it references fails to be
read, it selects by an index that is not a number, or it is not well formed. This is proved for any
property of failures, so that a property of all failures that reading can have carries over to the
expression.

The functions are gone through once, each against the table of what it makes of its arguments.
-/

namespace SheetCompiler.Evaluation

open Formula (Expr Function Role referencesOf selectorsOf argumentsFit)

/-- If the computation fails, its failure has the property. -/
def FailsOnly (P : CompileError → Prop) {α : Type} (x : Except CompileError α) : Prop :=
  ∀ e, x = .error e → P e

section Sequencing

variable {P : CompileError → Prop} {α β : Type}

theorem failsOnly_ok (a : α) : FailsOnly P (.ok a) :=
  fun _ failed => nomatch failed

theorem failsOnly_throw {e : CompileError} (h : P e) :
    FailsOnly P (throw e : Except CompileError α) := by
  intro e' failed
  cases failed
  exact h

/-- What follows a computation is only run on what the computation returned. -/
theorem FailsOnly.bind {x : Except CompileError α} {f : α → Except CompileError β}
    (first : FailsOnly P x) (next : ∀ a, x = .ok a → FailsOnly P (f a)) :
    FailsOnly P (x >>= f) := by
  cases x with
  | error e =>
      intro e' failed
      cases failed
      exact first e rfl
  | ok a => exact next a rfl

theorem FailsOnly.mapM {f : α → Except CompileError β} {l : List α}
    (h : ∀ a ∈ l, FailsOnly P (f a)) : FailsOnly P (l.mapM f) := by
  induction l with
  | nil => exact failsOnly_ok []
  | cons a rest ih =>
      rw [List.mapM_cons]
      refine (h a List.mem_cons_self).bind fun b _ => ?_
      refine (ih fun a member => h a (List.mem_cons_of_mem _ member)).bind fun bs _ => ?_
      exact failsOnly_ok (b :: bs)

theorem failsOnly_withCoerced {c : Coerced α} {next : α → Except CompileError Value}
    (h : ∀ a, c = .ok a → FailsOnly P (next a)) : FailsOnly P (withCoerced c next) := by
  cases c with
  | ok a => exact h a rfl
  | error e => exact failsOnly_ok _

theorem FailsOnly.withKey {key : Value} {next : Except CompileError Value} (h : FailsOnly P next) :
    FailsOnly P (withKey key next) := by
  cases key with
  | error e => exact failsOnly_ok _
  | number | text | boolean | blank => exact h

end Sequencing

section Blocks

theorem length_rectangle (first last : Address) : (Address.rectangle first last).length =
    (last.row + 1 - first.row) * (last.col + 1 - first.col) := by
  simp [Address.rectangle, Address.span, List.length_flatMap]

/-- The cells of a rectangle make whole rows; corners in the wrong order have no cells between
them. -/
theorem width_dvd_length_rectangle (first last : Address) :
    Address.width first last ∣ (Address.rectangle first last).length := by
  rw [length_rectangle, Address.width]
  split
  case isTrue => exact Nat.dvd_mul_left _ _
  case isFalse apart =>
    rw [show last.col + 1 - first.col = 0 by omega, Nat.mul_zero]
    exact Nat.dvd_zero _

theorem width_dvd_of_block {read : Address → Except CompileError Value} {cell : Address}
    {arg : Argument (Except CompileError)} {b : Block} (h : block read cell arg = .ok b) :
    b.width ∣ b.values.length := by
  rw [block] at h
  split at h
  case h_1 => cases h
  case h_2 first last _ =>
    obtain ⟨values, read, rest⟩ := bind_eq_ok.mp h
    obtain rfl := pure_eq_ok.mp rest
    rw [← (mapM_eq_ok.mp read).length_eq]
    exact width_dvd_length_rectangle first last

/-- Every row has one value in the first column. -/
theorem length_firstColumn (b : Block) (positive : 0 < b.width)
    (whole : b.width ∣ b.values.length) :
    b.firstColumn.length * b.width = b.values.length := by
  have counted (values : List Value) : ((values.mapIdx fun i v =>
      if i % b.width = 0 then some v else none).filterMap id).length =
        Nat.count (· ≡ 0 [MOD b.width]) values.length := by
    induction values using List.reverseRecOn with
    | nil => rfl
    | append_singleton values v ih =>
        rw [List.mapIdx_append, List.filterMap_append, List.length_append, ih, List.length_append,
          List.length_singleton, Nat.count_succ]
        by_cases first : values.length % b.width = 0 <;> simp [first, Nat.ModEq]
  rw [Block.firstColumn, counted, Nat.count_modEq_card _ positive, Nat.mod_eq_zero_of_dvd whole]
  simpa using Nat.div_mul_cancel whole

/-- A position lies among the values. -/
theorem position_le {key : Value} {values : List Value} {kind : Float} {row : Nat}
    (h : position key values kind = .ok row) : 0 < row ∧ row ≤ values.length := by
  unfold position at h
  extract_lets found at h
  have among : found ≤ values.length := by
    unfold found
    split
    · split
      · rename_i i first
        exact (List.findIdx?_eq_some_iff_findIdx_eq.mp first).1
      · exact Nat.zero_le _
    · split <;> exact (List.takeWhile_prefix _).length_le
  split at h
  case isTrue => cases h
  case isFalse some =>
    rw [← Except.ok.inj h]
    exact ⟨Nat.pos_of_ne_zero some, among⟩

/-- Looking up in whole rows ends outside the values only by a column that is not a number. -/
theorem isNaN_of_lookup_outside {b : Block} {key : Value} {col : Float} {near : Bool}
    (whole : b.width ∣ b.values.length) (h : b.lookup key col near = .ok .outside) :
    col.isNaN = true := by
  by_contra number
  rw [Bool.not_eq_true] at number
  simp only [Block.lookup, number] at h
  split at h
  case isTrue => cases h
  case isFalse bounds =>
    obtain ⟨least, most⟩ : 1 ≤ Decimal.toInteger col ∧ Decimal.toInteger col ≤ b.width := by
      simpa using bounds
    split at h
    case h_1 => cases h
    case h_2 row found =>
      obtain ⟨positive, below⟩ := position_le found
      have rows := length_firstColumn b (by omega) whole
      have inside : (row - 1) * b.width + b.width ≤ b.values.length := by
        rw [← Nat.succ_mul, ← rows]
        exact Nat.mul_le_mul_right _ (by omega)
      split at h
      case h_1 none => omega
      case h_2 place here =>
        rw [List.getElem?_eq_getElem (by omega)] at h
        cases h

end Blocks

section Arguments

variable (P : CompileError → Prop) (read : Address → Except CompileError Value) (cell : Address)

/-- An argument that a function cannot trip over, given what it makes of the argument: the failures
of what is read have the property, and so has a missing range where the function needs one. -/
structure Harmless (role : Role) (arg : Argument (Except CompileError)) : Prop where
  reads : ∀ a ∈ arg.expr.references, FailsOnly P (read a)
  value : role = .single ∨ role = .sequence ∧ arg.expr.isRange = false → FailsOnly P arg.value
  corners : role = .block → arg.expr.corners? = none → P (.invalidArguments cell .rangeNeeded)

/-- Selecting by a number that is none has the property as a failure. -/
def Selects (value : Except CompileError Value) : Prop :=
  ∀ v x, value = .ok v → v.toNumber = .ok x → x.isNaN → P (.strayIndex cell)

variable {P read cell} {args : List (Argument (Except CompileError))}

theorem Harmless.single {arg : Argument (Except CompileError)}
    (h : Harmless P read cell .single arg) :
    FailsOnly P arg.value :=
  h.value (.inl rfl)

theorem failsOnly_sequence (h : ∀ arg ∈ args, Harmless P read cell .sequence arg) :
    FailsOnly P (sequence read args) := by
  induction args with
  | nil => exact failsOnly_ok []
  | cons arg rest ih =>
      have head := h arg List.mem_cons_self
      have tail := ih fun arg member => h arg (List.mem_cons_of_mem _ member)
      have continued (items : List Item) :
        FailsOnly P (do return items ++ (← sequence read rest)) :=
        tail.bind fun others _ => failsOnly_ok (items ++ others)
      obtain ⟨expr, value⟩ := arg
      rw [sequence]
      cases expr with
      | range first last => exact (FailsOnly.mapM head.reads).bind fun values _ => continued _
      | literal | cell | binary | unary | call =>
          exact (head.value (.inr ⟨rfl, rfl⟩)).bind fun v _ => continued _

theorem Harmless.failsOnly_block {arg : Argument (Except CompileError)}
    (h : Harmless P read cell .block arg) : FailsOnly P (block read cell arg) := by
  obtain ⟨expr, value⟩ := arg
  cases expr with
  | range first last => exact (FailsOnly.mapM h.reads).bind fun values _ => failsOnly_ok _
  | cell address =>
      refine (FailsOnly.mapM fun a member => h.reads a ?_).bind fun values _ => failsOnly_ok _
      simpa [Address.rectangle_self, Expr.references] using member
  | literal | binary | unary | call => exact failsOnly_throw (h.corners rfl rfl)

theorem failsOnly_concatenation (h : ∀ arg ∈ args, FailsOnly P arg.value) (sofar : String) :
    FailsOnly P (concatenation sofar args) := by
  induction args generalizing sofar with
  | nil => exact failsOnly_ok _
  | cons arg rest ih =>
      refine (h arg List.mem_cons_self).bind fun v _ => failsOnly_withCoerced fun s _ => ?_
      exact ih (fun arg member => h arg (List.mem_cons_of_mem _ member)) (sofar ++ s)

theorem failsOnly_optionalNumber {arg : Option (Argument (Except CompileError))} {absent : Float}
    {next : Float → Except CompileError Value} (h : ∀ a, arg = some a → FailsOnly P a.value)
    (after : ∀ x, FailsOnly P (next x)) : FailsOnly P (optionalNumber arg absent next) := by
  cases arg with
  | none => exact after absent
  | some arg => exact (h arg rfl).bind fun v _ => failsOnly_withCoerced fun x _ => after x

theorem failsOnly_optionalBoolean {arg : Option (Argument (Except CompileError))} {absent : Bool}
    {next : Bool → Except CompileError Value} (h : ∀ a, arg = some a → FailsOnly P a.value)
    (after : ∀ b, FailsOnly P (next b)) : FailsOnly P (optionalBoolean arg absent next) := by
  cases arg with
  | none => exact after absent
  | some arg => exact (h arg rfl).bind fun v _ => failsOnly_withCoerced fun b _ => after b

theorem failsOnly_choose {index : Float} (stray : index.isNaN → P (.strayIndex cell))
    (h : ∀ arg ∈ args, FailsOnly P arg.value) : FailsOnly P (choose cell args index) := by
  unfold choose
  split
  case isTrue none => exact failsOnly_throw (stray none)
  case isFalse =>
    split
    · split
      · rename_i option found
        exact h option (List.mem_of_getElem? found)
      · exact failsOnly_ok _
    · exact failsOnly_ok _

/-- A call with as many arguments as the function takes trips over nothing but its arguments. -/
theorem failsOnly_call {fault : CompileError} {f : Function}
    (admitted : f.arity.admits args.length)
    (h : ∀ i arg, args[i]? = some arg → Harmless P read cell (f.role i) arg)
    (selects : ∀ i arg, f.selector? = some i → args[i]? = some arg → Selects P cell arg.value) :
    FailsOnly P (call read cell fault f args) := by
  have each {role : Role} (same : ∀ i, f.role i = role) {arg : Argument (Except CompileError)}
      (member : arg ∈ args) : Harmless P read cell role arg := by
    obtain ⟨i, found⟩ := List.getElem?_of_mem member
    exact same i ▸ h i arg found
  cases f with
  | sum | average | min | max | product | count | and | or =>
      have items := failsOnly_sequence fun arg => each (fun _ => rfl)
      exact items.bind fun items _ => failsOnly_ok _
  | npv =>
      rcases args with _ | ⟨rate, payments⟩
      · cases admitted
      · have items : FailsOnly P (sequence read payments) := failsOnly_sequence fun arg member => by
          obtain ⟨i, found⟩ := List.getElem?_of_mem member
          exact h (i + 1) arg found
        refine (h 0 rate rfl).single.bind fun v _ => failsOnly_withCoerced fun r _ => ?_
        exact items.bind fun items _ => failsOnly_ok _
  | not | abs | int | sqrt | len | upper | lower | trim =>
      rcases args with _ | ⟨arg, _ | ⟨_, _⟩⟩
      · cases admitted
      · exact (h 0 arg rfl).single.bind fun v _ => failsOnly_ok _
      · cases admitted
  | power | mod | round | roundUp | roundDown =>
      rcases args with _ | ⟨left, _ | ⟨right, _ | ⟨_, _⟩⟩⟩
      · cases admitted
      · cases admitted
      · refine (h 0 left rfl).single.bind fun v _ => failsOnly_withCoerced fun x _ => ?_
        exact (h 1 right rfl).single.bind fun v _ => failsOnly_ok _
      · cases admitted
  | ifError =>
      rcases args with _ | ⟨attempt, _ | ⟨otherwise, _ | ⟨_, _⟩⟩⟩
      · cases admitted
      · cases admitted
      · refine (h 0 attempt rfl).single.bind fun v _ => ?_
        cases v with
        | error e => exact (h 1 otherwise rfl).single
        | number | text | boolean | blank => exact failsOnly_ok _
      · cases admitted
  | «if» =>
      rcases args with _ | ⟨condition, _ | ⟨yes, _ | ⟨no, _ | ⟨_, _⟩⟩⟩⟩
      · cases admitted
      · cases admitted
      · refine (h 0 condition rfl).single.bind fun v _ => failsOnly_withCoerced fun b _ => ?_
        cases b with
        | true => exact (h 1 yes rfl).single
        | false => exact failsOnly_ok _
      · refine (h 0 condition rfl).single.bind fun v _ => failsOnly_withCoerced fun b _ => ?_
        cases b with
        | true => exact (h 1 yes rfl).single
        | false => exact (h 2 no rfl).single
      · cases admitted
  | concatenate =>
      exact failsOnly_concatenation (fun arg member => (each (fun _ => rfl) member).single) ""
  | index =>
      rcases args with _ | ⟨range, _ | ⟨row, col⟩⟩
      · cases admitted
      · cases admitted
      · refine (h 0 range rfl).failsOnly_block.bind fun values _ => ?_
        refine (h 1 row rfl).single.bind fun v _ => failsOnly_withCoerced fun r _ => ?_
        refine failsOnly_optionalNumber (fun arg found => ?_) fun c => failsOnly_ok _
        exact (h 2 arg (List.head?_eq_getElem? ▸ found)).single
  | «match» =>
      rcases args with _ | ⟨key, _ | ⟨range, kind⟩⟩
      · cases admitted
      · cases admitted
      · refine (h 0 key rfl).single.bind fun k _ => FailsOnly.withKey ?_
        refine (h 1 range rfl).failsOnly_block.bind fun values _ => ?_
        refine failsOnly_optionalNumber (fun arg found => ?_) fun t => failsOnly_ok _
        exact (h 2 arg (List.head?_eq_getElem? ▸ found)).single
  | vlookup =>
      rcases args with _ | ⟨key, _ | ⟨range, _ | ⟨col, approximate⟩⟩⟩
      · cases admitted
      · cases admitted
      · cases admitted
      · refine (h 0 key rfl).single.bind fun k _ => FailsOnly.withKey ?_
        refine (h 1 range rfl).failsOnly_block.bind fun values found => ?_
        refine (h 2 col rfl).single.bind fun v value => failsOnly_withCoerced fun c number => ?_
        refine failsOnly_optionalBoolean (fun arg found => ?_) fun near => ?_
        · exact (h 3 arg (List.head?_eq_getElem? ▸ found)).single
        refine failsOnly_withCoerced fun place looked => ?_
        cases place with
        | value v => exact failsOnly_ok _
        | outside =>
            refine failsOnly_throw (selects 2 col rfl rfl v c value number ?_)
            exact isNaN_of_lookup_outside (width_dvd_of_block found) looked
  | choose =>
      rcases args with _ | ⟨index, options⟩
      · cases admitted
      · refine (h 0 index rfl).single.bind fun v value => failsOnly_withCoerced fun i number => ?_
        refine failsOnly_choose (selects 0 index rfl rfl v i value number) fun arg member => ?_
        exact (each (fun _ => rfl) (List.mem_cons_of_mem _ member)).single

end Arguments

/-- What an expression that is not well formed fails with, in the formula of `cell`. -/
inductive IsFault (cell : Address) : CompileError → Prop
  | function (name : String) : IsFault cell (.unsupportedFunction name cell)
  | arguments (fault : ArgumentFault) : IsFault cell (.invalidArguments cell fault)

section Expressions

variable {P : CompileError → Prop} {read : Address → Except CompileError Value} {cell : Address}

theorem arguments_eq_map (args : List Expr) :
    arguments read cell args = args.map fun e => ⟨e, eval read cell e⟩ := by
  induction args with
  | nil => rfl
  | cons e rest ih => rw [arguments, ih, List.map_cons]

mutual

/-- The failures of an expression have a property if those of the cells it references have it, those
of its selections, and, where it is not well formed, its faults. -/
theorem failsOnly_eval : (e : Expr) → (∀ a ∈ e.references, FailsOnly P (read a)) →
    (∀ s ∈ e.selectors, Selects P cell (eval read cell s)) →
    (e.wellFormed = false → ∀ err, IsFault cell err → P err) → FailsOnly P (eval read cell e)
  | .literal l, _, _, _ => failsOnly_ok _
  | .cell address, reads, _, _ => reads address List.mem_cons_self
  | .range _ _, _, _, faults => failsOnly_throw (faults rfl _ (.arguments .rangeAsValue))
  | .unary _ operand, reads, selects, faults =>
      (failsOnly_eval operand reads selects faults).bind fun v _ => failsOnly_ok _
  | .binary _ left right, reads, selects, faults => by
      have first := failsOnly_eval left (fun a member => reads a (List.mem_append_left _ member))
        (fun s member => selects s (List.mem_append_left _ member))
        (fun bad => faults (by simp [Expr.wellFormed, bad]))
      have second := failsOnly_eval right (fun a member => reads a (List.mem_append_right _ member))
        (fun s member => selects s (List.mem_append_right _ member))
        (fun bad => faults (by simp [Expr.wellFormed, bad]))
      exact first.bind fun l _ => second.bind fun r _ => failsOnly_ok _
  | .call name args, reads, selects, faults => by
      rw [eval]
      split
      case h_1 unknown =>
        exact failsOnly_throw (faults (by simp only [Expr.wellFormed, unknown]) _ (.function name))
      case h_2 f named =>
        split
        case isFalse refused =>
          refine failsOnly_throw (faults ?_ _ (.arguments _))
          simp only [Expr.wellFormed, named, Bool.not_eq_true _ ▸ refused, Bool.false_and]
        case isTrue admitted =>
          have harmless := harmless_arguments f 0 args reads
            (fun s member => selects s (List.mem_append_right _ member))
            (fun bad => faults (by simp [Expr.wellFormed, named, bad]))
          rw [arguments_eq_map]
          refine failsOnly_call (by simpa using admitted) (fun i arg found => ?_) ?_
          · obtain ⟨e, at_i, rfl⟩ := Option.map_eq_some_iff.mp (List.getElem?_map ▸ found)
            exact Nat.zero_add i ▸ harmless i e at_i
          · intro i arg selector found
            obtain ⟨e, at_i, rfl⟩ := Option.map_eq_some_iff.mp (List.getElem?_map ▸ found)
            refine selects e (List.mem_append_left _ ?_)
            simp [named, selector, at_i]

/-- The arguments of a call from a position on, each with what the function makes of it. -/
theorem harmless_arguments (f : Function) (position : Nat) : (args : List Expr) →
    (∀ a ∈ referencesOf args, FailsOnly P (read a)) →
    (∀ s ∈ selectorsOf args, Selects P cell (eval read cell s)) →
    (argumentsFit f position args = false → ∀ err, IsFault cell err → P err) →
    ∀ i e, args[i]? = some e →
      Harmless P read cell (f.role (position + i)) ⟨e, eval read cell e⟩
  | [], _, _, _ => nofun
  | e :: rest, reads, selects, faults => by
      have value := failsOnly_eval e (fun a member => reads a (List.mem_append_left _ member))
        (fun s member => selects s (List.mem_append_left _ member))
      have tail := harmless_arguments f (position + 1) rest
        (fun a member => reads a (List.mem_append_right _ member))
        (fun s member => selects s (List.mem_append_right _ member))
        (fun bad => faults (by simp [argumentsFit, bad]))
      intro i e' found
      cases i with
      | succ i =>
          rw [← Nat.succ_add_eq_add_succ]
          exact tail i e' found
      | zero =>
          cases found
          refine ⟨fun a member => reads a (List.mem_append_left _ member), ?_, ?_⟩
          · rintro (single | ⟨sequence, one⟩)
            · refine value fun bad => faults ?_
              simp only [argumentsFit, show f.role position = _ from single, bad, Bool.false_and]
            · refine value fun bad => faults ?_
              simp only [argumentsFit, show f.role position = _ from sequence,
                show e.isRange = false from one, bad, Bool.or_self, Bool.false_and]
          · intro block none
            refine faults ?_ _ (.arguments .rangeNeeded)
            simp only [argumentsFit, show f.role position = _ from block,
              show e.corners? = Option.none from none, Option.isSome_none, Bool.false_and]

end

end Expressions

end SheetCompiler.Evaluation
