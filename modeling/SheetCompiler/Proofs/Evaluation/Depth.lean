import SheetCompiler.Proofs.Evaluation.Simulation

/-!
# Values by depth

A second account of evaluation that knows neither a path nor a memory: `valueWithin` follows
references to a given depth and fails beyond it. The value it finds does not depend on the depth, so
it is a property of the workbook, `HasValue`.

Whatever is kept in memory and whichever formulas are under evaluation, a cell that has a value is
evaluated to it, as long as no cell on the path has one within the same depth.
-/

namespace SheetCompiler.Evaluation

open Formula (Expr)

/-- The value of a cell, following references to the given depth. -/
def valueWithin (w : Workbook) : Nat → Address → Except CompileError Value
  | 0, _ => .error (.cyclicDependency [])
  | depth + 1, cell =>
    match w.cell? cell with
    | none => .ok .blank
    | some c =>
      match c.content with
      | .value literal => .ok (.ofLiteral literal)
      | .formula _ expr => eval (valueWithin w depth) cell expr

/-- References that end somewhere lead from the cell to this value. -/
def HasValue (w : Workbook) (cell : Address) (v : Value) : Prop :=
  ∃ depth, valueWithin w depth cell = .ok v

/-- Success is kept, with the same value. -/
def keepsOk : Simulation (Except CompileError) (Except CompileError) where
  rel x y := ∀ a, x = .ok a → y = .ok a
  rel_pure := fun a b same => same
  rel_bind := by
    intro α β x y f g first next b result
    cases x with
    | error e => cases result
    | ok a =>
        rw [first a rfl]
        exact next a b result
  rel_throw := fun e a failed => nomatch failed

variable {w : Workbook} {cell : Address} {v u : Value} {depth deeper : Nat}

theorem valueWithin_literal {l : Literal} (h : w.literal? cell = some l) (depth : Nat) :
    valueWithin w (depth + 1) cell = .ok (.ofLiteral l) := by
  obtain ⟨c, found, literal⟩ := Option.bind_eq_some_iff.mp h
  cases content : c.content with
  | formula text e => simp [Cell.literal?, content] at literal
  | value l' =>
      simp only [Cell.literal?, content, Option.some.injEq] at literal
      simp only [valueWithin, found, content, literal]

theorem valueWithin_formula {e : Expr} (h : w.formula? cell = some e) (depth : Nat) :
    valueWithin w (depth + 1) cell = eval (valueWithin w depth) cell e := by
  obtain ⟨c, found, expr⟩ := Option.bind_eq_some_iff.mp h
  cases content : c.content with
  | value l => simp [Cell.expr?, content] at expr
  | formula text e' =>
      simp only [Cell.expr?, content, Option.some.injEq] at expr
      simp only [valueWithin, found, content, expr]

theorem valueWithin_succ (h : valueWithin w depth cell = .ok v) :
    valueWithin w (depth + 1) cell = .ok v := by
  induction depth generalizing cell v with
  | zero => cases h
  | succ depth ih =>
      rw [valueWithin] at h ⊢
      cases found : w.cell? cell with
      | none => simpa [found] using h
      | some c =>
          cases content : c.content with
          | value literal => simpa [found, content] using h
          | formula text expr =>
              simp only [found, content] at h ⊢
              exact keepsOk.rel_eval expr (fun a _ value => ih) v h

theorem valueWithin_mono (h : valueWithin w depth cell = .ok v) (le : depth ≤ deeper) :
    valueWithin w deeper cell = .ok v := by
  induction le with
  | refl => exact h
  | step _ ih => exact valueWithin_succ ih

theorem HasValue.unique (first : HasValue w cell v) (second : HasValue w cell u) : v = u := by
  obtain ⟨d, first⟩ := first
  obtain ⟨e, second⟩ := second
  have one := valueWithin_mono first (Nat.le_max_left d e)
  have other := valueWithin_mono second (Nat.le_max_right d e)
  exact Except.ok.inj (one.symm.trans other)

section Memories

variable {m : Type → Type} [Monad m] [MonadExceptOf CompileError m] {memory : Memory m}
variable {path : List Address}

/-- What evaluation does for a cell that is not found in memory. -/
def computed (memory : Memory m) (w : Workbook) (path : List Address) (cell : Address) : m Value :=
  match w.cell? cell with
  | none => pure .blank
  | some c =>
    match c.content with
    | .value literal => do
      memory.record cell (.ofLiteral literal)
      return .ofLiteral literal
    | .formula _ expr =>
      if path.contains cell then throw (.cyclicDependency (circle path cell))
      else do
        let v ← eval (valueOf memory w (cell :: path)) cell expr
        memory.record cell v
        return v

theorem valueOf_eq (memory : Memory m) (w : Workbook) (path : List Address) (cell : Address) :
    valueOf memory w path cell = memory.find? cell >>= fun found =>
      match found with
      | some v => pure v
      | none => computed memory w path cell := by
  rw [valueOf]
  congr 1
  funext found
  cases found with
  | some v => rfl
  | none =>
      simp only [computed]
      split
      · rename_i none
        simp only [none]
      · rename_i c some
        simp only [some]
        split
        · rename_i literal content
          simp only [content]
        · rename_i text expr content
          simp only [content]
          split <;> simp_all

/-- A memory that finds true values only, given what it means for a computation to return a value
without spoiling the memory. -/
structure Faithful (w : Workbook) (memory : Memory m) where
  returns : {α : Type} → m α → α → Prop
  returns_pure : ∀ {α : Type} (a : α), returns (pure a) a
  returns_bind : ∀ {α β : Type} {x : m α} {f : α → m β} {a : α} {b : β},
    returns x a → returns (f a) b → returns (x >>= f) b
  returns_find : ∀ {cell : Address} {v : Value} {otherwise : m Value}, HasValue w cell v →
    returns otherwise v → returns (memory.find? cell >>= fun found =>
      match found with
      | some u => pure u
      | none => otherwise) v
  returns_record : ∀ {cell : Address} {v : Value}, HasValue w cell v →
    returns (memory.record cell v) ()

/-- What succeeds without a memory returns the same with it. -/
def Faithful.simulation (F : Faithful w memory) : Simulation (Except CompileError) m where
  rel x y := ∀ a, x = .ok a → F.returns y a
  rel_pure := by
    intro α a b same
    cases same
    exact F.returns_pure a
  rel_bind := by
    intro α β x y f g first next b result
    cases x with
    | error e => cases result
    | ok a => exact F.returns_bind (first a rfl) (next a b result)
  rel_throw := fun e a failed => nomatch failed

omit [MonadExceptOf CompileError m] in
theorem Faithful.returns_recorded (F : Faithful w memory) (h : HasValue w cell v) :
    F.returns (do memory.record cell v; return v) v :=
  F.returns_bind (F.returns_record h) (F.returns_pure v)

/-- A cell with a value within some depth is evaluated to it when no cell of the path has a value
within that depth. -/
theorem Faithful.returns_valueOf (F : Faithful w memory) (h : valueWithin w depth cell = .ok v)
    (apart : ∀ p ∈ path, ∀ u, valueWithin w depth p ≠ .ok u) :
    F.returns (valueOf memory w path cell) v := by
  induction depth using Nat.strongRecOn generalizing cell v path with
  | ind depth ih =>
      have value : HasValue w cell v := ⟨depth, h⟩
      by_cases least : ∃ less < depth, valueWithin w less cell = .ok v
      · obtain ⟨less, below, found⟩ := least
        refine ih less below found fun p member u known => ?_
        exact apart p member u (valueWithin_mono known (Nat.le_of_lt below))
      cases depth with
      | zero => cases h
      | succ depth =>
          rw [valueOf_eq]
          refine F.returns_find value ?_
          rw [valueWithin] at h
          cases found : w.cell? cell with
          | none =>
              simp only [found, Except.ok.injEq] at h
              simp only [computed, found, ← h]
              exact F.returns_pure _
          | some c =>
              cases content : c.content with
              | value literal =>
                  simp only [found, content, Except.ok.injEq] at h
                  simp only [computed, found, content, h]
                  exact F.returns_recorded value
              | formula text expr =>
                  simp only [found, content] at h
                  have off : path.contains cell = false := by
                    rw [List.contains_eq_mem, decide_eq_false_iff_not]
                    intro member
                    refine apart cell member v ?_
                    simp only [valueWithin, found, content, h]
                  simp only [computed, found, content, off]
                  refine F.returns_bind (F.simulation.rel_eval expr ?_ v h)
                    (F.returns_recorded value)
                  -- The cell itself has no value within the depth left for what it reads.
                  intro a _ u known
                  refine ih depth (Nat.lt_succ_self depth) known fun p member u' within => ?_
                  rcases List.mem_cons.mp member with rfl | earlier
                  · have same := HasValue.unique ⟨depth, within⟩ value
                    exact least ⟨depth, Nat.lt_succ_self depth, same ▸ within⟩
                  · exact apart p earlier u' (valueWithin_succ within)

end Memories

/-- Evaluation without a memory returns what it computes. -/
def faithfulNone (w : Workbook) : Faithful w Memory.none where
  returns x a := x = .ok a
  returns_pure := fun a => rfl
  returns_bind := by
    intro α β x f a b first next
    rw [first]
    exact next
  returns_find := fun _ otherwise => otherwise
  returns_record := fun _ => rfl

/-- A cell that has a value is evaluated to it, below any path of cells without one. -/
theorem valueOf_none_eq_ok {path : List Address} (h : HasValue w cell v)
    (valueless : ∀ p ∈ path, ∀ u, ¬ HasValue w p u) :
    valueOf Memory.none w path cell = .ok v := by
  obtain ⟨depth, found⟩ := h
  refine (faithfulNone w).returns_valueOf found fun p member u known => ?_
  exact valueless p member u ⟨depth, known⟩

/-- The equation of evaluation without a memory. -/
theorem valueOf_none_eq (w : Workbook) (path : List Address) (cell : Address) :
    valueOf Memory.none w path cell =
      match w.cell? cell with
      | none => .ok .blank
      | some c =>
        match c.content with
        | .value literal => .ok (.ofLiteral literal)
        | .formula _ expr =>
          if path.contains cell then .error (.cyclicDependency (circle path cell))
          else eval (valueOf Memory.none w (cell :: path)) cell expr := by
  rw [valueOf_eq]
  change computed Memory.none w path cell = _
  rw [computed]
  split
  · rfl
  · split
    · rfl
    · split
      · rfl
      · cases eval (valueOf Memory.none w (cell :: path)) cell _ <;> rfl

/-- The formula cells that are not on the path bound the depth that evaluation needs. -/
theorem valueWithin_of_valueOf_none {path : List Address}
    (h : valueOf Memory.none w path cell = .ok v) :
    valueWithin w ((unvisited w path).length + 1) cell = .ok v := by
  generalize size : (unvisited w path).length = n
  induction n using Nat.strongRecOn generalizing cell v path with
  | ind n ih =>
      rw [valueOf_none_eq] at h
      rw [valueWithin]
      cases found : w.cell? cell with
      | none => simpa [found] using h
      | some c =>
          cases content : c.content with
          | value literal => simpa [found, content] using h
          | formula text expr =>
              simp only [found, content] at h ⊢
              split at h
              case isTrue => cases h
              case isFalse off =>
                have fewer := length_unvisited_cons_lt (mem_formulas_of_cell? found content)
                  (Bool.eq_false_iff.mpr off)
                refine keepsOk.rel_eval expr (fun a _ u known => ?_) v h
                exact valueWithin_mono (ih _ (size ▸ fewer) known rfl) (size ▸ fewer)

/-- Evaluation only finds values. -/
theorem hasValue_of_valueOf_none {path : List Address}
    (h : valueOf Memory.none w path cell = .ok v) :
    HasValue w cell v :=
  ⟨_, valueWithin_of_valueOf_none h⟩

/-- What the formula of a cell is evaluated to, below any path, is the value of the cell. -/
theorem hasValue_of_eval {path : List Address} {e : Expr} (formula : w.formula? cell = some e)
    (h : eval (valueOf Memory.none w path) cell e = .ok v) : HasValue w cell v := by
  refine ⟨(unvisited w path).length + 1 + 1, ?_⟩
  rw [valueWithin_formula formula]
  exact keepsOk.rel_eval e (fun a _ u => valueWithin_of_valueOf_none) v h

end SheetCompiler.Evaluation
