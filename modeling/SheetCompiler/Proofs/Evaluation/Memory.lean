import SheetCompiler.Proofs.Evaluation.Depth
import SheetCompiler.Proofs.Except
import SheetCompiler.Proofs.OrderedMap

/-!
# Evaluation with a cache

The cache is invisible. A value is recorded below whatever path leads to its cell, and values stay
when the evaluation that found them fails; so the invariant of the cache mentions neither: `Sound`
says that every recorded value is the value its cell has in the workbook.

The path matters only where evaluation fails. A cell without a value is never found in a sound
cache, and below a path of such cells the cached evaluation takes the steps of the plain one up to
the same failure; a cell that has a value is evaluated to it by both.
-/

namespace SheetCompiler.Evaluation

variable {w : Workbook}

/-- The cache holds only values that their cells have. -/
def Sound (w : Workbook) (cache : Cache) : Prop :=
  ∀ cell v, cache.get? cell = some v → HasValue w cell v

theorem sound_empty (w : Workbook) : Sound w .empty := by
  intro cell v found
  cases found

theorem Sound.insert {cache : Cache} {cell : Address} {v : Value} (h : Sound w cache)
    (value : HasValue w cell v) : Sound w (cache.insert cell v) := by
  intro a u found
  rw [OrderedMap.get?_insert] at found
  split at found
  case isTrue same =>
    cases found
    rw [same]
    exact value
  case isFalse => exact h a u found

/-- An evaluation with the given cache: its outcome, and the cache after it. -/
def Evaluator.start {α : Type} (x : Evaluator α) (cache : Cache) : Except CompileError α × Cache :=
  x.run.run cache

section Start

variable {α β : Type} {cache cache' : Cache}

theorem start_bind_ok {x : Evaluator α} {f : α → Evaluator β} {a : α}
    (h : x.start cache = (.ok a, cache')) : (x >>= f).start cache = (f a).start cache' := by
  rw [Evaluator.start] at h ⊢
  rw [ExceptT.run_bind, StateT.run_bind, h]
  rfl

theorem start_bind_error {x : Evaluator α} {f : α → Evaluator β} {e : CompileError}
    (h : x.start cache = (.error e, cache')) : (x >>= f).start cache = (.error e, cache') := by
  rw [Evaluator.start] at h ⊢
  rw [ExceptT.run_bind, StateT.run_bind, h]
  rfl

end Start

/-- Evaluation with a cache returns values and keeps the cache sound. -/
def faithfulCache (w : Workbook) : Faithful w Memory.cache where
  returns x a := ∀ cache, Sound w cache → ∃ cache', x.start cache = (.ok a, cache') ∧ Sound w cache'
  returns_pure := fun a cache sound => ⟨cache, rfl, sound⟩
  returns_bind := by
    intro α β x f a b first next cache sound
    obtain ⟨middle, ran, sound⟩ := first cache sound
    rw [start_bind_ok ran]
    exact next middle sound
  returns_find := by
    intro cell v otherwise value next cache sound
    have looked : (Memory.cache.find? cell).start cache = (.ok (cache.get? cell), cache) := rfl
    rw [start_bind_ok looked]
    cases found : cache.get? cell with
    | none => exact next cache sound
    | some u =>
        rw [value.unique (sound cell u found)]
        exact ⟨cache, rfl, sound⟩
  returns_record := fun value cache sound => ⟨_, rfl, sound.insert value⟩

/-- With a sound cache the outcome is that of the plain evaluation, and the cache stays sound. -/
def keepsSound (w : Workbook) : Simulation Evaluator (Except CompileError) where
  rel x y := ∀ cache, Sound w cache → ∃ cache', x.start cache = (y, cache') ∧ Sound w cache'
  rel_pure := fun a cache sound => ⟨cache, rfl, sound⟩
  rel_bind := by
    intro α β x y f g first next cache sound
    obtain ⟨middle, ran, sound⟩ := first cache sound
    cases y with
    | error e => exact ⟨middle, start_bind_error ran, sound⟩
    | ok a =>
        rw [start_bind_ok ran]
        exact next a middle sound
  rel_throw := fun e cache sound => ⟨cache, rfl, sound⟩

/-- A cell without a value holds a formula. -/
theorem exists_formula_of_valueless {cell : Address} (valueless : ∀ v, ¬ HasValue w cell v) :
    ∃ c text expr, w.cell? cell = some c ∧ c.content = .formula text expr := by
  cases found : w.cell? cell with
  | none => exact absurd ⟨1, by simp only [valueWithin, found]⟩ (valueless .blank)
  | some c =>
      cases content : c.content with
      | value literal =>
          exact absurd ⟨1, by simp only [valueWithin, found, content]⟩
            (valueless (.ofLiteral literal))
      | formula text expr => exact ⟨c, text, expr, rfl, content⟩

/-- Below a path of cells without a value, the cache changes nothing. -/
theorem keepsSound_valueOf {path : List Address} (valueless : ∀ p ∈ path, ∀ v, ¬ HasValue w p v)
    (cell : Address) :
    (keepsSound w).rel (valueOf Memory.cache w path cell) (valueOf Memory.none w path cell) := by
  generalize size : (unvisited w path).length = n
  induction n using Nat.strongRecOn generalizing path cell with
  | ind n ih =>
      intro cache sound
      by_cases known : ∃ v, HasValue w cell v
      · obtain ⟨v, value⟩ := known
        obtain ⟨depth, found⟩ := value
        rw [valueOf_none_eq_ok ⟨depth, found⟩ valueless]
        refine (faithfulCache w).returns_valueOf found (fun p member u within => ?_) cache sound
        exact valueless p member u ⟨depth, within⟩
      have own : ∀ v, ¬ HasValue w cell v := fun v value => known ⟨v, value⟩
      have missing : cache.get? cell = none := by
        cases found : cache.get? cell with
        | none => rfl
        | some v => exact absurd (sound cell v found) (own v)
      have looked : (Memory.cache.find? cell).start cache = (.ok none, cache) :=
        by rw [← missing]; rfl
      obtain ⟨c, text, expr, found, content⟩ := exists_formula_of_valueless own
      have plain := valueOf_none_eq w path cell
      simp only [found, content] at plain
      rw [valueOf_eq, start_bind_ok looked]
      simp only [computed, found, content]
      cases on : path.contains cell with
      | true =>
          rw [plain, on]
          exact ⟨cache, rfl, sound⟩
      | false =>
          have fewer := length_unvisited_cons_lt (mem_formulas_of_cell? found content) on
          have below : ∀ p ∈ cell :: path, ∀ v, ¬ HasValue w p v := by
            intro p member
            rcases List.mem_cons.mp member with rfl | earlier
            · exact own
            · exact valueless p earlier
          obtain ⟨cache', ran, sound'⟩ := (keepsSound w).rel_eval expr
            (fun a _ => ih _ (size ▸ fewer) below a rfl) cache sound
          simp only [on, Bool.false_eq_true, if_false] at plain ⊢
          rw [plain]
          cases result : eval (valueOf Memory.none w (cell :: path)) cell expr with
          | error e =>
              rw [result] at ran
              exact ⟨cache', start_bind_error ran, sound'⟩
          | ok v => exact absurd (hasValue_of_valueOf_none (plain.trans result)) (own v)

theorem keepsSound_evaluate (w : Workbook) (cell : Address) :
    (keepsSound w).rel (evaluate w cell) (evaluateWith Memory.none w cell) := by
  have top : ∀ p ∈ ([] : List Address), ∀ v, ¬ HasValue w p v := by simp
  exact (keepsSound w).rel_bind (keepsSound_valueOf top cell) fun v => (keepsSound w).rel_pure _

/-- A fresh evaluator gives what evaluation without a memory gives. -/
theorem evaluateCell_eq (w : Workbook) (cell : Address) :
    evaluateCell w cell = evaluateWith Memory.none w cell := by
  obtain ⟨cache, ran, -⟩ := keepsSound_evaluate w cell .empty (sound_empty w)
  exact congrArg Prod.fst ran

/-- A cell that has a value shows it. -/
theorem evaluateCell_eq_ok {cell : Address} {v : Value} (h : HasValue w cell v) :
    evaluateCell w cell = .ok (shown w cell v) := by
  have top : ∀ p ∈ ([] : List Address), ∀ u, ¬ HasValue w p u := by simp
  rw [evaluateCell_eq, evaluateWith, valueOf_none_eq_ok h top]
  rfl

/-- What a cell shows comes from its value. -/
theorem exists_valueOf_of_evaluateCell {cell : Address} {v : Value}
    (h : evaluateCell w cell = .ok v) :
    ∃ u, valueOf Memory.none w [] cell = .ok u ∧ v = shown w cell u := by
  rw [evaluateCell_eq, evaluateWith] at h
  obtain ⟨u, value, shows⟩ := bind_eq_ok.mp h
  exact ⟨u, value, (pure_eq_ok.mp shows).symm⟩

theorem run_mapM_evaluate (w : Workbook) (cells : List Address) {cache : Cache}
    (sound : Sound w cache) :
    ((cells.mapM fun cell => (evaluate w cell).run).run cache).1 =
      cells.map (evaluateWith Memory.none w) := by
  induction cells generalizing cache with
  | nil => rfl
  | cons cell rest ih =>
      obtain ⟨cache', ran, sound'⟩ := keepsSound_evaluate w cell cache sound
      have first : (evaluate w cell).run.run cache = (evaluateWith Memory.none w cell, cache') :=
        ran
      rw [List.mapM_cons, StateT.run_bind, first]
      change evaluateWith Memory.none w cell :: _ = _
      rw [List.map_cons]
      exact congrArg (_ :: ·) (ih sound')

/-- One evaluator asked for cells in any sequence answers each as a fresh one would, whatever it has
found and wherever it has failed before. -/
theorem evaluateAll_eq_map (w : Workbook) (cells : List Address) :
    evaluateAll w cells = cells.map (evaluateCell w) := by
  rw [evaluateAll, run_mapM_evaluate w cells (sound_empty w)]
  exact List.map_congr_left fun cell _ => (evaluateCell_eq w cell).symm

end SheetCompiler.Evaluation
