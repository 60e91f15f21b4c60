import Mathlib.Data.List.Forall2

/-!
# Computations that may fail

What a computation consists of, given that it succeeds, or given that it fails.
-/

namespace SheetCompiler

variable {ε α β : Type}

theorem bind_eq_ok {x : Except ε α} {f : α → Except ε β} {b : β} :
    x >>= f = .ok b ↔ ∃ a, x = .ok a ∧ f a = .ok b := by
  constructor
  · intro succeeds
    cases x with
    | error e => cases succeeds
    | ok a => exact ⟨a, rfl, succeeds⟩
  · rintro ⟨a, rfl, next⟩
    exact next

theorem bind_eq_error {x : Except ε α} {f : α → Except ε β} {e : ε} :
    x >>= f = .error e ↔ x = .error e ∨ ∃ a, x = .ok a ∧ f a = .error e := by
  constructor
  · intro fails
    cases x with
    | error e' =>
        cases fails
        exact .inl rfl
    | ok a => exact .inr ⟨a, rfl, fails⟩
  · rintro (rfl | ⟨a, rfl, next⟩)
    · rfl
    · exact next

theorem map_eq_ok {x : Except ε α} {f : α → β} {b : β} :
    x.map f = .ok b ↔ ∃ a, x = .ok a ∧ f a = b := by
  cases x with
  | error e => simp [Except.map]
  | ok a => simp [Except.map]

theorem map_eq_error {x : Except ε α} {f : α → β} {e : ε} : x.map f = .error e ↔ x = .error e := by
  cases x with
  | error e' => simp [Except.map]
  | ok a => simp [Except.map]

theorem pure_eq_ok {a b : α} : (pure a : Except ε α) = .ok b ↔ a = b :=
  ⟨Except.ok.inj, congrArg Except.ok⟩

/-- A traversal succeeds exactly if every step does. -/
theorem mapM_eq_ok {f : α → Except ε β} {l : List α} {bs : List β} :
    l.mapM f = .ok bs ↔ List.Forall₂ (fun a b => f a = .ok b) l bs := by
  induction l generalizing bs with
  | nil =>
      rw [List.mapM_nil, pure_eq_ok, List.forall₂_nil_left_iff]
      exact eq_comm
  | cons a rest ih =>
      simp only [List.mapM_cons, bind_eq_ok, pure_eq_ok, List.forall₂_cons_left_iff, ih]
      constructor
      · rintro ⟨b, first, others, later, rfl⟩
        exact ⟨b, others, first, later, rfl⟩
      · rintro ⟨b, others, first, later, rfl⟩
        exact ⟨b, first, others, later, rfl⟩

/-- A traversal whose steps all succeed succeeds. -/
theorem exists_mapM {f : α → Except ε β} {l : List α}
    (h : ∀ a ∈ l, ∃ b, f a = .ok b) : ∃ bs, l.mapM f = .ok bs := by
  induction l with
  | nil => exact ⟨[], rfl⟩
  | cons a rest ih =>
      rw [List.forall_mem_cons] at h
      obtain ⟨b, first⟩ := h.1
      obtain ⟨bs, others⟩ := ih h.2
      exact ⟨b :: bs, by rw [List.mapM_cons, first, others]; rfl⟩

section Folds

variable {f : β → α → Except ε β} {l : List α} {b b' : β}

end Folds

section Traversals

variable {R : α → β → Prop} {l : List α} {bs : List β}

/-- Every element went into some result of the traversal. -/
theorem exists_right_of_forall₂ (h : List.Forall₂ R l bs) {a : α} (member : a ∈ l) :
    ∃ b ∈ bs, R a b := by
  induction h with
  | nil => cases member
  | cons related _ ih =>
      rcases List.mem_cons.mp member with rfl | later
      · exact ⟨_, List.mem_cons_self, related⟩
      · obtain ⟨b, found, related⟩ := ih later
        exact ⟨b, List.mem_cons_of_mem _ found, related⟩

/-- Every result of the traversal comes from some element. -/
theorem exists_left_of_forall₂ (h : List.Forall₂ R l bs) {b : β} (member : b ∈ bs) :
    ∃ a ∈ l, R a b :=
  exists_right_of_forall₂ h.flip member

end Traversals

end SheetCompiler
