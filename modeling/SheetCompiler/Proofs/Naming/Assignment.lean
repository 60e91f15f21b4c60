import SheetCompiler.Proofs.Naming.FirstFree
import SheetCompiler.Proofs.Naming.Identifier
import SheetCompiler.Proofs.OrderedMap

/-!
# Every raw name gets a final name

Names are given out one statement after the other. Each new one is an identifier that is neither
reserved nor in use, so the mapping stays injective; and the names in use never outnumber the
statements that are done, so the room that is set aside for a search is never used up.
-/

namespace SheetCompiler.Naming

open Lowering (Statement)

/-- The mapping after some statements: defined on their raw names, injective, and with identifiers
that are not reserved. -/
structure Assigned (reserved : List String) (done : List Statement) (names : Mapping) : Prop where
  defined_iff : ∀ raw, (names.get? raw).isSome ↔ ∃ s ∈ done, s.raw = raw
  injective : ∀ {raw other name}, names.get? raw = some name → names.get? other = some name →
    raw = other
  legal : ∀ {raw name}, names.get? raw = some name → isIdentifier name ∧ name ∉ reserved

variable {reserved : List String} {done : List Statement} {names : Mapping}

theorem mem_values_iff {name : String} :
    name ∈ names.values ↔ ∃ raw, names.get? raw = some name := by
  simp [OrderedMap.values, OrderedMap.get?_eq_some_iff]

theorem assigned_nil (reserved : List String) : Assigned reserved [] .empty where
  defined_iff := by simp
  injective := by simp
  legal := by simp

/-- There are no more names in use than statements done. -/
theorem Assigned.length_values_le (h : Assigned reserved done names) :
    names.values.length ≤ done.length := by
  have inside : names.keys ⊆ done.map Statement.raw := by
    intro raw member
    obtain ⟨s, listed, rfl⟩ := (h.defined_iff raw).mp (OrderedMap.mem_keys_iff.mp member)
    exact List.mem_map.mpr ⟨s, listed, rfl⟩
  have fewer := (List.subperm_of_subset names.keys_nodup inside).length_le
  simpa [OrderedMap.keys, OrderedMap.values] using fewer

/-- With room for more candidates than there are names in use and reserved ones, a free one is
found. -/
theorem exists_freeName? (base : String) {used reserved : List String} {limit : Nat}
    (room : used.length + reserved.length < limit) :
    ∃ n, freeName? base used reserved limit = some (candidate base "" n) ∧
      candidate base "" n ∉ used ∧ candidate base "" n ∉ reserved := by
  obtain ⟨m, small, free⟩ := exists_candidate_notMem base "" (used ++ reserved)
  rw [List.length_append] at small
  rw [List.mem_append, not_or] at free
  have some : (freeName? base used reserved limit).isSome := by
    refine List.find?_isSome.mpr ⟨candidate base "" m, ?_, ?_⟩
    · exact List.mem_map.mpr ⟨m, List.mem_range.mpr (by omega), rfl⟩
    · simpa using free
  obtain ⟨name, found⟩ := Option.isSome_iff_exists.mp some
  obtain ⟨n, -, rfl⟩ := List.mem_map.mp (List.mem_of_find?_eq_some found)
  exact ⟨n, found, by simpa using List.find?_some found⟩

/-- One more statement gets an identifier that is free. -/
theorem Assigned.insert (h : Assigned reserved done names) (s : Statement) {name : String}
    (identifier : isIdentifier name) (unused : name ∉ names.values) (free : name ∉ reserved) :
    Assigned reserved (done ++ [s]) (names.insert s.raw name) where
  defined_iff := by
    intro raw
    rw [OrderedMap.get?_insert]
    split
    case isTrue same => simp [same]
    case isFalse different =>
      rw [h.defined_iff]
      simp [show s.raw ≠ raw from Ne.symm different]
  injective := by
    intro raw other n first second
    rw [OrderedMap.get?_insert] at first second
    split at first <;> split at second
    case isTrue.isTrue left right => exact left.trans right.symm
    case isTrue.isFalse =>
      cases first
      exact absurd (mem_values_iff.mpr ⟨other, second⟩) unused
    case isFalse.isTrue =>
      cases second
      exact absurd (mem_values_iff.mpr ⟨raw, first⟩) unused
    case isFalse.isFalse => exact h.injective first second
  legal := by
    intro raw n found
    rw [OrderedMap.get?_insert] at found
    split at found
    case isTrue =>
      cases found
      exact ⟨identifier, free⟩
    case isFalse => exact h.legal found

/-- One more statement is named, if it is not named already. -/
theorem Assigned.extend (h : Assigned reserved done names) {limit : Nat}
    (room : done.length + reserved.length < limit) (s : Statement) :
    ∃ next, names.extend reserved limit s = .ok next ∧ Assigned reserved (done ++ [s]) next := by
  rw [Mapping.extend, OrderedMap.contains]
  cases known : names.get? s.raw with
  | some name =>
      refine ⟨names, rfl, ?_, h.injective, h.legal⟩
      intro raw
      rw [h.defined_iff]
      constructor
      · rintro ⟨d, member, same⟩
        exact ⟨d, List.mem_append_left _ member, same⟩
      · rintro ⟨d, member, rfl⟩
        rcases List.mem_append.mp member with before | last
        · exact ⟨d, before, rfl⟩
        · rw [List.mem_singleton.mp last, ← h.defined_iff, known]
          rfl
  | none =>
      have enough : names.values.length + reserved.length < limit := by
        have fewer := h.length_values_le
        omega
      obtain ⟨n, found, unused, free⟩ := exists_freeName? (wantedName s) enough
      refine ⟨names.insert s.raw (candidate (wantedName s) "" n), ?_, ?_⟩
      · rw [found]
        rfl
      · exact h.insert s (isIdentifier_candidate (isIdentifier_wantedName s) n) unused free

theorem Assigned.foldlM (h : Assigned reserved done names) {limit : Nat}
    (statements : List Statement)
    (room : done.length + statements.length + reserved.length < limit) :
    ∃ last, statements.foldlM (Mapping.extend reserved limit) names = .ok last ∧
      Assigned reserved (done ++ statements) last := by
  induction statements generalizing done names with
  | nil => exact ⟨names, rfl, by rwa [List.append_nil]⟩
  | cons s rest ih =>
      rw [List.length_cons] at room
      have enough : done.length + reserved.length < limit := by omega
      obtain ⟨next, extended, assigned⟩ := h.extend enough s
      have left : (done ++ [s]).length + rest.length + reserved.length < limit := by
        rw [List.length_append, List.length_singleton]
        omega
      obtain ⟨last, folded, complete⟩ := ih assigned left
      refine ⟨last, ?_, ?_⟩
      · rw [List.foldlM_cons, extended]
        exact folded
      · rwa [List.append_assoc] at complete

/-- Statements are always named. -/
theorem exists_assigned (extra : List String) (statements : List Statement) :
    ∃ names, assign extra statements = .ok names ∧
      Assigned (Code.keywords ++ extra) statements names := by
  refine (assigned_nil (Code.keywords ++ extra)).foldlM statements ?_
  rw [List.length_nil]
  omega

/-- Whatever the statements are and whatever else is reserved, naming succeeds: the names are
defined on the raw names of the statements and no others, different raw names have different names,
and each is an identifier, no reserved word and none of the extra ones. -/
theorem assign_total (extra : List String) (statements : List Statement) :
    ∃ names, assign extra statements = .ok names ∧
      (∀ raw, (names.get? raw).isSome ↔ ∃ s ∈ statements, s.raw = raw) ∧
      (∀ raw other name, names.get? raw = some name → names.get? other = some name → raw = other) ∧
      ∀ raw name, names.get? raw = some name →
        isIdentifier name ∧ name ∉ Code.keywords ∧ name ∉ extra := by
  obtain ⟨names, assigned, h⟩ := exists_assigned extra statements
  refine ⟨names, assigned, h.defined_iff, fun raw other name => h.injective, ?_⟩
  intro raw name found
  obtain ⟨identifier, free⟩ := h.legal found
  rw [List.mem_append, not_or] at free
  exact ⟨identifier, free⟩

end SheetCompiler.Naming
