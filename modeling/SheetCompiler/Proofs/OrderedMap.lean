import SheetCompiler.Ascending
import SheetCompiler.OrderedMap

/-!
# Membership in ordered maps and ascending lists

Entries and look-up are two views of one map: an entry is in the list exactly if look-up finds it.
All operations that keep the keys are described by what look-up finds afterwards, so that later
modules never open the list of entries.
-/

namespace SheetCompiler

section Ascending

variable {α : Type} [Ord α] {l l' : List α}

/-- Strictly ascending elements are different. -/
theorem nodup_of_ascending [Std.ReflOrd α] (h : l.Pairwise fun a b => compare a b = .lt) :
    l.Nodup := by
  refine h.imp fun {a b} below same => ?_
  subst same
  have equal : compare a a = .eq := Std.ReflCmp.compare_self
  cases equal.symm.trans below

/-- Ascending lists of the same elements are equal. -/
theorem eq_of_ascending [Std.TransOrd α] (h : l.Pairwise fun a b => compare a b = .lt)
    (h' : l'.Pairwise fun a b => compare a b = .lt) (same : ∀ a, a ∈ l ↔ a ∈ l') : l = l' := by
  have perm := (List.perm_ext_iff_of_nodup (nodup_of_ascending h) (nodup_of_ascending h')).mpr same
  refine perm.eq_of_pairwise (fun a b _ _ below above => ?_) h h'
  rw [Std.OrientedCmp.gt_of_lt below] at above
  cases above

end Ascending

namespace OrderedMap

variable {κ α β : Type} [Ord κ]

section Lookup

variable [Std.TransOrd κ] [Std.LawfulEqOrd κ]

private theorem lookup_eq_some {k : κ} {v : α} {entries : List (κ × α)}
    (ascending : entries.Pairwise fun a b => compare a.1 b.1 = .lt)
    (member : (k, v) ∈ entries) : lookup k entries = some v := by
  induction entries with
  | nil => cases member
  | cons entry rest ih =>
      obtain ⟨above, tail⟩ := List.pairwise_cons.mp ascending
      rcases List.mem_cons.mp member with rfl | later
      · simp only [lookup, Std.ReflCmp.compare_self]
      · have beyond : compare k entry.1 = .gt := Std.OrientedCmp.gt_of_lt (above _ later)
        simp only [lookup, beyond]
        exact ih tail later

/-- Look-up finds exactly the entries. -/
theorem get?_eq_some_iff {m : OrderedMap κ α} {k : κ} {v : α} :
    m.get? k = some v ↔ (k, v) ∈ m.toList :=
  ⟨mem_of_get?, lookup_eq_some m.ascending⟩

theorem get?_insert [DecidableEq κ] (m : OrderedMap κ α) (k key : κ) (v : α) :
    (m.insert k v).get? key = if key = k then some v else m.get? key := by
  split
  case isTrue same => rw [same, get?_insert_self]
  case isFalse different =>
    exact get?_insert_of_ne m v fun equal => different (Std.LawfulEqCmp.eq_of_compare equal)

/-- What a map of listed entries holds was listed. -/
theorem mem_of_get?_ofList [DecidableEq κ] {entries : List (κ × α)} {k : κ} {v : α}
    (h : (ofList entries).get? k = some v) : (k, v) ∈ entries := by
  have listed : ∀ (entries : List (κ × α)) (m : OrderedMap κ α),
      (entries.foldl (fun m e => m.insert e.1 e.2) m).get? k = some v →
        (k, v) ∈ entries ∨ m.get? k = some v := by
    intro entries
    induction entries with
    | nil => exact fun m found => .inr found
    | cons entry rest ih =>
        intro m found
        rcases ih _ found with later | first
        · exact .inl (List.mem_cons_of_mem _ later)
        · rw [get?_insert] at first
          split at first
          case isTrue same =>
            rw [same, ← Option.some.inj first]
            exact .inl List.mem_cons_self
          case isFalse => exact .inr first
  refine (listed entries .empty h).resolve_right ?_
  rw [get?_empty]
  exact nofun

/-- A listed key has an entry. -/
theorem isSome_get?_ofList [DecidableEq κ] {entries : List (κ × α)} {k : κ} {v : α}
    (h : (k, v) ∈ entries) : ((ofList entries).get? k).isSome := by
  have kept : ∀ (entries : List (κ × α)) (m : OrderedMap κ α), (k, v) ∈ entries ∨
      (m.get? k).isSome →
      ((entries.foldl (fun m e => m.insert e.1 e.2) m).get? k).isSome := by
    intro entries
    induction entries with
    | nil => exact fun m found => found.resolve_left List.not_mem_nil
    | cons entry rest ih =>
        intro m found
        refine ih _ ?_
        rw [get?_insert]
        rcases found with listed | known
        · rcases List.mem_cons.mp listed with rfl | later
          · exact .inr (by simp)
          · exact .inl later
        · refine .inr ?_
          split
          · rfl
          · exact known
  exact kept entries .empty (.inl h)

@[simp] theorem get?_mapEntries (m : OrderedMap κ α) (f : κ → α → β) (k : κ) :
    (m.mapEntries f).get? k = (m.get? k).map (f k) := by
  ext b
  rw [get?_eq_some_iff, Option.map_eq_some_iff]
  simp only [mapEntries, List.mem_map, Prod.mk.injEq, Prod.exists, get?_eq_some_iff]
  constructor
  · rintro ⟨key, v, member, rfl, rfl⟩
    exact ⟨v, member, rfl⟩
  · rintro ⟨v, member, rfl⟩
    exact ⟨k, v, member, rfl, rfl⟩

@[simp] theorem get?_filterMap (m : OrderedMap κ α) (f : κ → α → Option β) (k : κ) :
    (m.filterMap f).get? k = (m.get? k).bind (f k) := by
  ext b
  rw [get?_eq_some_iff, Option.bind_eq_some_iff]
  simp only [filterMap, List.mem_filterMap, Option.map_eq_some_iff, Prod.mk.injEq, Prod.exists,
    get?_eq_some_iff]
  constructor
  · rintro ⟨key, v, member, value, found, rfl, rfl⟩
    exact ⟨v, member, found⟩
  · rintro ⟨v, member, found⟩
    exact ⟨k, v, member, b, found, rfl, rfl⟩

theorem mem_keys_iff {m : OrderedMap κ α} {k : κ} : k ∈ m.keys ↔ (m.get? k).isSome := by
  simp only [keys, List.mem_map, Prod.exists, exists_and_right, exists_eq_right,
    Option.isSome_iff_exists, get?_eq_some_iff]

theorem get?_erase [DecidableEq κ] (m : OrderedMap κ α) (k key : κ) :
    (m.erase k).get? key = if key = k then none else m.get? key := by
  ext v
  have equal : (compare k key).isNe ↔ key ≠ k := by
    rw [Ordering.isNe_iff_ne_eq, Ne, Std.LawfulEqCmp.compare_eq_iff_eq, eq_comm]
  rw [get?_eq_some_iff, erase, List.mem_filter, equal, ← get?_eq_some_iff]
  split <;> simp_all

section Popping

variable {m rest : OrderedMap κ α} {k key : κ} {v value : α}

theorem get?_self_of_pop? (h : m.pop? = some ((k, v), rest)) : m.get? k = some v := by
  rw [get?_eq_some_iff, toList_of_pop? h]
  exact List.mem_cons_self

/-- What is popped is the least entry. -/
theorem isLE_of_pop? (h : m.pop? = some ((k, v), rest)) (held : m.get? key = some value) :
    (compare k key).isLE := by
  have ascending := m.ascending
  rw [get?_eq_some_iff, toList_of_pop? h] at held
  rw [toList_of_pop? h] at ascending
  rcases List.mem_cons.mp held with same | later
  · cases same
    exact Std.ReflCmp.isLE_rfl
  · rw [List.rel_of_pairwise_cons ascending later]
    rfl

/-- The other entries stay. -/
theorem get?_of_pop? [DecidableEq κ] (h : m.pop? = some ((k, v), rest)) (key : κ) :
    rest.get? key = if key = k then none else m.get? key := by
  have ascending := m.ascending
  rw [toList_of_pop? h] at ascending
  ext value
  have above : (key, value) ∈ rest.toList → key ≠ k := by
    rintro later rfl
    have below := List.rel_of_pairwise_cons ascending later
    have equal : compare key key = .eq := Std.ReflCmp.compare_self
    cases equal.symm.trans below
  have held : m.get? key = some value ↔ (key = k ∧ value = v) ∨ (key, value) ∈ rest.toList := by
    rw [get?_eq_some_iff, toList_of_pop? h, List.mem_cons, Prod.mk.injEq]
  split <;> simp_all [get?_eq_some_iff]

end Popping

end Lookup

theorem get?_of_pop?_eq_none {m : OrderedMap κ α} (h : m.pop? = none) (k : κ) :
    m.get? k = none := by
  obtain ⟨entries, ascending⟩ := m
  cases entries with
  | nil => rfl
  | cons => cases h

theorem keys_ascending (m : OrderedMap κ α) : m.keys.Pairwise fun a b => compare a b = .lt :=
  List.pairwise_map.mpr m.ascending

theorem keys_nodup [Std.ReflOrd κ] (m : OrderedMap κ α) : m.keys.Nodup :=
  nodup_of_ascending m.keys_ascending

/-- Maps in which look-up finds the same are equal. -/
theorem ext_get? [Std.TransOrd κ] [Std.LawfulEqOrd κ] {m m' : OrderedMap κ α}
    (h : ∀ k, m.get? k = m'.get? k) : m = m' := by
  have once : ∀ m : OrderedMap κ α, m.toList.Nodup := fun m =>
    List.Pairwise.of_map Prod.fst (fun a b different same => different (congrArg Prod.fst same))
      m.keys_nodup
  have perm : m.toList.Perm m'.toList := by
    rw [List.perm_ext_iff_of_nodup (once m) (once m')]
    rintro ⟨k, v⟩
    rw [← get?_eq_some_iff, ← get?_eq_some_iff, h]
  refine OrderedMap.ext (perm.eq_of_pairwise ?_ m.ascending m'.ascending)
  intro a b _ _ below above
  rw [Std.OrientedCmp.gt_of_lt below] at above
  cases above

/-- A map is the map of its entries in any order. -/
theorem ofList_of_perm [DecidableEq κ] [Std.TransOrd κ] [Std.LawfulEqOrd κ] {m : OrderedMap κ α}
    {entries : List (κ × α)} (h : entries.Perm m.toList) : ofList entries = m := by
  refine ext_get? fun k => ?_
  ext v
  constructor
  · intro found
    exact get?_eq_some_iff.mpr (h.mem_iff.mp (mem_of_get?_ofList found))
  · intro found
    have listed := h.mem_iff.mpr (get?_eq_some_iff.mp found)
    obtain ⟨v', held⟩ := Option.isSome_iff_exists.mp (isSome_get?_ofList listed)
    have same := get?_eq_some_iff.mpr (h.mem_iff.mp (mem_of_get?_ofList held))
    rw [held, ← same, found]

theorem ofList_toList [DecidableEq κ] [Std.TransOrd κ] [Std.LawfulEqOrd κ] (m : OrderedMap κ α) :
    ofList m.toList = m :=
  ofList_of_perm (List.Perm.refl _)

end OrderedMap

section Distinct

variable {α : Type} [DecidableEq α]

private theorem mem_dropRepeats {a : α} {l : List α} : a ∈ dropRepeats l ↔ a ∈ l := by
  fun_induction dropRepeats l with
  | case1 => rfl
  | case2 => rfl
  | case3 b rest ih => simp [ih]
  | case4 b c rest different ih => simp [ih]

/-- Sorting and dropping repetitions keeps every element. -/
@[simp] theorem mem_distinct [Ord α] {a : α} {l : List α} : a ∈ distinct l ↔ a ∈ l := by
  rw [distinct, mem_dropRepeats, sorted]
  exact (List.mergeSort_perm l _).mem_iff

/-- Among ascending elements the equal ones stand together, so that none is left twice. -/
private theorem nodup_dropRepeats [Ord α] [Std.TransOrd α] [Std.LawfulEqOrd α] {l : List α}
    (ascending : l.Pairwise fun a b => (compare a b).isLE) : (dropRepeats l).Nodup := by
  fun_induction dropRepeats l with
  | case1 => exact List.nodup_nil
  | case2 a => exact List.pairwise_singleton _ a
  | case3 b rest ih => exact ih ascending.of_cons
  | case4 a b rest different ih =>
      refine List.nodup_cons.mpr ⟨?_, ih ascending.of_cons⟩
      rw [mem_dropRepeats, List.mem_cons]
      rintro (same | later)
      · exact different same
      · have up := List.rel_of_pairwise_cons ascending List.mem_cons_self
        have down := List.rel_of_pairwise_cons ascending.of_cons later
        exact different (Std.LawfulEqCmp.eq_of_compare (Std.OrientedCmp.isLE_antisymm up down))

omit [DecidableEq α] in
private theorem sorted_ascending [Ord α] [Std.TransOrd α] (l : List α) :
    (sorted l).Pairwise fun a b => (compare a b).isLE := by
  refine List.pairwise_mergeSort ?_ ?_ l
  · intro a b c
    exact Std.TransCmp.isLE_trans
  · intro a b
    have swapped : compare b a = (compare a b).swap := Std.OrientedCmp.eq_swap
    rw [swapped]
    cases compare a b <;> rfl

theorem nodup_distinct [Ord α] [Std.TransOrd α] [Std.LawfulEqOrd α] (l : List α) :
    (distinct l).Nodup :=
  nodup_dropRepeats (sorted_ascending l)

private theorem dropRepeats_sublist (l : List α) : (dropRepeats l).Sublist l := by
  fun_induction dropRepeats l with
  | case1 => exact List.Sublist.refl _
  | case2 a => exact List.Sublist.refl _
  | case3 b rest ih => exact ih.cons b
  | case4 a b rest different ih => exact ih.cons_cons a

/-- Sorting and dropping repetitions leaves strictly ascending elements. -/
theorem distinct_ascending [Ord α] [Std.TransOrd α] [Std.LawfulEqOrd α] (l : List α) :
    (distinct l).Pairwise fun a b => compare a b = .lt := by
  have upward := (sorted_ascending l).sublist (dropRepeats_sublist _)
  refine (upward.and (nodup_distinct l)).imp ?_
  rintro a b ⟨below, different⟩
  cases order : compare a b with
  | lt => rfl
  | eq => exact absurd (Std.LawfulEqCmp.eq_of_compare order) different
  | gt =>
      rw [order] at below
      cases below

end Distinct

end SheetCompiler
