/-!
# Maps in key order

A finite map is the list of its entries in strictly ascending key order. Two maps with the same
entries are equal, every traversal runs in key order, and the order needs no separate sort.
-/

namespace SheetCompiler

/-- A finite map from `κ` to `α`, held as its entries in strictly ascending key order. -/
structure OrderedMap (κ α : Type) [Ord κ] where
  /-- The entries, least key first. -/
  toList : List (κ × α)
  ascending : toList.Pairwise fun a b => compare a.1 b.1 = .lt

namespace OrderedMap

variable {κ α β : Type} [Ord κ]

instance [BEq κ] [BEq α] : BEq (OrderedMap κ α) where
  beq a b := a.toList == b.toList

/-- The map without entries. -/
def empty : OrderedMap κ α :=
  ⟨[], .nil⟩

instance : Inhabited (OrderedMap κ α) := ⟨empty⟩

@[ext] theorem ext {a b : OrderedMap κ α} (h : a.toList = b.toList) : a = b := by
  cases a; cases b; simp_all

/-- The value in the first entry of a list whose key compares equal to `k`. -/
def lookup (k : κ) : List (κ × α) → Option α
  | [] => none
  | (key, value) :: rest =>
    match compare k key with
    | .lt => none
    | .eq => some value
    | .gt => lookup k rest

/-- The value stored under `k`. -/
def get? (m : OrderedMap κ α) (k : κ) : Option α :=
  lookup k m.toList

/-- `k` has an entry. -/
def contains (m : OrderedMap κ α) (k : κ) : Bool :=
  (m.get? k).isSome

/-- The keys, ascending. -/
def keys (m : OrderedMap κ α) : List κ :=
  m.toList.map Prod.fst

/-- The values in the order of their keys. -/
def values (m : OrderedMap κ α) : List α :=
  m.toList.map Prod.snd

/-- The number of entries. -/
def size (m : OrderedMap κ α) : Nat :=
  m.toList.length

/-- Insertion into ascending entries; an entry with the same key is replaced. -/
def insertEntry (k : κ) (v : α) : List (κ × α) → List (κ × α)
  | [] => [(k, v)]
  | (key, value) :: rest =>
    match compare k key with
    | .lt => (k, v) :: (key, value) :: rest
    | .eq => (k, v) :: rest
    | .gt => (key, value) :: insertEntry k v rest

theorem mem_insertEntry {k : κ} {v : α} {e : κ × α} {entries : List (κ × α)}
    (h : e ∈ insertEntry k v entries) : e = (k, v) ∨ e ∈ entries := by
  induction entries with
  | nil => simpa [insertEntry] using h
  | cons entry rest ih =>
    obtain ⟨key, value⟩ := entry
    rw [insertEntry] at h
    split at h
    · simpa using h
    · simp only [List.mem_cons] at h ⊢
      exact h.imp_right .inr
    · simp only [List.mem_cons] at h ⊢
      rcases h with h | h
      · exact .inr (.inl h)
      · exact (ih h).imp_right .inr

theorem insertEntry_ascending [Std.TransOrd κ] {k : κ} {v : α} {entries : List (κ × α)}
    (h : entries.Pairwise fun a b => compare a.1 b.1 = .lt) :
    (insertEntry k v entries).Pairwise fun a b => compare a.1 b.1 = .lt := by
  induction entries with
  | nil => simp [insertEntry]
  | cons entry rest ih =>
    obtain ⟨key, value⟩ := entry
    obtain ⟨above, tail⟩ := List.pairwise_cons.mp h
    rw [insertEntry]
    split
    · rename_i below
      refine List.pairwise_cons.mpr ⟨fun e he => ?_, h⟩
      rcases List.mem_cons.mp he with rfl | he
      · exact below
      · exact Std.TransCmp.lt_trans below (above e he)
    · rename_i same
      refine List.pairwise_cons.mpr ⟨fun e he => ?_, tail⟩
      exact Std.TransCmp.lt_of_eq_of_lt same (above e he)
    · rename_i beyond
      refine List.pairwise_cons.mpr ⟨fun e he => ?_, ih tail⟩
      rcases mem_insertEntry he with rfl | he
      · exact Std.OrientedCmp.lt_of_gt beyond
      · exact above e he

/-- The map with `v` under `k`, in place of what `k` held before. -/
def insert [Std.TransOrd κ] (m : OrderedMap κ α) (k : κ) (v : α) : OrderedMap κ α :=
  ⟨insertEntry k v m.toList, insertEntry_ascending m.ascending⟩

/-- The map of a list of entries; of entries with the same key the last one counts. -/
def ofList [Std.TransOrd κ] (entries : List (κ × α)) : OrderedMap κ α :=
  entries.foldl (fun m e => m.insert e.1 e.2) empty

/-- Every value replaced by a function of its entry. -/
def mapEntries (f : κ → α → β) (m : OrderedMap κ α) : OrderedMap κ β :=
  ⟨m.toList.map fun e => (e.1, f e.1 e.2), by
    rw [List.pairwise_map]
    exact m.ascending⟩

/-- The entries for which `f` has a value, with that value. -/
def filterMap (f : κ → α → Option β) (m : OrderedMap κ α) : OrderedMap κ β :=
  ⟨m.toList.filterMap fun e => (f e.1 e.2).map fun v => (e.1, v), by
    rw [List.pairwise_filterMap]
    refine m.ascending.imp fun {a b} below x hx y hy => ?_
    obtain ⟨_, _, rfl⟩ := Option.map_eq_some_iff.mp hx
    obtain ⟨_, _, rfl⟩ := Option.map_eq_some_iff.mp hy
    exact below⟩

/-- The map without the entry of `k`. -/
def erase (m : OrderedMap κ α) (k : κ) : OrderedMap κ α :=
  ⟨m.toList.filter fun e => (compare k e.1).isNe, m.ascending.filter _⟩

/-- The entry with the least key, and the map without it. -/
def pop? : OrderedMap κ α → Option ((κ × α) × OrderedMap κ α)
  | ⟨[], _⟩ => none
  | ⟨e :: rest, ascending⟩ => some (e, ⟨rest, ascending.of_cons⟩)

/-- What is read under a key is one of the entries. -/
theorem mem_of_get? [Std.LawfulEqOrd κ] {m : OrderedMap κ α} {k : κ} {v : α}
    (h : m.get? k = some v) : (k, v) ∈ m.toList := by
  have found : ∀ entries : List (κ × α), lookup k entries = some v → (k, v) ∈ entries := by
    intro entries
    induction entries with
    | nil => simp [lookup]
    | cons entry rest ih =>
      obtain ⟨key, value⟩ := entry
      rw [lookup]
      split
      · simp
      · rename_i same
        have := Std.LawfulEqCmp.eq_of_compare same
        simp_all
      · exact fun h => List.mem_cons_of_mem _ (ih h)
  exact found m.toList h

@[simp] theorem toList_empty : (empty : OrderedMap κ α).toList = [] := rfl

@[simp] theorem get?_empty (k : κ) : (empty : OrderedMap κ α).get? k = none := rfl

@[simp] theorem toList_insert [Std.TransOrd κ] (m : OrderedMap κ α) (k : κ) (v : α) :
    (m.insert k v).toList = insertEntry k v m.toList := rfl

/-- What was written under a key is read there. -/
@[simp] theorem get?_insert_self [Std.TransOrd κ] (m : OrderedMap κ α) (k : κ) (v : α) :
    (m.insert k v).get? k = some v := by
  have found : ∀ entries : List (κ × α), lookup k (insertEntry k v entries) = some v := by
    intro entries
    induction entries with
    | nil => simp [insertEntry, lookup, Std.ReflCmp.compare_self]
    | cons entry rest ih =>
      obtain ⟨key, value⟩ := entry
      rw [insertEntry]
      split
      · simp [lookup, Std.ReflCmp.compare_self]
      · simp [lookup, Std.ReflCmp.compare_self]
      · rename_i beyond
        simp [lookup, beyond, ih]
  exact found m.toList

/-- Writing under one key leaves the others as they were. -/
theorem get?_insert_of_ne [Std.TransOrd κ] (m : OrderedMap κ α) {k key : κ} (v : α)
    (h : compare key k ≠ .eq) : (m.insert k v).get? key = m.get? key := by
  have same : ∀ entries : List (κ × α),
      lookup key (insertEntry k v entries) = lookup key entries := by
    intro entries
    induction entries with
    | nil =>
      cases hc : compare key k <;> simp_all [insertEntry, lookup]
    | cons entry rest ih =>
      obtain ⟨other, value⟩ := entry
      rw [insertEntry]
      split
      · rename_i below
        cases hc : compare key k with
        | eq => exact absurd hc h
        | lt => simp [lookup, hc, Std.TransCmp.lt_trans hc below]
        | gt => simp [lookup, hc]
      · rename_i equal
        have agree : compare key k = compare key other := Std.TransCmp.congr_right equal
        rw [lookup, lookup, ← agree]
        cases hc : compare key k with
        | eq => exact absurd hc h
        | lt => rfl
        | gt => rfl
      · simp only [lookup]
        split <;> simp_all
  exact same m.toList

theorem toList_of_pop? {m rest : OrderedMap κ α} {e : κ × α} (h : m.pop? = some (e, rest)) :
    m.toList = e :: rest.toList := by
  obtain ⟨entries, ascending⟩ := m
  cases entries with
  | nil => cases h
  | cons first others =>
    cases h
    rfl

theorem size_of_pop? {m rest : OrderedMap κ α} {e : κ × α} (h : m.pop? = some (e, rest)) :
    m.size = rest.size + 1 := by
  rw [size, toList_of_pop? h]
  rfl

theorem size_insert_le [Std.TransOrd κ] (m : OrderedMap κ α) (k : κ) (v : α) :
    (m.insert k v).size ≤ m.size + 1 := by
  have bound : ∀ entries : List (κ × α), (insertEntry k v entries).length ≤ entries.length + 1 := by
    intro entries
    induction entries with
    | nil => simp [insertEntry]
    | cons entry rest ih =>
      rw [insertEntry]
      split <;> simp [ih]
  exact bound m.toList

/-- Writing under a key with an entry adds none. -/
theorem size_insert_of_get? [Std.TransOrd κ] {m : OrderedMap κ α} {k : κ} {held : α}
    (h : m.get? k = some held) (v : α) : (m.insert k v).size = m.size := by
  have same : ∀ entries : List (κ × α), lookup k entries = some held →
      (insertEntry k v entries).length = entries.length := by
    intro entries found
    induction entries with
    | nil => cases found
    | cons entry rest ih =>
      rw [lookup] at found
      rw [insertEntry]
      split at found <;> simp_all
  exact same m.toList h

theorem size_erase_of_get? {m : OrderedMap κ α} {k : κ} {held : α} (h : m.get? k = some held) :
    (m.erase k).size < m.size := by
  have known : ∀ entries : List (κ × α), lookup k entries = some held →
      ∃ e ∈ entries, compare k e.1 = .eq := by
    intro entries found
    induction entries with
    | nil => cases found
    | cons entry rest ih =>
      rw [lookup] at found
      split at found
      · cases found
      · rename_i same
        exact ⟨entry, List.mem_cons_self, same⟩
      · obtain ⟨e, member, same⟩ := ih found
        exact ⟨e, List.mem_cons_of_mem _ member, same⟩
  obtain ⟨e, member, same⟩ := known m.toList h
  exact List.length_filter_lt_length_iff_exists.mpr ⟨e, member, by simp [same]⟩

end OrderedMap

end SheetCompiler
