import Mathlib.Data.List.Permutation
import SheetCompiler.Lowering.RawName
import SheetCompiler.Proofs.Address.Spelling
import SheetCompiler.Proofs.Naming.FirstFree
import SheetCompiler.Proofs.OrderedMap

/-!
# Raw names are unique

No two cells share a raw name. The candidates of a name are distinct and outnumber the names that
are taken, so every sheet gets a prefix of its own, even a sheet that the workbook lists twice; and
since a local address holds no underscore, a raw name falls apart at its last one.
-/

namespace SheetCompiler

namespace Lowering

/-- Gives one more sheet a prefix. -/
def assignPrefix (state : Prefixes × List String) (sheet : String) : Prefixes × List String :=
  let word := Naming.firstFree (sheetWord sheet) "_" state.2
  (state.1.insert sheet word, word :: state.2)

theorem assignPrefixes_eq (sheets : List String) :
    assignPrefixes sheets = (sheets.foldl assignPrefix (.empty, [])).1 := rfl

/-- Prefixes while they are given out: each is noted as taken, and no two sheets share one. -/
structure PrefixesApart (state : Prefixes × List String) : Prop where
  noted : ∀ {sheet word}, state.1.get? sheet = some word → word ∈ state.2
  apart : ∀ {sheet other word}, state.1.get? sheet = some word → state.1.get? other = some word →
    sheet = other

theorem PrefixesApart.assignPrefix {state : Prefixes × List String} (h : PrefixesApart state)
    (sheet : String) : PrefixesApart (assignPrefix state sheet) := by
  obtain ⟨n, -, word, free⟩ := Naming.firstFree_spec (sheetWord sheet) "_" state.2
  rw [← word] at free
  constructor
  · intro other word found
    simp only [Lowering.assignPrefix, OrderedMap.get?_insert] at found ⊢
    split at found
    case isTrue => exact Option.some.inj found ▸ List.mem_cons_self
    case isFalse => exact List.mem_cons_of_mem _ (h.noted found)
  · intro one other word first second
    simp only [Lowering.assignPrefix, OrderedMap.get?_insert] at first second
    split at first <;> split at second
    case isTrue.isTrue left right => exact left.trans right.symm
    case isTrue.isFalse => exact absurd (h.noted second) (Option.some.inj first ▸ free)
    case isFalse.isTrue => exact absurd (h.noted first) (Option.some.inj second ▸ free)
    case isFalse.isFalse => exact h.apart first second

theorem isSome_get?_assignPrefix {state : Prefixes × List String} {sheet : String} (added : String)
    (h : sheet = added ∨ (state.1.get? sheet).isSome) :
    ((assignPrefix state added).1.get? sheet).isSome := by
  simp only [assignPrefix, OrderedMap.get?_insert]
  split
  case isTrue => rfl
  case isFalse different => exact h.resolve_left different

theorem foldl_assignPrefix {state : Prefixes × List String} (h : PrefixesApart state)
    (sheets : List String) :
    PrefixesApart (sheets.foldl assignPrefix state) ∧
      ∀ sheet, sheet ∈ sheets ∨ (state.1.get? sheet).isSome →
        ((sheets.foldl assignPrefix state).1.get? sheet).isSome := by
  induction sheets generalizing state with
  | nil => simp [h]
  | cons first rest ih =>
      obtain ⟨apart, complete⟩ := ih (h.assignPrefix first)
      refine ⟨apart, fun sheet known => complete sheet ?_⟩
      rw [List.mem_cons] at known
      rcases known with (same | later) | before
      · exact .inr (isSome_get?_assignPrefix first (.inl same))
      · exact .inl later
      · exact .inr (isSome_get?_assignPrefix first (.inr before))

/-- Every sheet has a prefix, and sheets with the same prefix are the same. -/
theorem assignPrefixes_spec (sheets : List String) :
    (∀ {sheet other word}, (assignPrefixes sheets).get? sheet = some word →
      (assignPrefixes sheets).get? other = some word → sheet = other) ∧
      ∀ sheet ∈ sheets, ((assignPrefixes sheets).get? sheet).isSome := by
  have start : PrefixesApart (.empty, []) := ⟨by simp, by simp⟩
  obtain ⟨apart, complete⟩ := foldl_assignPrefix start sheets
  rw [assignPrefixes_eq]
  exact ⟨apart.apart, fun sheet member => complete sheet (.inl member)⟩

/-- While prefixes are given out, each is a candidate of its sheet's word, numbered below the number
of sheets so far. -/
theorem candidate_of_get?_foldl {state : Prefixes × List String}
    (numbered : ∀ {sheet word}, state.1.get? sheet = some word →
      ∃ n < state.2.length, word = Naming.candidate (sheetWord sheet) "_" n)
    {sheets : List String} {sheet word : String}
    (found : (sheets.foldl assignPrefix state).1.get? sheet = some word) :
    ∃ n < state.2.length + sheets.length, word = Naming.candidate (sheetWord sheet) "_" n := by
  induction sheets generalizing state with
  | nil => exact numbered found
  | cons first rest ih =>
      have next : ∀ {sheet word}, (assignPrefix state first).1.get? sheet = some word →
          ∃ n < state.2.length + 1, word = Naming.candidate (sheetWord sheet) "_" n := by
        intro sheet word found
        simp only [assignPrefix, OrderedMap.get?_insert] at found
        split at found
        case isTrue same =>
          obtain ⟨n, small, free, -⟩ := Naming.firstFree_spec (sheetWord first) "_" state.2
          refine ⟨n, Nat.lt_succ_of_le small, ?_⟩
          rw [← Option.some.inj found, same, free]
        case isFalse =>
          obtain ⟨n, small, rfl⟩ := numbered found
          exact ⟨n, Nat.lt_succ_of_lt small, rfl⟩
      obtain ⟨n, small, rfl⟩ := ih next found
      refine ⟨n, ?_, rfl⟩
      simp only [assignPrefix, List.length_cons] at small ⊢
      omega

/-- The prefix of a sheet is its word or the word with a number, found before there were more
numbers tried than there are sheets. -/
theorem candidate_of_get?_assignPrefixes {sheets : List String} {sheet word : String}
    (found : (assignPrefixes sheets).get? sheet = some word) :
    ∃ n < sheets.length, word = Naming.candidate (sheetWord sheet) "_" n := by
  rw [assignPrefixes_eq] at found
  simpa using candidate_of_get?_foldl (by simp) found

/-- Texts that agree up to and including an underscore that is the last of each agree on both sides
of it. -/
theorem append_underscore_inj {p q s t : List Char} (hs : '_' ∉ s) (ht : '_' ∉ t)
    (same : p ++ '_' :: s = q ++ '_' :: t) : p = q ∧ s = t := by
  rcases List.append_eq_append_iff.mp same with ⟨middle, rfl, rest⟩ | ⟨middle, rfl, rest⟩
  · cases middle with
    | nil => simpa using rest
    | cons c middle =>
        obtain ⟨-, rfl⟩ := List.cons.inj rest
        exact absurd (by simp) hs
  · cases middle with
    | nil => simpa using rest.symm
    | cons c middle =>
        obtain ⟨-, rfl⟩ := List.cons.inj rest
        exact absurd (by simp) ht

theorem rawName_inj {known : Prefixes} {a b : Address}
    (same : rawName known a = rawName known b) :
    (known.get? a.sheet).getD (sheetWord a.sheet) = (known.get? b.sheet).getD (sheetWord b.sheet) ∧
      a.localText = b.localText := by
  have chars := congrArg String.toList same
  simp only [rawName, String.toList_append, List.append_assoc] at chars
  obtain ⟨before, after⟩ := append_underscore_inj a.underscore_notMem_localText
    b.underscore_notMem_localText chars
  exact ⟨String.toList_inj.mp before, String.toList_inj.mp after⟩

/-- Cells on sheets of the workbook with the same raw name are the same cell. -/
theorem eq_of_rawName {w : Workbook} {a b : Address} (ha : a.sheet ∈ namedSheets w)
    (hb : b.sheet ∈ namedSheets w)
    (same : rawName (sheetPrefixes w) a = rawName (sheetPrefixes w) b) : a = b := by
  obtain ⟨before, after⟩ := rawName_inj same
  obtain ⟨apart, complete⟩ := assignPrefixes_spec (namedSheets w)
  obtain ⟨word, first⟩ := Option.isSome_iff_exists.mp (complete _ ha)
  obtain ⟨word', second⟩ := Option.isSome_iff_exists.mp (complete _ hb)
  have word : word = word' := by simpa [sheetPrefixes, first, second] using before
  exact Address.eq_of_localText (apart first (word ▸ second)) after

theorem mem_namedSheets_of_mentioned {w : Workbook} {a : Address}
    (h : a ∈ directlyReferenced w ∨ a ∈ w.cells.keys) : a.sheet ∈ namedSheets w := by
  rw [namedSheets, List.mem_append]
  by_cases listed : a.sheet ∈ w.sheets
  · exact .inl listed
  · refine .inr ?_
    rw [mem_distinct, List.mem_filter]
    exact ⟨List.mem_map.mpr ⟨a, List.mem_append.mpr h, rfl⟩, by simpa using listed⟩

end Lowering

end SheetCompiler
