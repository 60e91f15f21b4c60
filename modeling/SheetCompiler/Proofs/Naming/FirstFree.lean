import Mathlib.Data.List.Nodup
import Mathlib.Data.List.Perm.Subperm
import SheetCompiler.Naming.FirstFree

/-!
# There is always a free name

The candidates of a name are distinct, so among one more of them than there are taken names one is
free. Whoever tries them in order gets to it.
-/

namespace SheetCompiler.Naming

theorem candidate_injective (base joint : String) : Function.Injective (candidate base joint) := by
  intro m n same
  have numbered (n : Nat) : base ≠ candidate base joint (n + 1) := by
    intro equal
    have empty := congrArg String.length equal
    have digits := Nat.length_toDigits_pos (b := 10) (n := n + 2)
    simp only [candidate, String.length_append, Nat.toString_eq_ofList_toDigits,
      String.length_ofList] at empty
    omega
  cases m with
  | zero =>
      cases n with
      | zero => rfl
      | succ n => exact absurd same (numbered n)
  | succ m =>
      cases n with
      | zero => exact absurd same.symm (numbered m)
      | succ n =>
          have digits := congrArg String.toList same
          simp only [candidate, String.toList_append, Nat.toString_eq_ofList_toDigits] at digits
          have number :=
            congrArg (fun ds => Nat.ofDigitChars 10 ds 0) (List.append_cancel_left digits)
          simpa using number

/-- Among the first candidates, one more than there are taken names, one is free. -/
theorem exists_candidate_notMem (base joint : String) (taken : List String) :
    ∃ n ≤ taken.length, candidate base joint n ∉ taken := by
  by_contra none
  have covered : (List.range (taken.length + 1)).map (candidate base joint) ⊆ taken := by
    intro name member
    obtain ⟨n, inRange, rfl⟩ := List.mem_map.mp member
    by_contra free
    exact none ⟨n, Nat.le_of_lt_succ (List.mem_range.mp inRange), free⟩
  have apart : ((List.range (taken.length + 1)).map (candidate base joint)).Nodup :=
    List.Nodup.map (candidate_injective base joint) List.nodup_range
  have fewer := (List.subperm_of_subset apart covered).length_le
  rw [List.length_map, List.length_range] at fewer
  exact absurd fewer (Nat.not_succ_le_self _)

/-- The name found is a candidate, free, and numbered no higher than there are taken names. -/
theorem firstFree_spec (base joint : String) (taken : List String) :
    ∃ n ≤ taken.length, firstFree base joint taken = candidate base joint n ∧
      candidate base joint n ∉ taken := by
  obtain ⟨m, small, free⟩ := exists_candidate_notMem base joint taken
  have some : ((List.range (taken.length + 1)).find? fun n =>
      !taken.contains (candidate base joint n)).isSome := by
    refine List.find?_isSome.mpr ⟨m, List.mem_range.mpr (Nat.lt_succ_of_le small), ?_⟩
    simpa using free
  obtain ⟨n, found⟩ := Option.isSome_iff_exists.mp some
  refine ⟨n, ?_, ?_, ?_⟩
  · exact Nat.le_of_lt_succ (List.mem_range.mp (List.mem_of_find?_eq_some found))
  · rw [firstFree, found]
    rfl
  · simpa using List.find?_some found

end SheetCompiler.Naming
