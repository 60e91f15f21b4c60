import SheetCompiler.Proofs.Except
import SheetCompiler.Proofs.Naming.Assignment

/-!
# How final names start

Every final name is a candidate of the name that its statement asks for, and these start with a
small letter or an underscore.
-/

namespace SheetCompiler.Naming

open Lowering (Statement)

/-- The name starts with a small letter or an underscore. -/
def StartsSmall (s : String) : Prop :=
  ∃ c rest, s.toList = c :: rest ∧ (c.isLower ∨ c = '_')

theorem StartsSmall.append {s : String} (h : StartsSmall s) (t : String) :
    StartsSmall (s ++ t) := by
  obtain ⟨c, rest, chars, small⟩ := h
  refine ⟨c, rest ++ t.toList, ?_, small⟩
  rw [String.toList_append, chars, List.cons_append]

theorem StartsSmall.candidate {base : String} (h : StartsSmall base) (n : Nat) :
    StartsSmall (candidate base "" n) := by
  cases n with
  | zero => exact h
  | succ n => exact (h.append "").append _

/-- Free text gives a name that starts small, unless it gives nothing. -/
theorem startsSmall_camelCase {s : String} (h : (camelCase s).isEmpty = false) :
    StartsSmall (camelCase s) := by
  rw [camelCase] at h ⊢
  split at h
  case h_1 => cases h
  case h_2 c rest chars =>
    rw [chars]
    by_cases digit : c.isDigit
    · exact ⟨'_', c :: rest, by simp [digit], .inr rfl⟩
    · refine ⟨c, rest, by simp [digit], .inl ?_⟩
      cases found : words s with
      | nil =>
          rw [found] at chars
          cases chars
      | cons first others =>
          have listed : first ∈ words s := found ▸ List.mem_cons_self
          cases first with
          | nil => simp [words] at listed
          | cons d ds =>
              rw [found] at chars
              obtain ⟨rfl, -⟩ := List.cons.inj chars
              refine Text.isLower_toLower
                ((letter_or_digit_of_mem_words listed List.mem_cons_self).resolve_right ?_)
              intro isDigit
              rw [Text.toLower_of_isDigit isDigit] at digit
              exact digit isDigit

theorem startsSmall_unlabelledName (cell : Address) : StartsSmall (unlabelledName cell) := by
  have sheet : StartsSmall
      (if (camelCase cell.sheet).isEmpty then "sheet" else camelCase cell.sheet) := by
    split
    case isTrue => exact ⟨'s', "heet".toList, by decide +kernel, .inl (by decide)⟩
    case isFalse some => exact startsSmall_camelCase (Bool.eq_false_iff.mpr some)
  rw [unlabelledName]
  exact (sheet.append _).append _

theorem startsSmall_wantedName (s : Statement) : StartsSmall (wantedName s) := by
  rw [wantedName]
  split
  case isTrue => exact startsSmall_unlabelledName s.cell
  case isFalse labelled =>
    cases label : s.label with
    | none =>
        rw [label] at labelled
        exact absurd rfl labelled
    | some text =>
        rw [label] at labelled
        exact startsSmall_camelCase (Bool.eq_false_iff.mpr labelled)

/-- The names given so far are candidates of what statements ask for. -/
def Asked (statements : List Statement) (names : Mapping) : Prop :=
  ∀ raw name, names.get? raw = some name → ∃ s ∈ statements, ∃ n,
  name = candidate (wantedName s) "" n

theorem Asked.extend {statements : List Statement} {names next : Mapping} {reserved : List String}
    {limit : Nat} {s : Statement} (h : Asked statements names) (member : s ∈ statements)
    (extended : names.extend reserved limit s = .ok next) : Asked statements next := by
  rw [Mapping.extend] at extended
  split at extended
  case isTrue =>
    cases extended
    exact h
  case isFalse =>
    split at extended
    case h_2 => cases extended
    case h_1 given free =>
      cases extended
      intro raw name found
      rw [OrderedMap.get?_insert] at found
      split at found
      case isTrue =>
        cases found
        obtain ⟨n, -, rfl⟩ := List.mem_map.mp (List.mem_of_find?_eq_some free)
        exact ⟨s, member, n, rfl⟩
      case isFalse => exact h raw name found

theorem Asked.foldlM {statements : List Statement} {names last : Mapping} {reserved : List String}
    {limit : Nat} {rest : List Statement} (h : Asked statements names)
    (inside : ∀ s ∈ rest, s ∈ statements)
    (folded : rest.foldlM (Mapping.extend reserved limit) names = .ok last) :
    Asked statements last := by
  induction rest generalizing names with
  | nil =>
      cases folded
      exact h
  | cons s rest ih =>
      rw [List.foldlM_cons, bind_eq_ok] at folded
      obtain ⟨next, extended, folded⟩ := folded
      rw [List.forall_mem_cons] at inside
      exact ih (h.extend inside.1 extended) inside.2 folded

theorem asked_of_assign {extra : List String} {statements : List Statement} {names : Mapping}
    (h : assign extra statements = .ok names) : Asked statements names := by
  refine Asked.foldlM ?_ (fun s => id) h
  intro raw name found
  cases found

/-- Every final name starts small. -/
theorem startsSmall_of_assign {extra : List String} {statements : List Statement} {names : Mapping}
    (h : assign extra statements = .ok names) {raw name : String}
    (found : names.get? raw = some name) : StartsSmall name := by
  obtain ⟨s, -, n, rfl⟩ := asked_of_assign h raw name found
  exact (startsSmall_wantedName s).candidate n

end SheetCompiler.Naming
