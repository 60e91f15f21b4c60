import SheetCompiler.Code.Expr
import SheetCompiler.Proofs.Except
import SheetCompiler.Proofs.OrderedMap

/-!
# Renaming

Renaming an expression looks up its identifiers from left to right. So it fails where a traversal of
the identifiers fails, and its result has the traversal's results for identifiers. All else of the
expression stays: the result is related to the expression form by form, and two renamings one after
the other are one.
-/

namespace SheetCompiler.Code

variable {names names' : String → Option String} {e e' e'' : Expr}

mutual

/-- The second expression is the first one under new names. -/
inductive Renamed (names : String → Option String) : Expr → Expr → Prop
  | literal (l : Literal) : Renamed names (.literal l) (.literal l)
  | null : Renamed names .null .null
  | ident {raw n : String} (found : names raw = some n) : Renamed names (.ident raw) (.ident n)
  | cast {e e' : Expr} (type : ValueType) (operand : Renamed names e e') :
      Renamed names (.cast type e) (.cast type e')
  | unary {e e' : Expr} (op : UnaryOp) (operand : Renamed names e e') :
      Renamed names (.unary op e) (.unary op e')
  | binary {l l' r r' : Expr} (op : BinaryOp) (left : Renamed names l l')
      (right : Renamed names r r') :
      Renamed names (.binary op l r) (.binary op l' r')
  | conditional {c c' y y' n n' : Expr} (test : Renamed names c c') (yes : Renamed names y y')
      (no : Renamed names n n') : Renamed names (.conditional c y n) (.conditional c' y' n')
  | call {args args' : List Expr} (target : String) (each : RenamedAll names args args') :
      Renamed names (.call target args) (.call target args')
  | array {items items' : List Expr} (element : ElementType)
      (each : RenamedAll names items items') :
      Renamed names (.array element items) (.array element items')
  | lambda {e e' : Expr} (body : Renamed names e e') : Renamed names (.lambda e) (.lambda e')

/-- The second expressions are the first ones under new names. -/
inductive RenamedAll (names : String → Option String) : List Expr → List Expr → Prop
  | nil : RenamedAll names [] []
  | cons {e e' : Expr} {rest rest' : List Expr} (first : Renamed names e e')
      (others : RenamedAll names rest rest') : RenamedAll names (e :: rest) (e' :: rest')

end

mutual

theorem renamed_of_rename : (e : Expr) → {e' : Expr} → e.rename names = .ok e' → Renamed names e e'
  | .literal l, _, h => by
      cases h
      exact .literal l
  | .null, _, h => by
      cases h
      exact .null
  | .ident raw, _, h => by
      rw [Expr.rename] at h
      split at h
      · case h_1 found =>
          cases h
          exact .ident found
      · cases h
  | .cast type operand, _, h => by
      obtain ⟨operand', inner, rfl⟩ := map_eq_ok.mp h
      exact .cast type (renamed_of_rename operand inner)
  | .unary op operand, _, h => by
      obtain ⟨operand', inner, rfl⟩ := map_eq_ok.mp h
      exact .unary op (renamed_of_rename operand inner)
  | .lambda body, _, h => by
      obtain ⟨body', inner, rfl⟩ := map_eq_ok.mp h
      exact .lambda (renamed_of_rename body inner)
  | .binary op left right, _, h => by
      obtain ⟨left', first, rest⟩ := bind_eq_ok.mp h
      obtain ⟨right', second, rfl⟩ := map_eq_ok.mp rest
      exact .binary op (renamed_of_rename left first) (renamed_of_rename right second)
  | .conditional test yes no, _, h => by
      obtain ⟨test', first, rest⟩ := bind_eq_ok.mp h
      obtain ⟨yes', second, rest⟩ := bind_eq_ok.mp rest
      obtain ⟨no', third, rfl⟩ := map_eq_ok.mp rest
      exact .conditional (renamed_of_rename test first) (renamed_of_rename yes second)
        (renamed_of_rename no third)
  | .call target args, _, h => by
      obtain ⟨args', inner, rfl⟩ := map_eq_ok.mp h
      exact .call target (renamedAll_of_renameAll args inner)
  | .array element items, _, h => by
      obtain ⟨items', inner, rfl⟩ := map_eq_ok.mp h
      exact .array element (renamedAll_of_renameAll items inner)

theorem renamedAll_of_renameAll : (items : List Expr) → {items' : List Expr} →
    Expr.renameAll names items = .ok items' → RenamedAll names items items'
  | [], _, h => by
      cases h
      exact .nil
  | e :: rest, _, h => by
      obtain ⟨e', first, others⟩ := bind_eq_ok.mp h
      obtain ⟨rest', later, rfl⟩ := map_eq_ok.mp others
      exact .cons (renamed_of_rename e first) (renamedAll_of_renameAll rest later)

end

mutual

theorem Renamed.rename_eq {e e' : Expr} : Renamed names e e' → e.rename names = .ok e'
  | .literal l => rfl
  | .null => rfl
  | .ident found => by rw [Expr.rename, found]
  | .cast type operand => by
      rw [Expr.rename, operand.rename_eq]
      rfl
  | .unary op operand => by
      rw [Expr.rename, operand.rename_eq]
      rfl
  | .binary op left right => by
      rw [Expr.rename, left.rename_eq, right.rename_eq]
      rfl
  | .conditional test yes no => by
      rw [Expr.rename, test.rename_eq, yes.rename_eq, no.rename_eq]
      rfl
  | .call target each => by
      rw [Expr.rename, each.renameAll_eq]
      rfl
  | .array element each => by
      rw [Expr.rename, each.renameAll_eq]
      rfl
  | .lambda body => by
      rw [Expr.rename, body.rename_eq]
      rfl

theorem RenamedAll.renameAll_eq {items items' : List Expr} :
    RenamedAll names items items' → Expr.renameAll names items = .ok items'
  | .nil => rfl
  | .cons first others => by
      rw [Expr.renameAll, first.rename_eq, others.renameAll_eq]
      rfl

end

/-- One renaming after the other. -/
def composed (names names' : String → Option String) (name : String) : Option String :=
  (names name).bind names'

mutual

theorem Renamed.trans {e e' e'' : Expr} :
    Renamed names e e' → Renamed names' e' e'' → Renamed (composed names names') e e''
  | .literal l, .literal _ => .literal l
  | .null, .null => .null
  | .ident found, .ident found' => .ident (Option.bind_eq_some_iff.mpr ⟨_, found, found'⟩)
  | .cast type operand, .cast _ operand' => .cast type (operand.trans operand')
  | .unary op operand, .unary _ operand' => .unary op (operand.trans operand')
  | .binary op left right, .binary _ left' right' =>
      .binary op (left.trans left') (right.trans right')
  | .conditional test yes no, .conditional test' yes' no' =>
      .conditional (test.trans test') (yes.trans yes') (no.trans no')
  | .call target each, .call _ each' => .call target (each.trans each')
  | .array element each, .array _ each' => .array element (each.trans each')
  | .lambda body, .lambda body' => .lambda (body.trans body')

theorem RenamedAll.trans {items items' items'' : List Expr} : RenamedAll names items items' →
    RenamedAll names' items' items'' → RenamedAll (composed names names') items items''
  | .nil, .nil => .nil
  | .cons first others, .cons first' others' => .cons (first.trans first') (others.trans others')

end

section Occurrences

/-- The new name of an identifier. -/
def newName (names : String → Option String) (name : String) : Except CompileError String :=
  match names name with
  | some name' => .ok name'
  | none => .error (.unmappedIdentifier name)

theorem newName_eq_ok_iff {n n' : String} : newName names n = .ok n' ↔ names n = some n' := by
  rw [newName]
  cases names n <;> simp

namespace Expr

mutual

/-- Renaming traverses the identifiers from left to right. -/
theorem map_occurrences_rename (names : String → Option String) : (e : Expr) →
    (e.rename names).map occurrences = e.occurrences.mapM (newName names)
  | .literal _ | .null => rfl
  | .ident name => by
      rw [rename, occurrences, List.mapM_cons, newName]
      cases names name <;> rfl
  | .cast _ operand | .unary _ operand | .lambda operand => by
      rw [rename, occurrences, ← map_occurrences_rename names operand]
      cases operand.rename names <;> rfl
  | .binary _ left right => by
      rw [rename, occurrences, List.mapM_append, ← map_occurrences_rename names left,
        ← map_occurrences_rename names right]
      cases left.rename names with
      | error => rfl
      | ok => cases right.rename names <;> rfl
  | .conditional test yes no => by
      rw [rename, occurrences, List.mapM_append, List.mapM_append,
        ← map_occurrences_rename names test, ← map_occurrences_rename names yes,
        ← map_occurrences_rename names no]
      cases test.rename names with
      | error => rfl
      | ok =>
          cases yes.rename names with
          | error => rfl
          | ok => cases no.rename names <;> rfl
  | .call _ items | .array _ items => by
      rw [rename, occurrences, ← map_occurrencesOf_renameAll names items]
      cases renameAll names items <;> rfl

theorem map_occurrencesOf_renameAll (names : String → Option String) : (items : List Expr) →
    (renameAll names items).map occurrencesOf = (occurrencesOf items).mapM (newName names)
  | [] => rfl
  | e :: rest => by
      rw [renameAll, occurrencesOf, List.mapM_append, ← map_occurrences_rename names e,
        ← map_occurrencesOf_renameAll names rest]
      cases e.rename names with
      | error => rfl
      | ok => cases renameAll names rest <;> rfl

end

end Expr

/-- A traversal fails at the first identifier without a new name. -/
theorem mapM_newName_eq_error_iff {l : List String} {err : CompileError} :
    l.mapM (newName names) = .error err ↔
      ∃ n, l.find? (fun n => (names n).isNone) = some n ∧ err = .unmappedIdentifier n := by
  induction l with
  | nil => simp [pure, Except.pure]
  | cons name rest ih =>
      rw [List.mapM_cons, List.find?_cons, newName]
      cases names name with
      | none =>
          change Except.error (.unmappedIdentifier name) = Except.error err ↔ _
          simp [eq_comm]
      | some name' =>
          have kept :
              rest.mapM (newName names) >>= (fun others => pure (name' :: others)) = .error err ↔
              rest.mapM (newName names) = .error err := by
            rw [bind_eq_error]
            refine or_iff_left ?_
            rintro ⟨others, -, failed⟩
            cases failed
          exact kept.trans ih

namespace Expr

/-- Renaming fails at the first identifier, from left to right, that has no new name. -/
theorem rename_eq_error_iff {err : CompileError} : e.rename names = .error err ↔
    ∃ n, e.occurrences.find? (fun n => (names n).isNone) = some n ∧
      err = .unmappedIdentifier n := by
  rw [← mapM_newName_eq_error_iff, ← map_occurrences_rename, map_eq_error]

/-- Renaming succeeds exactly if every identifier has a new name. -/
theorem exists_rename_iff :
    (∃ e', e.rename names = .ok e') ↔ ∀ n ∈ e.occurrences, (names n).isSome := by
  constructor
  · rintro ⟨e', renamed⟩ n member
    by_contra unnamed
    have missing : (e.occurrences.find? fun n => (names n).isNone).isSome := by
      rw [List.find?_isSome]
      exact ⟨n, member, by simpa using unnamed⟩
    obtain ⟨first, found⟩ := Option.isSome_iff_exists.mp missing
    have failed := rename_eq_error_iff.mpr ⟨first, found, rfl⟩
    cases renamed.symm.trans failed
  · intro named
    cases renamed : e.rename names with
    | ok e' => exact ⟨e', rfl⟩
    | error err =>
        obtain ⟨n, found, -⟩ := rename_eq_error_iff.mp renamed
        have unnamed := List.find?_some found
        have known := named n (List.mem_of_find?_eq_some found)
        simp [Option.isNone_iff_eq_none.mp unnamed] at known

end Expr

/-- The identifiers of the result are the new names of the identifiers, one by one. -/
theorem Renamed.occurrences (h : Renamed names e e') :
    List.Forall₂ (fun n n' => names n = some n') e.occurrences e'.occurrences := by
  have traversed := e.map_occurrences_rename names
  rw [h.rename_eq] at traversed
  have each := mapM_eq_ok.mp traversed.symm
  simpa only [newName_eq_ok_iff] using each

end Occurrences

section Laws

theorem Renamed.mem_identifiers_iff (h : Renamed names e e') {n' : String} :
    n' ∈ e'.identifiers ↔ ∃ n ∈ e.identifiers, names n = some n' := by
  simp only [Expr.identifiers, mem_distinct]
  constructor
  · exact exists_left_of_forall₂ h.occurrences
  · rintro ⟨n, member, found⟩
    obtain ⟨other, member', found'⟩ := exists_right_of_forall₂ h.occurrences member
    rwa [Option.some.inj (found.symm.trans found')]

/-- Renaming the result once more is renaming by both renamings at once. -/
theorem Renamed.rename_iff (h : Renamed names e e') :
    e'.rename names' = .ok e'' ↔ e.rename (composed names names') = .ok e'' := by
  constructor
  · intro renamed
    exact (h.trans (renamed_of_rename e' renamed)).rename_eq
  · intro renamed
    have named : ∀ n' ∈ e'.occurrences, (names' n').isSome := by
      intro n' member
      obtain ⟨n, before, found⟩ := exists_left_of_forall₂ h.occurrences member
      have both := Expr.exists_rename_iff.mp ⟨e'', renamed⟩ n before
      rwa [composed, found, Option.bind_some] at both
    obtain ⟨other, renamed'⟩ := Expr.exists_rename_iff.mpr named
    have same := (h.trans (renamed_of_rename e' renamed')).rename_eq
    rw [renamed', ← same, renamed]

theorem find?_of_forall₂ {l l' : List String}
    (h : List.Forall₂ (fun n n' => names n = some n') l l') :
    l'.find? (fun n' => (names' n').isNone) =
      (l.find? fun n => (composed names names' n).isNone).bind names := by
  induction h with
  | nil => rfl
  | @cons n n' rest rest' found others ih =>
      have both : composed names names' n = names' n' := by rw [composed, found, Option.bind_some]
      rw [List.find?_cons, List.find?_cons, both, ih]
      cases names' n' with
      | none => exact found.symm
      | some _ => rfl

/-- Where both renamings at once fail, the second one fails after the first, at the new name. -/
theorem Renamed.rename_eq_error (h : Renamed names e e') {n : String}
    (failed : e.rename (composed names names') = .error (.unmappedIdentifier n)) :
    ∃ n', names n = some n' ∧ e'.rename names' = .error (.unmappedIdentifier n') := by
  obtain ⟨first, found, same⟩ := Expr.rename_eq_error_iff.mp failed
  obtain rfl : n = first := by cases same; rfl
  obtain ⟨n', -, renamed⟩ := exists_right_of_forall₂ h.occurrences (List.mem_of_find?_eq_some found)
  have found' : e'.occurrences.find? (fun n' => (names' n').isNone) = _ :=
    find?_of_forall₂ h.occurrences
  rw [found, Option.bind_some, renamed] at found'
  exact ⟨n', renamed, Expr.rename_eq_error_iff.mpr ⟨n', found', rfl⟩⟩

theorem getElem?_of_forall₂ {l l' : List String}
    (h : List.Forall₂ (fun n n' => names n = some n') l l') (i : Nat) :
    l'[i]? = l[i]?.bind names := by
  induction h generalizing i with
  | nil => rfl
  | cons found others ih =>
      cases i with
      | zero => simp [found]
      | succ i => simpa using ih i

/-- Under new names that are all different the same identifiers are equal. -/
theorem Renamed.getElem?_occurrences_eq_iff (h : Renamed names e e')
    (different : ∀ n ∈ e.identifiers, ∀ m ∈ e.identifiers, names n = names m → n = m) (i j : Nat) :
    e'.occurrences[i]? = e'.occurrences[j]? ↔ e.occurrences[i]? = e.occurrences[j]? := by
  have named {n : String} {i : Nat} (occurs : e.occurrences[i]? = some n) : names n ≠ none := by
    obtain ⟨n', -, found⟩ := exists_right_of_forall₂ h.occurrences (List.mem_of_getElem? occurs)
    rw [found]
    exact Option.some_ne_none n'
  simp only [Expr.identifiers, mem_distinct] at different
  rw [getElem?_of_forall₂ h.occurrences, getElem?_of_forall₂ h.occurrences]
  refine ⟨fun same => ?_, fun same => by rw [same]⟩
  cases first : e.occurrences[i]? with
  | none =>
      cases second : e.occurrences[j]? with
      | none => rfl
      | some m =>
          rw [first, second] at same
          exact absurd same.symm (named second)
  | some n =>
      cases second : e.occurrences[j]? with
      | none =>
          rw [first, second] at same
          exact absurd same (named first)
      | some m =>
          rw [first, second] at same
          rw [different n (List.mem_of_getElem? first) m (List.mem_of_getElem? second) same]

/-- The laws of a renaming that succeeds. -/
structure RenamingLaws (names : String → Option String) (e e' : Expr) : Prop where
  /-- Nothing but the identifiers changes. -/
  renamed : Renamed names e e'
  /-- The identifiers of the result are the new names. -/
  identifiers : ∀ n', n' ∈ e'.identifiers ↔ ∃ n ∈ e.identifiers, names n = some n'
  /-- A second renaming gives what both renamings give at once, -/
  composes : ∀ names' e'', e'.rename names' = .ok e'' ↔ e.rename (composed names names') = .ok e''
  /-- and fails where both at once fail, at the new name of that identifier. -/
  failsAlike : ∀ names' n, e.rename (composed names names') = .error (.unmappedIdentifier n) →
    ∃ n', names n = some n' ∧ e'.rename names' = .error (.unmappedIdentifier n')
  /-- Where the new names are different, the same identifiers are equal. -/
  occurrences : (∀ n ∈ e.identifiers, ∀ m ∈ e.identifiers, names n = names m → n = m) →
    ∀ i j : Nat, e'.occurrences[i]? = e'.occurrences[j]? ↔ e.occurrences[i]? = e.occurrences[j]?

/-- Renaming succeeds exactly if every identifier has a new name, and otherwise reports the first
one that has none. What it gives is the expression under the new names. -/
theorem rename_laws (e : Expr) (names : String → Option String) :
    ((∃ e', e.rename names = .ok e') ↔ ∀ n ∈ e.identifiers, (names n).isSome) ∧
      (∀ err, e.rename names = .error err ↔
        ∃ n, e.occurrences.find? (fun n => (names n).isNone) = some n ∧
          err = .unmappedIdentifier n) ∧
      ∀ e', e.rename names = .ok e' → RenamingLaws names e e' := by
  refine ⟨?_, fun err => Expr.rename_eq_error_iff, ?_⟩
  · simp only [Expr.exists_rename_iff, Expr.identifiers, mem_distinct]
  · intro e' succeeds
    have renamed := renamed_of_rename e succeeds
    exact {
      renamed
      identifiers := fun n' => renamed.mem_identifiers_iff
      composes := fun names' e'' => renamed.rename_iff
      failsAlike := fun names' n => renamed.rename_eq_error
      occurrences := renamed.getElem?_occurrences_eq_iff }

/-- The share of an amount in a sum, in raw names. -/
def share : Expr :=
  .binary .div (.ident "S_A1")
    (.call "Math.Max" [.binary .add (.ident "S_A2") (.ident "S_A1"), .ident "S_A3"])

/-- New names for the first `n` cells of column `A`. -/
def amounts (n : Nat) (name : String) : Option String :=
  ([("S_A1", "amount"), ("S_A2", "rest"), ("S_A3", "least")].take n).lookup name

/-- With three names the share is renamed, under the laws. With one, the second amount is the first
without a name, though the third has none either. -/
theorem share_rename_laws :
    (∃ e', share.rename (amounts 3) = .ok e' ∧ RenamingLaws (amounts 3) share e') ∧
      share.rename (amounts 1) = .error (.unmappedIdentifier "S_A2") := by
  obtain ⟨succeeds, -, laws⟩ := rename_laws share (amounts 3)
  have named : ∀ n ∈ share.identifiers, (amounts 3 n).isSome := by
    simp only [Expr.identifiers, mem_distinct]
    decide +kernel
  obtain ⟨e', renamed⟩ := succeeds.mpr named
  refine ⟨⟨e', renamed, laws e' renamed⟩, ?_⟩
  exact ((rename_laws share (amounts 1)).2.1 _).mpr ⟨"S_A2", by decide +kernel, rfl⟩

end Laws

end SheetCompiler.Code
