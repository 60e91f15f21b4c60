import Mathlib.Data.List.Chain
import Mathlib.Logic.Relation
import SheetCompiler.Proofs.Dependency.Growth

/-!
# References between formula cells

The relation that evaluation order and circles are about. It is stated on the workbook alone: a
formula cell reads the formula cells among the references of its expression, ranges counting as the
cells they cover. A graph that has grown from the formulas of a workbook shows this relation, and
nothing else about its growth is used afterwards.
-/

namespace SheetCompiler

open Relation

namespace Workbook

/-- The formula at `a` references the cell `b`, which holds a formula too. -/
def Reads (w : Workbook) (a b : Address) : Prop :=
  ∃ expr, w.formula? a = some expr ∧ b ∈ expr.references ∧ (w.formula? b).isSome

/-- Some chain of references leads from the cell back to itself. -/
def Circular (w : Workbook) (a : Address) : Prop :=
  TransGen w.Reads a a

/-- No cell depends on itself. -/
def Acyclic (w : Workbook) : Prop :=
  ∀ a, ¬ w.Circular a

/-- Each formula of the chain reads the next cell, and the last one reads the first. The chain is
kept open: `[A1, B1]` stands for `A1 → B1 → A1`. -/
def ClosedChain (w : Workbook) (chain : List Address) : Prop :=
  chain ≠ [] ∧ (chain ++ chain.head?.toList).IsChain w.Reads

variable {w : Workbook} {a b : Address}

theorem Reads.formula_left (h : w.Reads a b) : (w.formula? a).isSome := by
  obtain ⟨expr, found, -, -⟩ := h
  rw [found]
  rfl

theorem Reads.formula_right (h : w.Reads a b) : (w.formula? b).isSome := by
  obtain ⟨-, -, -, formula⟩ := h
  exact formula

@[simp] theorem get?_formulas (w : Workbook) (a : Address) : w.formulas.get? a = w.formula? a := by
  simp [formulas, formula?, cell?]

end Workbook

namespace Dependency.Graph

variable {g : Graph} {w : Workbook} {a b : Address}

/-- What the graph says of cells is so in the workbook. -/
structure Shows (g : Graph) (w : Workbook) : Prop where
  contains : ∀ a, g.contains a ↔ (w.formula? a).isSome ∨
    ∃ b expr, w.formula? b = some expr ∧ a ∈ expr.references
  formula : ∀ a, g.HoldsFormula a ↔ (w.formula? a).isSome
  edge : ∀ a b, g.Edge a b ↔ ∃ expr, w.formula? a = some expr ∧ b ∈ expr.references

/-- A graph shows the workbook from whose formulas it has grown. It does not matter in which order
they are met, nor whether a formula cell is known for one when it is met first as a reference. -/
theorem shows_grow {isFormula : Address → Bool} {formulas : List (Address × Formula.Expr)}
    (sound : ∀ a, isFormula a → (w.formula? a).isSome) (same : formulas.Perm w.formulas.toList) :
    (grow isFormula formulas).Shows w := by
  have grown := adds_grow isFormula formulas
  have entry_iff (a : Address) (expr : Formula.Expr) :
      (a, expr) ∈ formulas ↔ w.formula? a = some expr := by
    rw [same.mem_iff, ← OrderedMap.get?_eq_some_iff, Workbook.get?_formulas]
  constructor
  case contains =>
    intro a
    rw [grown.contains]
    constructor
    · rintro (none | ⟨⟨b, expr⟩, member, rfl | reference⟩)
      · cases none
      · exact .inl (Option.isSome_iff_exists.mpr ⟨expr, (entry_iff _ _).mp member⟩)
      · exact .inr ⟨b, expr, (entry_iff _ _).mp member, reference⟩
    · rintro (formula | ⟨b, expr, found, reference⟩)
      · obtain ⟨expr, found⟩ := Option.isSome_iff_exists.mp formula
        exact .inr ⟨(a, expr), (entry_iff _ _).mpr found, .inl rfl⟩
      · exact .inr ⟨(b, expr), (entry_iff _ _).mpr found, .inr reference⟩
  case formula =>
    intro a
    rw [grown.formula]
    constructor
    · rintro (⟨i, none⟩ | ⟨⟨b, expr⟩, member, rfl | ⟨-, known⟩⟩)
      · cases none
      · exact Option.isSome_iff_exists.mpr ⟨expr, (entry_iff _ _).mp member⟩
      · exact sound a known
    · intro formula
      obtain ⟨expr, found⟩ := Option.isSome_iff_exists.mp formula
      exact .inr ⟨(a, expr), (entry_iff _ _).mpr found, .inl rfl⟩
  case edge =>
    intro a b
    rw [grown.edge]
    constructor
    · rintro (⟨i, j, none, -⟩ | ⟨⟨c, expr⟩, member, rfl, reference⟩)
      · cases none
      · exact ⟨expr, (entry_iff _ _).mp member, reference⟩
    · rintro ⟨expr, found, reference⟩
      exact .inr ⟨(a, expr), (entry_iff _ _).mpr found, rfl, reference⟩

theorem shows_ofWorkbook (w : Workbook) : (ofWorkbook w).Shows w :=
  shows_grow (fun _ => id) (.refl _)

theorem mem_formulaCells_iff : a ∈ (ofWorkbook w).formulaCells ↔ (w.formula? a).isSome := by
  rw [mem_formulaCells_iff_holdsFormula, (shows_ofWorkbook w).formula]

/-- A formula cell reads another one exactly if the graph has an edge between them. -/
theorem Shows.reads_iff (h : g.Shows w) : w.Reads a b ↔ g.Edge a b ∧ g.HoldsFormula b := by
  rw [h.edge, h.formula]
  constructor
  · rintro ⟨expr, found, reference, formula⟩
    exact ⟨⟨expr, found, reference⟩, formula⟩
  · rintro ⟨⟨expr, found, reference⟩, formula⟩
    exact ⟨expr, found, reference, formula⟩

end Dependency.Graph

end SheetCompiler
