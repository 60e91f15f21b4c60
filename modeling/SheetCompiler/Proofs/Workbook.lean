import SheetCompiler.Proofs.OrderedMap
import SheetCompiler.Workbook

/-!
# The cells of a workbook

An address is free, or holds a literal, or holds a formula. Putting a cell somewhere changes that
address only, and its sheet is listed afterwards, once.
-/

namespace SheetCompiler.Workbook

variable {w : Workbook} {a : Address} {e : Formula.Expr} {l : Literal}

theorem cell_cases (w : Workbook) (a : Address) :
    w.cell? a = none ∨ (∃ l, w.literal? a = some l) ∨ ∃ e, w.formula? a = some e := by
  cases found : w.cell? a with
  | none => exact .inl rfl
  | some c =>
      refine .inr ?_
      cases content : c.content with
      | value l => exact .inl ⟨l, by simp [literal?, Cell.literal?, found, content]⟩
      | formula text e => exact .inr ⟨e, by simp [formula?, Cell.expr?, found, content]⟩

theorem literal?_eq_none_of_formula (h : w.formula? a = some e) : w.literal? a = none := by
  obtain ⟨c, found, expr⟩ := Option.bind_eq_some_iff.mp h
  cases content : c.content with
  | value l => simp [Cell.expr?, content] at expr
  | formula text e => simp [literal?, found, Cell.literal?, content]

theorem isSome_cell?_of_formula (h : w.formula? a = some e) : (w.cell? a).isSome := by
  obtain ⟨c, found, -⟩ := Option.bind_eq_some_iff.mp h
  rw [found]
  rfl

theorem isSome_cell?_of_literal (h : w.literal? a = some l) : (w.cell? a).isSome := by
  obtain ⟨c, found, -⟩ := Option.bind_eq_some_iff.mp h
  rw [found]
  rfl

section Insertion

@[simp] theorem cell?_addSheet (w : Workbook) (sheet : String) (a : Address) :
    (w.addSheet sheet).cell? a = w.cell? a := by
  rw [addSheet]
  split <;> rfl

theorem cell?_insert (w : Workbook) (a b : Address) (c : Cell) :
    (w.insert a c).cell? b = if b = a then some c else w.cell? b := by
  rw [cell?, insert, OrderedMap.get?_insert]
  exact congrArg (ite _ _) (cell?_addSheet w a.sheet b)

theorem mem_sheets_addSheet_iff {sheet other : String} :
    other ∈ (w.addSheet sheet).sheets ↔ other ∈ w.sheets ∨ other = sheet := by
  rw [addSheet]
  split
  case isTrue listed =>
    rw [List.contains_iff_mem] at listed
    exact ⟨.inl, fun h => h.elim id fun same => same ▸ listed⟩
  case isFalse => rw [List.mem_append, List.mem_singleton]

theorem nodup_sheets_addSheet (once : w.sheets.Nodup) (sheet : String) :
    (w.addSheet sheet).sheets.Nodup := by
  rw [addSheet]
  split
  case isTrue => exact once
  case isFalse new =>
    rw [List.contains_iff_mem] at new
    exact List.nodup_append.mpr ⟨once, List.pairwise_singleton _ _, by
      rintro x listed y here rfl
      exact new (List.mem_singleton.mp here ▸ listed)⟩

end Insertion

end SheetCompiler.Workbook
