import SheetCompiler.Proofs.Lowering.Declarations

/-!
# Cells and their raw names

A raw name belongs to one cell. This holds of every list of statements that lowering gives, whatever
the sheets are called, however often the workbook lists them, and in whatever order the formulas are
lowered; a cell that is lowered twice gets the same name twice. It rests on the prefixes: a sheet
gets its word, or the word with a number that no sheet before it has.
-/

namespace SheetCompiler.Lowering

variable {w : Workbook} {inlineValues : Bool} {order : List Address} {program : List Statement}

/-- The raw name of a statement determines its cell, and the raw names of a program give each
statement's name back by its cell. Each sheet of a list gets a candidate of its own word, found
among the first ones, and different sheets get different prefixes. -/
theorem cell_eq_of_raw_eq (lowered : statements w inlineValues order = .ok program) :
    (∀ s ∈ program, ∀ d ∈ program, s.raw = d.raw → s.cell = d.cell) ∧
      (∀ s ∈ program, (rawNames program).get? s.cell = some s.raw) ∧
      ∀ sheets : List String,
        (∀ sheet ∈ sheets, ∃ n < sheets.length, (assignPrefixes sheets).get? sheet =
          some (Naming.candidate (sheetWord sheet) "_" n)) ∧
        ∀ sheet ∈ sheets, ∀ other ∈ sheets,
          (assignPrefixes sheets).get? sheet = (assignPrefixes sheets).get? other →
            sheet = other := by
  refine ⟨?_, ?_, fun sheets => ⟨?_, ?_⟩⟩
  · intro s first d second same
    obtain ⟨name, sheet⟩ := raw_of_mem lowered first
    obtain ⟨name', sheet'⟩ := raw_of_mem lowered second
    rw [name, name'] at same
    exact eq_of_rawName sheet sheet' same
  · intro s member
    have known : ((rawNames program).get? s.cell).isSome :=
      OrderedMap.isSome_get?_ofList (List.mem_map.mpr ⟨s, member, rfl⟩)
    obtain ⟨raw, found⟩ := Option.isSome_iff_exists.mp known
    obtain ⟨d, listed, entry⟩ := List.mem_map.mp (OrderedMap.mem_of_get?_ofList found)
    obtain ⟨cell, rfl⟩ := Prod.mk.inj entry
    rw [found, (raw_of_mem lowered listed).1, (raw_of_mem lowered member).1, cell]
  · intro sheet member
    obtain ⟨word, found⟩ :=
      Option.isSome_iff_exists.mp ((assignPrefixes_spec sheets).2 sheet member)
    obtain ⟨n, small, rfl⟩ := candidate_of_get?_assignPrefixes found
    exact ⟨n, small, found⟩
  · intro sheet member other _ same
    obtain ⟨apart, complete⟩ := assignPrefixes_spec sheets
    obtain ⟨word, found⟩ := Option.isSome_iff_exists.mp (complete sheet member)
    exact apart found (same ▸ found)

/-- Three sheets with clashing words, one of them listed twice and one not at all, and a formula
that reads a cell of a fourth. -/
def plans : Workbook where
  name := "Plans"
  sheets := ["P.", "P_", "P."]
  cells := .ofList [(⟨"P.", 0, 0⟩, ⟨.value (.integer 3), none, none⟩),
    (⟨"P_", 0, 0⟩, ⟨.value (.integer 4), none, none⟩),
    (⟨"P__2", 0, 0⟩, ⟨.formula "'P.'!A1+P_!A1+Q!B7"
      (.binary .add (.binary .add (.cell ⟨"P.", 0, 0⟩) (.cell ⟨"P_", 0, 0⟩)) (.cell ⟨"Q", 6, 1⟩)),
      none, none⟩)]

/-- The formula is lowered twice, and four raw names stand for four cells. -/
theorem plans_cell_eq_of_raw_eq : ∃ program,
    statements plans false [⟨"P__2", 0, 0⟩, ⟨"P__2", 0, 0⟩] = .ok program ∧
      program.map Statement.raw = ["P__3_A1", "P__2_A1", "Q_B7", "P__2_2_A1", "P__2_2_A1"] ∧
      ∀ s ∈ program, ∀ d ∈ program, s.raw = d.raw → s.cell = d.cell := by
  have referenced : directlyReferenced plans = [⟨"P.", 0, 0⟩, ⟨"P_", 0, 0⟩, ⟨"Q", 6, 1⟩] := by cbv
  have sheets : namedSheets plans = ["P.", "P_", "P.", "P__2", "Q"] := by
    rw [namedSheets, referenced]
    cbv
  have names : (statements plans false [⟨"P__2", 0, 0⟩, ⟨"P__2", 0, 0⟩]).map
      (List.map Statement.raw) =
        .ok ["P__3_A1", "P__2_A1", "Q_B7", "P__2_2_A1", "P__2_2_A1"] := by
    simp only [statements, Scope.ofWorkbook, Scope.missingInputs, sheetPrefixes, sheets, referenced]
    decide +kernel
  obtain ⟨program, lowered, raws⟩ := map_eq_ok.mp names
  exact ⟨program, lowered, raws, (cell_eq_of_raw_eq lowered).1⟩

end SheetCompiler.Lowering
