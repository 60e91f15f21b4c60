import Mathlib.Data.List.TakeWhile
import Mathlib.Data.Option.Basic
import SheetCompiler.Labels
import SheetCompiler.Proofs.OrderedMap

/-!
# What labelling a workbook does

A position shows a text, its own or that of a merged region, and a cell is described by the nearest
texts above it and to its left. Both are said here of the workbook alone, as relations; the headers,
the regions with their texts and the scans are shown to find exactly what these relations hold of.
Labelling writes labels only and reads contents only, so that a second labelling changes nothing.
-/

namespace SheetCompiler

namespace Text

variable {cs kept : List Char}

/-- `kept` is what is left of the characters without the white space at both ends. -/
structure Trims (cs kept : List Char) : Prop where
  around : ∃ before after, cs = before ++ kept ++ after ∧
    (∀ c ∈ before, isBlank c) ∧ ∀ c ∈ after, isBlank c
  first : ∀ c, kept.head? = some c → isBlank c = false
  last : ∀ c, kept.getLast? = some c → isBlank c = false

private theorem exists_takeWhile_append (cs : List Char) :
    ∃ before, cs = before ++ cs.dropWhile isBlank ∧ ∀ c ∈ before, isBlank c :=
  ⟨cs.takeWhile isBlank, List.takeWhile_append_dropWhile.symm, fun _ => List.mem_takeWhile_imp⟩

private theorem head?_dropWhile (cs : List Char) (c : Char)
    (h : (cs.dropWhile isBlank).head? = some c) : isBlank c = false := by
  have := List.head?_dropWhile_not isBlank cs
  rw [h] at this
  simpa using this

theorem trims_trimChars (cs : List Char) : Trims cs (trimChars cs) := by
  obtain ⟨before, cut, blankBefore⟩ := exists_takeWhile_append cs
  obtain ⟨after, cut', blankAfter⟩ := exists_takeWhile_append (cs.dropWhile isBlank).reverse
  have parts : cs.dropWhile isBlank = trimChars cs ++ after.reverse := by
    rw [← List.reverse_reverse (cs.dropWhile isBlank), cut', List.reverse_append]
    rfl
  refine ⟨⟨before, after.reverse, ?_, blankBefore, ?_⟩, ?_, ?_⟩
  · rw [List.append_assoc, ← parts]
    exact cut
  · exact fun c member => blankAfter c (List.mem_reverse.mp member)
  · intro c first
    refine head?_dropWhile cs c ?_
    rw [parts, List.head?_append, first]
    rfl
  · intro c last
    rw [trimChars, List.getLast?_reverse] at last
    exact head?_dropWhile _ c last

private theorem dropWhile_append_of_blank {before rest : List Char}
    (blank : ∀ c ∈ before, isBlank c) (stop : ∀ c, rest.head? = some c → isBlank c = false) :
    (before ++ rest).dropWhile isBlank = rest := by
  rw [List.dropWhile_append_of_pos blank]
  cases rest with
  | nil => rfl
  | cons c rest => exact List.dropWhile_cons_of_neg (by rw [stop c rfl]; decide)

theorem Trims.eq_trimChars (h : Trims cs kept) : kept = trimChars cs := by
  obtain ⟨before, after, rfl, blankBefore, blankAfter⟩ := h.around
  cases kept with
  | nil =>
      have blank : ∀ c ∈ before ++ after, isBlank c := fun c member =>
        (List.mem_append.mp member).elim (blankBefore c) (blankAfter c)
      rw [List.append_nil, trimChars, ← List.append_nil (before ++ after),
        dropWhile_append_of_blank blank (by simp)]
      rfl
  | cons c rest =>
      have front : (before ++ (c :: rest) ++ after).dropWhile isBlank = c :: rest ++ after := by
        rw [List.append_assoc]
        exact dropWhile_append_of_blank blankBefore h.first
      have back :
          (after.reverse ++ (c :: rest).reverse).dropWhile isBlank = (c :: rest).reverse := by
        refine dropWhile_append_of_blank
          (fun d member => blankAfter d (List.mem_reverse.mp member)) ?_
        intro d first
        rw [List.head?_reverse] at first
        exact h.last d first
      rw [trimChars, front, List.reverse_append, back, List.reverse_reverse]

end Text

namespace Labels

variable {w : Workbook} {regions : List Region} {a : Address} {t : String}

section Reading

/-- The cell at `a` is a text that comes to `t` without the white space around it, and `t` is not
empty. -/
def Bears (w : Workbook) (a : Address) (t : String) : Prop :=
  ∃ s, w.literal? a = some (.text s) ∧ Text.Trims s.toList t.toList ∧ t ≠ ""

/-- The region lies on the sheet of `a` and covers its place. -/
def Region.Covers (r : Region) (a : Address) : Prop :=
  r.sheet = a.sheet ∧ r.firstRow ≤ a.row ∧ a.row ≤ r.lastRow ∧ r.firstCol ≤ a.col ∧
  a.col ≤ r.lastCol

/-- Of the regions that cover `a`, the first one is `r`. -/
def FirstCovering (regions : List Region) (a : Address) (r : Region) : Prop :=
  ∃ before after, regions = before ++ r :: after ∧ r.Covers a ∧ ∀ r' ∈ before, ¬ r'.Covers a

/-- The place `a` shows the text `t`: its own, or else the one in the top left corner of the first
region that covers it. -/
def Shows (w : Workbook) (regions : List Region) (a : Address) (t : String) : Prop :=
  Bears w a t ∨ (∀ s, ¬ Bears w a s) ∧
    ∃ r, FirstCovering regions a r ∧ Bears w ⟨a.sheet, r.firstRow, r.firstCol⟩ t

theorem headerText?_eq_some_iff {cell : Cell} : headerText? cell = some t ↔
    ∃ s, cell.literal? = some (.text s) ∧ Text.Trims s.toList t.toList ∧ t ≠ "" := by
  have trimmed : ∀ s : String, Text.Trims s.toList t.toList ↔ Text.trim s = t := by
    intro s
    constructor
    · intro trims
      rw [Text.trim, ← trims.eq_trimChars, String.ofList_toList]
    · rintro rfl
      rw [Text.trim, String.toList_ofList]
      exact Text.trims_trimChars _
  rw [headerText?]
  split
  case h_1 s held =>
    simp only [held, trimmed, Option.some.injEq, Literal.text.injEq, exists_eq_left']
    split
    case isTrue empty =>
      rw [String.isEmpty_iff] at empty
      simp only [reduceCtorEq, false_iff, not_and, not_not]
      rintro rfl
      exact empty
    case isFalse nonempty =>
      rw [String.isEmpty_iff] at nonempty
      rw [Option.some.injEq]
      exact ⟨fun same => ⟨same, same ▸ nonempty⟩, And.left⟩
  case h_2 other =>
    simp only [reduceCtorEq, false_iff, not_exists, not_and]
    intro s held
    exact absurd held (other s)

theorem bears_iff : Bears w a t ↔ (w.cell? a).bind headerText? = some t := by
  simp only [Bears, Workbook.literal?, Option.bind_eq_some_iff, headerText?_eq_some_iff]
  constructor
  · rintro ⟨s, ⟨cell, found, held⟩, trims⟩
    exact ⟨cell, found, s, held, trims⟩
  · rintro ⟨cell, found, s, held, trims⟩
    exact ⟨s, ⟨cell, found, held⟩, trims⟩

/-- The headers of a sheet are the texts that its cells bear. -/
theorem mem_headers_iff {sheet : String} {h : Header} :
    h ∈ headers w sheet ↔ Bears w ⟨sheet, h.row, h.col⟩ h.text := by
  rw [bears_iff, Option.bind_eq_some_iff]
  simp only [headers, List.mem_filterMap, Prod.exists, Workbook.cell?, OrderedMap.get?_eq_some_iff]
  constructor
  · rintro ⟨a, cell, member, made⟩
    split at made
    case isTrue here =>
      obtain ⟨text, found, rfl⟩ := Option.map_eq_some_iff.mp made
      subst here
      exact ⟨cell, member, found⟩
    case isFalse => cases made
  · rintro ⟨cell, member, found⟩
    refine ⟨_, cell, member, ?_⟩
    rw [if_pos rfl, found]
    rfl

theorem headerAt?_eq_some_iff {sheet : String} {row col : Nat} :
    headerAt? (headers w sheet) row col = some t ↔ Bears w ⟨sheet, row, col⟩ t := by
  have sound : ∀ {s}, headerAt? (headers w sheet) row col = some s →
      Bears w ⟨sheet, row, col⟩ s := by
    intro s found
    obtain ⟨h, first, rfl⟩ := Option.map_eq_some_iff.mp found
    have place : h.row = row ∧ h.col = col := by simpa using List.find?_some first
    have member := mem_headers_iff.mp (List.mem_of_find?_eq_some first)
    rwa [place.1, place.2] at member
  refine ⟨sound, fun bears => ?_⟩
  cases found : headerAt? (headers w sheet) row col with
  | none =>
      have missing := List.find?_eq_none.mp (Option.map_eq_none_iff.mp found)
      have member : (⟨row, col, t⟩ : Header) ∈ headers w sheet := mem_headers_iff.mpr bears
      exact absurd (by simp) (missing _ member)
  | some s =>
      -- A cell bears one text only.
      rw [← bears_iff.mp bears, bears_iff.mp (sound found)]

theorem headerAt?_eq_none_iff {sheet : String} {row col : Nat} :
    headerAt? (headers w sheet) row col = none ↔ ∀ s, ¬ Bears w ⟨sheet, row, col⟩ s := by
  simp only [Option.eq_none_iff_forall_ne_some, ne_eq, headerAt?_eq_some_iff]

theorem firstCovering_iff {r : Region} : FirstCovering regions a r ↔
    regions.find? (fun r => r.sheet = a.sheet && r.contains a.row a.col) = some r := by
  have covers : ∀ r : Region,
      (decide (r.sheet = a.sheet) && r.contains a.row a.col) = true ↔ r.Covers a := by
    intro r
    simp [Region.Covers, Region.contains, and_assoc]
  rw [List.find?_eq_some_iff_append]
  simp only [covers, FirstCovering, Bool.not_eq_true', ← Bool.not_eq_true]
  constructor
  · rintro ⟨before, after, parts, here, earlier⟩
    exact ⟨here, before, after, parts, earlier⟩
  · rintro ⟨here, before, after, parts, earlier⟩
    exact ⟨before, after, parts, here, earlier⟩

/-- The texts collected for a sheet give each place the text that it shows. -/
theorem textAt?_eq_some_iff {sheet : String} {row col : Nat} :
    textAt? (SheetTexts.ofWorkbook w regions sheet).headers
      (SheetTexts.ofWorkbook w regions sheet).merged row col = some t ↔
      Shows w regions ⟨sheet, row, col⟩ t := by
  have region : ((SheetTexts.ofWorkbook w regions sheet).merged.find? fun m =>
      m.region.contains row col).bind Merged.text = some t ↔
      ∃ r, FirstCovering regions ⟨sheet, row, col⟩ r ∧
        Bears w ⟨sheet, r.firstRow, r.firstCol⟩ t := by
    simp only [SheetTexts.ofWorkbook, List.find?_map, List.find?_filter, Option.bind_map,
      Option.bind_eq_some_iff, Function.comp_def, headerAt?_eq_some_iff, firstCovering_iff,
      Bool.decide_and, Bool.decide_eq_true]
  rw [textAt?, Shows, ← region]
  cases own : headerAt? (SheetTexts.ofWorkbook w regions sheet).headers row col with
  | none =>
      have bare := headerAt?_eq_none_iff.mp own
      exact ⟨fun found => .inr ⟨bare, found⟩, fun shows => (shows.resolve_left (bare t)).2⟩
  | some s =>
      have bears := headerAt?_eq_some_iff.mp own
      rw [Option.some.injEq]
      constructor
      · rintro rfl
        exact .inl bears
      · rintro (bears' | ⟨bare, -⟩)
        · rw [← Option.some.injEq, ← own]
          exact headerAt?_eq_some_iff.mpr bears'
        · exact absurd bears (bare s)

end Reading

section Nearest

/-- Before `n`, the last place with a text has the text `t`. -/
def NearestBefore (shows : Nat → String → Prop) (n : Nat) (t : String) : Prop :=
  ∃ place < n, shows place t ∧ ∀ later, place < later → later < n → ∀ s, ¬ shows later s

theorem nearestBefore_eq_some_iff {read : Nat → Option String} {shows : Nat → String → Prop}
    (agree : ∀ place s, read place = some s ↔ shows place s) {n : Nat} :
    nearestBefore read n = some t ↔ NearestBefore shows n t := by
  simp only [NearestBefore, ← agree, ← ne_eq, ← Option.eq_none_iff_forall_ne_some]
  induction n with
  | zero => simp [nearestBefore]
  | succ n ih =>
      rw [nearestBefore]
      cases here : read n with
      | none =>
          -- Place `n` has no text, so that the nearest one is found before it.
          rw [ih]
          constructor
          · rintro ⟨place, before, found, none⟩
            refine ⟨place, by omega, found, fun later after within => ?_⟩
            rcases Nat.lt_succ_iff_lt_or_eq.mp within with within | rfl
            · exact none later after within
            · exact here
          · rintro ⟨place, before, found, none⟩
            have different : place ≠ n := by
              rintro rfl
              rw [here] at found
              cases found
            exact ⟨place, by omega, found, fun later after within => none later after (by omega)⟩
      | some s =>
          constructor
          · rintro ⟨⟩
            exact ⟨n, by omega, here, fun later after within => by omega⟩
          · rintro ⟨place, before, found, none⟩
            have same : place = n := by
              by_contra different
              have := none n (by omega) (by omega)
              rw [here] at this
              cases this
            rw [← here, ← same, found]

/-- The nearest text above the cell at `a`, in its column, is `t`. -/
def Above (w : Workbook) (regions : List Region) (a : Address) (t : String) : Prop :=
  NearestBefore (fun row => Shows w regions { a with row }) a.row t

/-- The nearest text to the left of the cell at `a`, in its row, is `t`. -/
def LeftOf (w : Workbook) (regions : List Region) (a : Address) (t : String) : Prop :=
  NearestBefore (fun col => Shows w regions { a with col }) a.col t

/-- What a search cannot find may be left out beforehand. -/
private theorem find?_filter_of_imp {α : Type} {p q : α → Bool} {l : List α}
    (h : ∀ x, p x → q x) : (l.filter q).find? p = l.find? p := by
  rw [List.find?_filter]
  congr 1
  funext x
  simp only [Bool.decide_and, Bool.decide_eq_true, Bool.and_eq_right_iff_imp]
  exact h x

private theorem textAt?_filter {known : List Header} {merged : List Merged} {row col : Nat}
    {keep : Header → Bool} {reach : Merged → Bool}
    (kept : ∀ h : Header, h.row = row → h.col = col → keep h)
    (reached : ∀ m : Merged, m.region.contains row col → reach m) :
    textAt? (known.filter keep) (merged.filter reach) row col = textAt? known merged row col := by
  rw [textAt?, textAt?, headerAt?, headerAt?, find?_filter_of_imp, find?_filter_of_imp reached]
  intro h place
  simp only [Bool.and_eq_true, decide_eq_true_eq] at place
  exact kept h place.1 place.2

theorem above?_eq_some_iff :
    (SheetTexts.ofWorkbook w regions a.sheet).above? a.row a.col = some t ↔
      Above w regions a t := by
  refine nearestBefore_eq_some_iff fun row s => ?_
  rw [← textAt?_eq_some_iff, textAt?_filter]
  · intro h _ place
    simpa using place
  · intro m covers
    simp only [Region.contains, Bool.and_eq_true, decide_eq_true_eq] at covers ⊢
    exact ⟨covers.1.2, covers.2⟩

theorem left?_eq_some_iff :
    (SheetTexts.ofWorkbook w regions a.sheet).left? a.row a.col = some t ↔
      LeftOf w regions a t := by
  refine nearestBefore_eq_some_iff fun col s => ?_
  rw [← textAt?_eq_some_iff, textAt?_filter]
  · intro h place _
    simpa using place
  · intro m covers
    simp only [Region.contains, Bool.and_eq_true, decide_eq_true_eq] at covers ⊢
    exact covers.1.1

/-- The label that the texts around the cell at `a` give it. -/
inductive Describes (w : Workbook) (regions : List Region) (a : Address) :
    Option String → Prop where
  | both {above left : String} (up : Above w regions a above) (side : LeftOf w regions a left) :
      Describes w regions a (some (above ++ " " ++ left))
  | above {above : String} (up : Above w regions a above) (side : ∀ s, ¬ LeftOf w regions a s) :
      Describes w regions a (some above)
  | left {left : String} (up : ∀ s, ¬ Above w regions a s) (side : LeftOf w regions a left) :
      Describes w regions a (some left)
  | neither (up : ∀ s, ¬ Above w regions a s) (side : ∀ s, ¬ LeftOf w regions a s) :
      Describes w regions a none

theorem above?_eq_none_iff :
    (SheetTexts.ofWorkbook w regions a.sheet).above? a.row a.col = none ↔
      ∀ s, ¬ Above w regions a s := by
  simp only [Option.eq_none_iff_forall_ne_some, ne_eq, above?_eq_some_iff]

theorem left?_eq_none_iff :
    (SheetTexts.ofWorkbook w regions a.sheet).left? a.row a.col = none ↔
      ∀ s, ¬ LeftOf w regions a s := by
  simp only [Option.eq_none_iff_forall_ne_some, ne_eq, left?_eq_some_iff]

/-- The computed label is the only one that describes a cell. -/
theorem label?_eq_iff {l : Option String} :
    (SheetTexts.ofWorkbook w regions a.sheet).label? a.row a.col = l ↔ Describes w regions a l := by
  rw [SheetTexts.label?]
  constructor
  · rintro rfl
    split
    case h_1 above left up side =>
      exact .both (above?_eq_some_iff.mp up) (left?_eq_some_iff.mp side)
    case h_2 above up side => exact .above (above?_eq_some_iff.mp up) (left?_eq_none_iff.mp side)
    case h_3 left up =>
      cases side : (SheetTexts.ofWorkbook w regions a.sheet).left? a.row a.col with
      | none => exact .neither (above?_eq_none_iff.mp up) (left?_eq_none_iff.mp side)
      | some left => exact .left (above?_eq_none_iff.mp up) (left?_eq_some_iff.mp side)
  · intro describes
    cases describes with
    | both up side => rw [above?_eq_some_iff.mpr up, left?_eq_some_iff.mpr side]
    | above up side => rw [above?_eq_some_iff.mpr up, left?_eq_none_iff.mpr side]
    | left up side => rw [above?_eq_none_iff.mpr up, left?_eq_some_iff.mpr side]
    | neither up side => rw [above?_eq_none_iff.mpr up, left?_eq_none_iff.mpr side]

end Nearest

section Assignment

/-- What labelling may do to the cell at `a`. -/
structure Relabelled (w : Workbook) (regions : List Region) (a : Address) (c c' : Cell) : Prop where
  content : c'.content = c.content
  cached : c'.cached = c.cached
  /-- A label that is there stays, and a text gets none. -/
  kept : (c.label.isSome ∨ ∃ s, c.content = .value (.text s)) → c'.label = c.label
  /-- Any other cell gets the label that the texts around it give it. -/
  given : c.label = none → (∀ s, c.content ≠ .value (.text s)) →
    ∀ l, c'.label = l ↔ Describes w regions a l

theorem wantsLabel_iff {c : Cell} : wantsLabel c ↔
    c.label = none ∧ ∀ s, c.content ≠ .value (.text s) := by
  have text : c.literal?.any Literal.isText ↔ ∃ s, c.content = .value (.text s) := by
    rw [Cell.literal?]
    cases c.content with
    | formula text expr => simp
    | value l => cases l <;> simp [Literal.isText]
  rw [wantsLabel, Bool.and_eq_true, Option.isNone_iff_eq_none, Bool.not_eq_true',
    ← Bool.not_eq_true, text, not_exists]

/-- What becomes of one cell. -/
def relabel (w : Workbook) (regions : List Region) (a : Address) (c : Cell) : Cell :=
  if wantsLabel c then
    { c with label := (SheetTexts.ofWorkbook w regions a.sheet).label? a.row a.col }
  else c

theorem assign_eq (w : Workbook) (regions : List Region) :
    assign w regions = { w with cells := w.cells.mapEntries (relabel w regions) } := rfl

theorem cell?_assign (w : Workbook) (regions : List Region) (a : Address) :
    (assign w regions).cell? a = (w.cell? a).map (relabel w regions a) :=
  OrderedMap.get?_mapEntries w.cells _ a

theorem relabelled_relabel (w : Workbook) (regions : List Region) (a : Address) (c : Cell) :
    Relabelled w regions a c (relabel w regions a c) := by
  rw [relabel]
  split
  case isTrue wants =>
    obtain ⟨bare, noText⟩ := wantsLabel_iff.mp wants
    refine ⟨rfl, rfl, ?_, fun _ _ l => label?_eq_iff⟩
    rintro (labelled | ⟨s, isText⟩)
    · rw [bare] at labelled
      cases labelled
    · exact absurd isText (noText s)
  case isFalse wants =>
    exact ⟨rfl, rfl, fun _ => rfl, fun bare noText =>
      absurd (wantsLabel_iff.mpr ⟨bare, noText⟩) wants⟩

/-- Labels are made from contents, which labelling leaves alone. -/
theorem ofWorkbook_assign (w : Workbook) (regions regions' : List Region) (sheet : String) :
    SheetTexts.ofWorkbook (assign w regions) regions' sheet =
      SheetTexts.ofWorkbook w regions' sheet := by
  have same : ∀ a c, headerText? (relabel w regions a c) = headerText? c := by
    intro a c
    rw [headerText?, headerText?, Cell.literal?, Cell.literal?,
      (relabelled_relabel w regions a c).content]
  have headers : headers (assign w regions) sheet = headers w sheet := by
    simp only [assign_eq, headers, OrderedMap.mapEntries, List.filterMap_map, Function.comp_def,
      same]
  simp only [SheetTexts.ofWorkbook, headers]

theorem assign_assign (w : Workbook) (regions : List Region) :
    assign (assign w regions) regions = assign w regions := by
  have again : ∀ a c, relabel (assign w regions) regions a (relabel w regions a c) =
      relabel w regions a c := by
    intro a c
    simp only [relabel, ofWorkbook_assign]
    by_cases wants : wantsLabel c
    · simp only [wants, if_true, ite_self]
    · simp only [wants, Bool.false_eq_true, if_false]
  have cells : ((assign w regions).cells.mapEntries (relabel (assign w regions) regions)) =
      (assign w regions).cells := by
    refine OrderedMap.ext_get? fun a => ?_
    rw [OrderedMap.get?_mapEntries, assign_eq, OrderedMap.get?_mapEntries, Option.map_map]
    exact congrArg (Option.map · _) (funext (again a))
  rw [assign_eq (assign w regions), cells]

/-- Labelling changes nothing but labels, and of these only the ones of cells that have none and are
no texts: such a cell gets the nearest text above it and the nearest one to its left. Labelling once
more changes nothing. -/
theorem assign_relabels (w : Workbook) (regions : List Region) :
    (assign w regions).name = w.name ∧ (assign w regions).sheets = w.sheets ∧
      (∀ a, Option.Rel (Relabelled w regions a) (w.cell? a) ((assign w regions).cell? a)) ∧
      assign (assign w regions) regions = assign w regions := by
  refine ⟨rfl, rfl, fun a => ?_, assign_assign w regions⟩
  rw [cell?_assign]
  cases w.cell? a with
  | none => exact .none
  | some c => exact .some (relabelled_relabel w regions a c)

end Assignment

end Labels

end SheetCompiler
