import SheetCompiler.Proofs.Evaluation.Failure

/-!
# Tables

The values of a range are kept in one list, row after row. A table is the range with its two
directions: a value stands at a place, which is a row and a column. Reading the list by an index
that is computed from a row and a column is shown to read the table at that place, and reading the
first value of every row to read the first column.
-/

namespace SheetCompiler

section Rows

variable {α β : Type} {n : Nat} {f : α → List β}

/-- Of rows of one length, the place of a row and a column counts the whole rows before. -/
theorem getElem?_flatMap_of_length (rows : List α) (wide : ∀ a ∈ rows, (f a).length = n) {i j : Nat}
    (column : j < n) : (rows.flatMap f)[i * n + j]? = rows[i]?.bind fun a => (f a)[j]? := by
  induction rows generalizing i with
  | nil => rfl
  | cons row rest ih =>
      have first : (f row).length = n := wide row List.mem_cons_self
      rw [List.flatMap_cons]
      cases i with
      | zero =>
          rw [List.getElem?_append_left (by omega), Nat.zero_mul, Nat.zero_add]
          rfl
      | succ i =>
          rw [List.getElem?_append_right (by rw [first, Nat.succ_mul]; omega), first,
            show (i + 1) * n + j - n = i * n + j by rw [Nat.succ_mul]; omega,
            ih fun a member => wide a (List.mem_cons_of_mem _ member)]
          rfl

end Rows

namespace Evaluation

/-- Of rows of one length, the first column has the first value of each. -/
theorem firstColumn_flatMap {α : Type} {n : Nat} (head : α → Value) (tail : α → List Value)
    (rows : List α) (wide : ∀ a ∈ rows, (tail a).length = n) :
    Block.firstColumn ⟨rows.flatMap fun a => head a :: tail a, n + 1⟩ = rows.map head := by
  induction rows with
  | nil => rfl
  | cons row rest ih =>
      have length : (tail row).length = n := wide row List.mem_cons_self
      have skipped : ((tail row).mapIdx fun i v =>
          if (i + 1) % (n + 1) = 0 then some v else none).filterMap id = [] := by
        rw [List.filterMap_eq_nil_iff]
        intro o member
        obtain ⟨i, below, rfl⟩ := List.mem_mapIdx.mp member
        rw [Nat.mod_eq_of_lt (by omega), if_neg (Nat.succ_ne_zero i)]
        rfl
      have later := ih fun a member => wide a (List.mem_cons_of_mem _ member)
      simp only [Block.firstColumn] at later ⊢
      rw [List.flatMap_cons, List.mapIdx_append, List.filterMap_append, List.mapIdx_cons,
        List.length_cons, length]
      simp only [Nat.add_mod_right]
      rw [later, Nat.zero_mod, if_pos rfl, List.filterMap_cons, skipped]
      rfl

/-- A row and a column, both counted from one. -/
structure Place where
  row : Int
  col : Int
deriving DecidableEq

/-- The rectangle between two corners that stand in order, with the values of its cells. -/
structure Table where
  first : Address
  last : Address
  rows_le : first.row ≤ last.row
  cols_le : first.col ≤ last.col
  held : Address → Value

namespace Table

variable (t : Table)

/-- The number of rows. -/
def height : Nat :=
  t.last.row + 1 - t.first.row

/-- The number of columns. -/
def width : Nat :=
  t.last.col + 1 - t.first.col

/-- The table has the column, counted from one. -/
def HasColumn (col : Int) : Prop :=
  1 ≤ col ∧ col ≤ t.width

/-- The place lies in the table. -/
structure Has (p : Place) : Prop where
  row : 1 ≤ p.row ∧ p.row ≤ t.height
  col : t.HasColumn p.col

/-- The value at a place. -/
def value (p : Place) : Value :=
  t.held ⟨t.first.sheet, t.first.row + (p.row - 1).toNat, t.first.col + (p.col - 1).toNat⟩

/-- The values in the first column, from the first row on. -/
def keys : List Value :=
  (List.range t.height).map fun (i : Nat) => t.value ⟨i + 1, 1⟩

/-- The row whose first value matches the key, counted from one. -/
def rowOf (key : Value) (near : Bool) : Coerced Nat :=
  position key t.keys (if near then 1.0 else 0.0)

/-- The place that a row and a column mean. Column zero stands for the other one of a single row or
column. -/
def place (row col : Float) : Place :=
  let r := Decimal.toInteger row
  let c := Decimal.toInteger col
  if c ≠ 0 then ⟨r, c⟩ else if t.width = 1 then ⟨r, 1⟩ else if t.height = 1 then ⟨1, r⟩ else ⟨r, 0⟩

/-- The values row by row. -/
def block : Block :=
  ⟨(Address.rectangle t.first t.last).map t.held, Address.width t.first t.last⟩

variable {t} {p : Place}

theorem has_iff {row col : Int} :
    t.Has ⟨row, col⟩ ↔ (1 ≤ row ∧ row ≤ t.height) ∧ 1 ≤ col ∧ col ≤ t.width :=
  ⟨fun h => ⟨h.row, h.col⟩, fun h => ⟨h.1, h.2⟩⟩

theorem width_pos : 0 < t.width :=
  Nat.sub_pos_of_lt (Nat.lt_succ_of_le t.cols_le)

theorem width_block : t.block.width = t.width :=
  if_pos (Nat.le_succ_of_le t.cols_le)

theorem height_block : t.block.height = t.height := by
  have length : t.block.values.length = t.height * t.width := by
    rw [block, List.length_map, length_rectangle]
    rfl
  rw [Block.height, length, width_block, Nat.max_eq_right width_pos, Nat.mul_div_cancel _ width_pos]

theorem values_block : t.block.values = (Address.span t.first.row t.last.row).flatMap fun row =>
    (Address.span t.first.col t.last.col).map fun col => t.held ⟨t.first.sheet, row, col⟩ := by
  rw [block, Address.rectangle, List.map_flatMap]
  simp only [List.map_map, Function.comp_def]

/-- The value at a place stands in the list behind the whole rows before. -/
theorem getElem?_block (h : t.Has p) :
    t.block.values[(p.row.toNat - 1) * t.width + (p.col.toNat - 1)]? = some (t.value p) := by
  obtain ⟨⟨least, most⟩, least', most'⟩ := h
  have height : t.height = t.last.row + 1 - t.first.row := rfl
  have width : t.width = t.last.col + 1 - t.first.col := rfl
  rw [values_block,
    getElem?_flatMap_of_length _ (fun a _ => by simp [Address.span, width]) (by omega),
    Address.span, List.getElem?_range' (by omega), Option.bind_some, List.getElem?_map,
    Address.span, List.getElem?_range' (by omega), Option.map_some, value]
  congr 3
  · omega
  · omega

theorem at?_of_has (h : t.Has p) : t.block.at? p.row p.col = some (t.value p) := by
  obtain ⟨⟨least, most⟩, least', most'⟩ := h
  have inside : (p.row < 1 || p.col < 1 || (t.block.height : Int) < p.row ||
      (t.block.width : Int) < p.col) = false := by
    rw [height_block, width_block]
    simp only [Bool.or_eq_false_iff, decide_eq_false_iff_not]
    omega
  rw [Block.at?, inside, if_neg Bool.false_ne_true, width_block, Nat.add_sub_assoc (by omega)]
  exact getElem?_block ⟨⟨least, most⟩, least', most'⟩

theorem at?_of_not_has (h : ¬ t.Has p) : t.block.at? p.row p.col = none := by
  refine if_pos ?_
  rw [height_block, width_block]
  by_contra inside
  simp only [Bool.or_eq_true, decide_eq_true_eq, not_or] at inside
  exact h ⟨⟨by omega, by omega⟩, by omega, by omega⟩

/-- Selecting reads the table at the place meant. -/
theorem select_block (t : Table) (row col : Float) : t.block.select row col =
    match t.block.at? (t.place row col).row (t.place row col).col with
    | some v => .ok v
    | none => .error .reference := by
  have zero (r : Int) : t.block.at? r 0 = none :=
    at?_of_not_has (p := ⟨r, 0⟩) fun h => absurd (has_iff.mp h).2.1 (by decide)
  rw [Block.select, width_block, height_block]
  simp only [place]
  split_ifs
  · rfl
  · rfl
  · rfl
  · rw [zero]

/-- A row that is not a number passes for zero, which no table has. -/
theorem not_has_place {row col : Float} (h : row.isNaN) : ¬ t.Has (t.place row col) := by
  have zero : Decimal.toInteger row = 0 := if_pos h
  intro has
  simp only [place, zero] at has
  split_ifs at has
  all_goals
    rw [has_iff] at has
    omega

theorem firstColumn_block : t.block.firstColumn = t.keys := by
  let n := t.last.col - t.first.col
  have cols : Address.span t.first.col t.last.col =
      t.first.col :: List.range' (t.first.col + 1) n := by
    rw [Address.span, Nat.sub_add_comm t.cols_le, List.range'_succ]
  have split : t.block = ⟨(Address.span t.first.row t.last.row).flatMap fun row =>
      t.held ⟨t.first.sheet, row, t.first.col⟩ ::
        (List.range' (t.first.col + 1) n).map fun col => t.held ⟨t.first.sheet, row, col⟩,
        n + 1⟩ := by
    have values := values_block (t := t)
    have width := width_block (t := t)
    rw [cols] at values
    rw [Table.width, Nat.sub_add_comm t.cols_le] at width
    exact congrArg₂ Block.mk values width
  rw [split, firstColumn_flatMap _ _ _ fun a _ => by rw [List.length_map, List.length_range'],
    Address.span, List.range'_eq_map_range, List.map_map, keys, height]
  refine List.map_congr_left fun i _ => ?_
  simp [value]

/-- A key is found in a row of the table. -/
theorem rowOf_bounds {key : Value} {near : Bool} {row : Nat} (h : t.rowOf key near = .ok row) :
    1 ≤ row ∧ row ≤ t.height := by
  obtain ⟨positive, among⟩ := position_le h
  rw [keys, List.length_map, List.length_range] at among
  exact ⟨positive, among⟩

/-- What stands at an index of the list, counted from one. -/
def foundAt (t : Table) : Nat → Found
  | 0 => .outside
  | i + 1 =>
    match t.block.values[i]? with
    | some v => .value v
    | none => .outside

theorem foundAt_of_has {row col i : Nat} (h : t.Has ⟨row, col⟩)
    (index : i = (row - 1) * t.width + col) : t.foundAt i = .value (t.value ⟨row, col⟩) := by
  obtain ⟨-, least, -⟩ := has_iff.mp h
  have entry := getElem?_block h
  rw [Int.toNat_natCast, Int.toNat_natCast] at entry
  rw [index, show (row - 1) * t.width + col = (row - 1) * t.width + (col - 1) + 1 by omega, foundAt,
    entry]

theorem lookup_of_not_hasColumn {key : Value} {near : Bool} {col : Float} (number : ¬ col.isNaN)
    (none : ¬ t.HasColumn (Decimal.toInteger col)) :
    t.block.lookup key col near = .error .reference := by
  refine if_pos ?_
  rw [width_block, Bool.and_eq_true, Bool.not_eq_true', Bool.or_eq_true, decide_eq_true_eq,
    decide_eq_true_eq]
  refine ⟨Bool.eq_false_iff.mpr number, ?_⟩
  by_contra inside
  exact none ⟨by omega, by omega⟩

/-- A column that passes the check is counted from the start of the row. What is not a number passes
too. -/
theorem lookup_of_hasColumn {key : Value} {near : Bool} {col : Float}
    (passes : col.isNaN ∨ t.HasColumn (Decimal.toInteger col)) : t.block.lookup key col near =
      (t.rowOf key near).map fun row =>
        t.foundAt ((row - 1) * t.width + (Decimal.toInteger col).toNat) := by
  have checked : (!col.isNaN && (Decimal.toInteger col < 1 ||
      (t.width : Int) < Decimal.toInteger col)) = false := by
    rcases passes with none | ⟨least, most⟩
    · rw [none, Bool.not_true, Bool.false_and]
    · rw [Bool.and_eq_false_iff, Bool.or_eq_false_iff, decide_eq_false_iff_not,
        decide_eq_false_iff_not]
      omega
  rw [Block.lookup, width_block, checked, if_neg Bool.false_ne_true, firstColumn_block, ← rowOf]
  cases t.rowOf key near with
  | error e => rfl
  | ok row =>
      change (match (row - 1) * t.width + (Decimal.toInteger col).toNat with
        | 0 => _
        | i + 1 => _) = Except.ok (t.foundAt _)
      split
      case h_1 start =>
        rw [start]
        rfl
      case h_2 i index =>
        rw [index, foundAt]
        cases t.block.values[i]? <;> rfl

end Table

end Evaluation

end SheetCompiler
