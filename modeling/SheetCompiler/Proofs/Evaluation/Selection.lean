import SheetCompiler.Proofs.Dependency.Views
import SheetCompiler.Proofs.Evaluation.Table
import SheetCompiler.Proofs.Lowering.Checked

/-!
# Selecting by an index

`INDEX`, `VLOOKUP` and `CHOOSE` select by numbers that a formula computes. A number that counts to a
place of the table, or to an option, selects what is there; any other number gives an error value.
What is not a number is taken for zero by `INDEX`. The other two let it pass their checks: a choice
strays, and a lookup strays or ends in the row above the one it found.
-/

namespace SheetCompiler.Evaluation

open Formula (Expr)

section Outcomes

variable (read : Address → Except CompileError Value) (cell : Address)

/-- The argument names the table, and the cells of the table can be read. -/
structure Names (e : Expr) (t : Table) : Prop where
  corners : e.corners? = some (t.first, t.last)
  held : ∀ a, a.Within t.first t.last → read a = .ok (t.held a)

/-- The argument comes to `x`, taken for what the function takes it for. -/
def ComesTo {α : Type} (take : Value → Coerced α) (e : Expr) (x : α) : Prop :=
  ∃ v, eval read cell e = .ok v ∧ take v = .ok x

/-- The optional argument comes to `x`, which is `absent` where it is left out. -/
def ComesToOr {α : Type} (take : Value → Coerced α) (absent : α) : Option Expr → α → Prop
  | none, x => x = absent
  | some e, x => ComesTo read cell take e x

/-- The outcome of `INDEX` in a table, by a row and a column. -/
structure Indexes (t : Table) (row col : Float) (outcome : Except CompileError Value) : Prop where
  inside : t.Has (t.place row col) → outcome = .ok (t.value (t.place row col))
  outside : ¬ t.Has (t.place row col) → outcome = .ok (.error .reference)
  notNumber : row.isNaN → outcome = .ok (.error .reference)

/-- The outcome of `VLOOKUP` in a table, by a key and a column. -/
structure LooksUp (t : Table) (key : Value) (near : Bool) (col : Float)
    (outcome : Except CompileError Value) : Prop where
  outside : ¬ col.isNaN → ¬ t.HasColumn (Decimal.toInteger col) → outcome = .ok (.error .reference)
  missing : col.isNaN ∨ t.HasColumn (Decimal.toInteger col) →
    ∀ e, t.rowOf key near = .error e → outcome = .ok (.error e)
  found : ¬ col.isNaN → t.HasColumn (Decimal.toInteger col) → ∀ row, t.rowOf key near = .ok row →
    t.Has ⟨row, Decimal.toInteger col⟩ ∧ outcome = .ok (t.value ⟨row, Decimal.toInteger col⟩)
  /-- A column that is not a number passes the check. In the first row it strays. -/
  stray : col.isNaN → t.rowOf key near = .ok 1 → outcome = .error (.strayIndex cell)
  /-- In any other row it takes the last value of the row above. -/
  above : col.isNaN → ∀ row : Nat, t.rowOf key near = .ok (row + 2) →
    t.Has ⟨row + 1, t.width⟩ ∧ outcome = .ok (t.value ⟨row + 1, t.width⟩)

/-- The outcome of `CHOOSE` among options, by an index. -/
structure Chooses (options : List Expr) (index : Float) (outcome : Except CompileError Value) :
    Prop where
  inside : ¬ index.isNaN → ∀ (i : Nat) (option : Expr), Decimal.toInteger index = i + 1 →
    options[i]? = some option → outcome = eval read cell option
  outside : ¬ index.isNaN →
    ¬ (1 ≤ Decimal.toInteger index ∧ Decimal.toInteger index ≤ options.length) →
    outcome = .ok (.error .value)
  stray : index.isNaN → outcome = .error (.strayIndex cell)

variable {read cell}

theorem Names.block_eq {e : Expr} {t : Table} (h : Names read e t) :
    block read cell ⟨e, eval read cell e⟩ = .ok t.block := by
  have values : (Address.rectangle t.first t.last).mapM read =
      .ok ((Address.rectangle t.first t.last).map t.held) := by
    rw [mapM_eq_ok, List.forall₂_map_right_iff, List.forall₂_same]
    intro a member
    exact h.held a (Address.mem_rectangle_iff.mp member)
  rw [block, h.corners]
  simp only [values]
  rfl

/-- What follows an argument goes on with what it comes to. -/
theorem ComesTo.bind_eq {α : Type} {take : Value → Coerced α} {e : Expr} {x : α}
    (h : ComesTo read cell take e x) (next : α → Except CompileError Value) :
    (do withCoerced (take (← eval read cell e)) next) = next x := by
  obtain ⟨v, value, taken⟩ := h
  rw [value]
  change withCoerced (take v) next = next x
  rw [taken]
  rfl

theorem ComesToOr.optionalNumber_eq {absent x : Float} {e : Option Expr}
    (h : ComesToOr read cell Value.toNumber absent e x) (next : Float → Except CompileError Value) :
    optionalNumber (e.map fun e => ⟨e, eval read cell e⟩) absent next = next x := by
  cases e with
  | none => rw [show x = absent from h]; rfl
  | some e => exact ComesTo.bind_eq h next

theorem ComesToOr.optionalBoolean_eq {absent x : Bool} {e : Option Expr}
    (h : ComesToOr read cell Value.toBoolean absent e x) (next : Bool → Except CompileError Value) :
    optionalBoolean (e.map fun e => ⟨e, eval read cell e⟩) absent next = next x := by
  cases e with
  | none => rw [show x = absent from h]; rfl
  | some e => exact ComesTo.bind_eq h next

/-- `INDEX` reads the table where its row and column say, and is `#REF!` where there is no such
place. -/
theorem indexes_eval {range row : Expr} {col : Option Expr} {t : Table} {r c : Float}
    (named : Names read range t) (rows : ComesTo read cell Value.toNumber row r)
    (cols : ComesToOr read cell Value.toNumber 0.0 col c) :
    Indexes t r c (eval read cell (.call "INDEX" (range :: row :: col.toList))) := by
  have outcome : eval read cell (.call "INDEX" (range :: row :: col.toList)) =
      .ok (fromCoerced (t.block.select r c) id) :=
    calc eval read cell (.call "INDEX" (range :: row :: col.toList))
      _ = (do
          let values ← block read cell ⟨range, eval read cell range⟩
          withCoerced (← eval read cell row).toNumber fun r =>
            optionalNumber (col.map fun e => ⟨e, eval read cell e⟩) 0.0 fun c =>
              pure (fromCoerced (values.select r c) id)) := by cases col <;> rfl
      _ = optionalNumber (col.map fun e => ⟨e, eval read cell e⟩) 0.0 fun c =>
            pure (fromCoerced (t.block.select r c) id) := by
        rw [named.block_eq]
        exact rows.bind_eq _
      _ = _ := cols.optionalNumber_eq _
  have outside (none : ¬ t.Has (t.place r c)) :
      eval read cell (.call "INDEX" (range :: row :: col.toList)) = .ok (.error .reference) := by
    rw [outcome, Table.select_block, Table.at?_of_not_has none]
    rfl
  refine ⟨fun has => ?_, outside, fun notNumber => outside (Table.not_has_place notNumber)⟩
  rw [outcome, Table.select_block, Table.at?_of_has has]
  rfl

/-- What a lookup gives for what it found. -/
def Found.outcome (cell : Address) : Found → Except CompileError Value
  | .value v => .ok v
  | .outside => .error (.strayIndex cell)

/-- `VLOOKUP` reads the table in the row of its key and in the column it is given, as long as the
column is a number. -/
theorem looksUp_eval {key range col : Expr} {approximate : Option Expr} {t : Table} {k : Value}
    {c : Float} {near : Bool} (keyed : eval read cell key = .ok k) (plain : ∀ e, k ≠ .error e)
    (named : Names read range t) (cols : ComesTo read cell Value.toNumber col c)
    (nearness : ComesToOr read cell Value.toBoolean true approximate near) :
    LooksUp cell t k near c
      (eval read cell (.call "VLOOKUP" (key :: range :: col :: approximate.toList))) := by
  have outcome : eval read cell (.call "VLOOKUP" (key :: range :: col :: approximate.toList)) =
      withCoerced (t.block.lookup k c near) (Found.outcome cell) :=
    calc eval read cell (.call "VLOOKUP" (key :: range :: col :: approximate.toList))
      _ = (do
          let k ← eval read cell key
          withKey k do
            let values ← block read cell ⟨range, eval read cell range⟩
            withCoerced (← eval read cell col).toNumber fun c =>
              optionalBoolean (approximate.map fun e => ⟨e, eval read cell e⟩) true fun near =>
                withCoerced (values.lookup k c near) (Found.outcome cell)) := by
        cases approximate <;> rfl
      _ = (do
          let values ← block read cell ⟨range, eval read cell range⟩
          withCoerced (← eval read cell col).toNumber fun c =>
            optionalBoolean (approximate.map fun e => ⟨e, eval read cell e⟩) true fun near =>
              withCoerced (values.lookup k c near) (Found.outcome cell)) := by
        rw [keyed]
        cases k with
        | error e => exact absurd rfl (plain e)
        | number | text | boolean | blank => rfl
      _ = optionalBoolean (approximate.map fun e => ⟨e, eval read cell e⟩) true fun near =>
            withCoerced (t.block.lookup k c near) (Found.outcome cell) := by
        rw [named.block_eq]
        exact cols.bind_eq _
      _ = _ := nearness.optionalBoolean_eq _
  have passed (passes : c.isNaN ∨ t.HasColumn (Decimal.toInteger c)) {row : Nat}
      (found : t.rowOf k near = .ok row) :
      eval read cell (.call "VLOOKUP" (key :: range :: col :: approximate.toList)) =
        (t.foundAt ((row - 1) * t.width + (Decimal.toInteger c).toNat)).outcome cell := by
    rw [outcome, Table.lookup_of_hasColumn passes, found]
    rfl
  constructor
  case outside =>
    intro number none
    rw [outcome, Table.lookup_of_not_hasColumn number none]
    rfl
  case missing =>
    intro passes e none
    rw [outcome, Table.lookup_of_hasColumn passes, none]
    rfl
  case found =>
    intro number has row found
    obtain ⟨j, column⟩ := Int.eq_ofNat_of_zero_le (Int.le_of_lt has.1)
    obtain ⟨least, most⟩ := Table.rowOf_bounds found
    rw [column] at has ⊢
    have place : t.Has ⟨row, j⟩ := Table.has_iff.mpr ⟨⟨by omega, by omega⟩, has⟩
    refine ⟨place, ?_⟩
    rw [passed (.inr (column ▸ has)) found, column, Int.toNat_natCast,
      Table.foundAt_of_has place rfl]
    rfl
  case stray =>
    intro none found
    have zero : Decimal.toInteger c = 0 := if_pos none
    rw [passed (.inl none) found, zero, Nat.sub_self, Nat.zero_mul]
    rfl
  case above =>
    intro none row found
    have zero : Decimal.toInteger c = 0 := if_pos none
    obtain ⟨-, most⟩ := Table.rowOf_bounds found
    have positive : 0 < t.width := Table.width_pos
    have place : t.Has ⟨(row + 1 : Nat), t.width⟩ :=
      Table.has_iff.mpr ⟨⟨by omega, by omega⟩, by omega, le_rfl⟩
    have here : (row + 2 - 1) * t.width + Int.toNat 0 = (row + 1 - 1) * t.width + t.width :=
      Nat.succ_mul row t.width
    refine ⟨place, ?_⟩
    rw [passed (.inl none) found, zero, Table.foundAt_of_has place here]
    rfl

/-- `CHOOSE` runs the option that its index counts to, as long as the index is a number. -/
theorem chooses_eval {index first : Expr} {rest : List Expr} {x : Float}
    (indexed : ComesTo read cell Value.toNumber index x) :
    Chooses read cell (first :: rest) x
      (eval read cell (.call "CHOOSE" (index :: first :: rest))) := by
  have outcome : eval read cell (.call "CHOOSE" (index :: first :: rest)) =
      choose cell (arguments read cell (first :: rest)) x :=
    calc eval read cell (.call "CHOOSE" (index :: first :: rest))
      _ = (do
          withCoerced (← eval read cell index).toNumber
            (choose cell (arguments read cell (first :: rest)))) := by
        have admitted : Formula.Function.choose.arity.admits (index :: first :: rest).length := by
          simp [Formula.Function.arity, Formula.Function.Arity.admits]
        rw [eval, show Formula.Function.ofName? "CHOOSE" = some .choose from rfl]
        exact if_pos admitted
      _ = _ := indexed.bind_eq _
  rw [outcome, arguments_eq_map, choose]
  constructor
  case inside =>
    intro number i option counts found
    rw [if_neg number, counts, show (i : Int) + 1 = .ofNat (i + 1) from rfl]
    simp only [List.getElem?_map, found, Option.map_some]
  case outside =>
    intro number none
    rw [if_neg number]
    split
    case h_1 i counts =>
      have beyond : (first :: rest).length ≤ i := by
        rw [counts, Int.ofNat_eq_natCast] at none
        omega
      rw [List.getElem?_eq_none (by rwa [List.length_map])]
      rfl
    case h_2 => rfl
  case stray =>
    intro none
    rw [if_pos none]
    rfl

variable (read cell) in
/-- What the functions that select by an index come to in the formula of `cell`, whatever numbers
their arguments come to. -/
structure Selections : Prop where
  index {range row : Expr} {col : Option Expr} {t : Table} {r c : Float}
    (named : Names read range t)
    (rows : ComesTo read cell Value.toNumber row r)
    (cols : ComesToOr read cell Value.toNumber 0.0 col c) :
    Indexes t r c (eval read cell (.call "INDEX" (range :: row :: col.toList)))
  lookup {key range col : Expr} {approximate : Option Expr} {t : Table} {k : Value} {c : Float}
    {near : Bool} (keyed : eval read cell key = .ok k) (plain : ∀ e, k ≠ .error e)
    (named : Names read range t) (cols : ComesTo read cell Value.toNumber col c)
    (nearness : ComesToOr read cell Value.toBoolean true approximate near) :
    LooksUp cell t k near c
      (eval read cell (.call "VLOOKUP" (key :: range :: col :: approximate.toList)))
  choose {index first : Expr} {rest : List Expr} {x : Float}
    (indexed : ComesTo read cell Value.toNumber index x) :
    Chooses read cell (first :: rest) x (eval read cell (.call "CHOOSE" (index :: first :: rest)))

end Outcomes

/-- Wherever a formula selects by an index, the value comes from the place that the index names, or
is an error value where there is none. Only an index that is not a number can get past that, in a
lookup or a choice. -/
theorem selections_valueOf (w : Workbook) :
    (∀ path cell, Selections (valueOf Memory.none w path) cell) ∧
      ∀ cell c, evaluateCell w cell = .error (.strayIndex c) → StraysAt w c := by
  refine ⟨fun path cell => ⟨indexes_eval, looksUp_eval, chooses_eval⟩, fun cell c failed => ?_⟩
  have strays : FailsOnly (fun e => ∀ c, e = .strayIndex c → StraysAt w c)
      (valueOf Memory.none w [] cell) := by
    apply failsOnly_valueOf
    case circles =>
      intro chain _ _ c same
      cases same
    case selects =>
      intro c e formula s selector path v x value number notNumber c' same
      cases same
      exact ⟨e, formula, s, selector, v, x, eval_of_eval_below value, number, notNumber⟩
    case faults =>
      intro c e _ _ err fault c' same
      subst same
      cases fault
    case linked => exact .nil w cell
  rw [evaluateCell_eq] at failed
  exact strays.bind (fun v _ => failsOnly_ok _) _ failed c rfl

/-- The difference `x*10-x*10`, which is no number if the product is too large for one. -/
def difference (x : Float) : Expr :=
  let product := .binary .mul (.literal (.number x)) (.literal (.number 10))
  .binary .sub product product

/-- The price of an article, looked up by a column that is computed. -/
def priceOf (article : String) (x : Float) : Expr :=
  .call "VLOOKUP" [.literal (.text article), .range ⟨"S", 0, 0⟩ ⟨"S", 1, 1⟩, difference x,
    .literal (.boolean false)]

/-- Articles with their prices, and a price that is looked up. -/
def stock (article : String) (x : Float) : Workbook where
  name := "Stock"
  sheets := ["S"]
  cells := .ofList [
    (⟨"S", 0, 0⟩, ⟨.value (.text "ink"), none, none⟩),
    (⟨"S", 0, 1⟩, ⟨.value (.text "low"), none, none⟩),
    (⟨"S", 1, 0⟩, ⟨.value (.text "pen"), none, none⟩),
    (⟨"S", 1, 1⟩, ⟨.value (.text "high"), none, none⟩),
    (⟨"S", 2, 0⟩, ⟨.formula "VLOOKUP" (priceOf article x), none, none⟩)]

def prices : Table where
  first := ⟨"S", 0, 0⟩
  last := ⟨"S", 1, 1⟩
  rows_le := by decide
  cols_le := by decide
  held a :=
    match a.row, a.col with
    | 0, 0 => .text "ink"
    | 0, _ => .text "low"
    | _, 0 => .text "pen"
    | _, _ => .text "high"

theorem names_prices (article : String) (x : Float) (path : List Address) :
    Names (valueOf Memory.none (stock article x) path) (.range ⟨"S", 0, 0⟩ ⟨"S", 1, 1⟩) prices := by
  refine ⟨rfl, fun a within => ?_⟩
  have listed : a ∈ [⟨"S", 0, 0⟩, ⟨"S", 0, 1⟩, ⟨"S", 1, 0⟩, ⟨"S", 1, 1⟩] :=
    Address.mem_rectangle_iff.mpr within
  simp only [List.mem_cons, List.not_mem_nil, or_false] at listed
  rcases listed with rfl | rfl | rfl | rfl
  all_goals
    rw [valueOf_none_eq]
    cbv

theorem evaluateCell_stock (article : String) (x : Float) :
    evaluateCell (stock article x) ⟨"S", 2, 0⟩ =
      (eval (valueOf Memory.none (stock article x) [⟨"S", 2, 0⟩]) ⟨"S", 2, 0⟩
        (priceOf article x)).map
        (shown (stock article x) ⟨"S", 2, 0⟩) := by
  have found : (stock article x).cell? ⟨"S", 2, 0⟩ =
      some ⟨.formula "VLOOKUP" (priceOf article x), none, none⟩ := by
    cbv
  rw [evaluateCell_eq, evaluateWith, valueOf_none_eq, found]
  rfl

/-- A difference of numbers that are too large gives one article the price of the other, strays for
the first one, and strays in a choice. An index into the table by it is an error value. -/
theorem stock_selections :
    evaluateCell (stock "pen" 1e308) ⟨"S", 2, 0⟩ = .ok (.text "low") ∧
      (evaluateCell (stock "ink" 1e308) ⟨"S", 2, 0⟩ = .error (.strayIndex ⟨"S", 2, 0⟩) ∧
        StraysAt (stock "ink" 1e308) ⟨"S", 2, 0⟩) ∧
      eval (valueOf Memory.none (stock "pen" 1e308) []) ⟨"S", 2, 1⟩ (.call "CHOOSE"
        [difference 1e308, .literal (.integer 1)]) = .error (.strayIndex ⟨"S", 2, 1⟩) ∧
      eval (valueOf Memory.none (stock "pen" 1e308) []) ⟨"S", 2, 1⟩ (.call "INDEX"
        [.range ⟨"S", 0, 0⟩ ⟨"S", 1, 1⟩, difference 1e308, .literal (.number 2)]) =
          .ok (.error .reference) ∧
      eval (valueOf Memory.none (stock "pen" 1e308) []) ⟨"S", 2, 1⟩ (.call "INDEX"
        [.range ⟨"S", 0, 0⟩ ⟨"S", 1, 1⟩, .literal (.number 2), .literal (.number 2)]) =
          .ok (.text "high") := by
  have notNumber : (1e308 * 10 - 1e308 * 10 : Float).isNaN := by decide +kernel
  have computed (read : Address → Except CompileError Value) (cell : Address) :
      ComesTo read cell Value.toNumber (difference 1e308) (1e308 * 10 - 1e308 * 10) := ⟨_, rfl, rfl⟩
  have second (read : Address → Except CompileError Value) (cell : Address) :
      ComesToOr read cell Value.toNumber 0.0 (some (.literal (.number 2))) 2 := ⟨_, rfl, rfl⟩
  have exactly (read : Address → Except CompileError Value) (cell : Address) :
      ComesToOr read cell Value.toBoolean true (some (.literal (.boolean false))) false :=
    ⟨_, rfl, rfl⟩
  have looksUp (article : String) : LooksUp ⟨"S", 2, 0⟩ prices (.text article) false _
      (eval (valueOf Memory.none (stock article 1e308) [⟨"S", 2, 0⟩]) ⟨"S", 2, 0⟩
        (priceOf article 1e308)) :=
    ((selections_valueOf (stock article 1e308)).1 _ _).lookup rfl (fun e => by simp)
      (names_prices _ _ _) (computed _ _) (exactly _ _)
  have selections := (selections_valueOf (stock "pen" 1e308)).1 [] ⟨"S", 2, 1⟩
  have strays :
      evaluateCell (stock "ink" 1e308) ⟨"S", 2, 0⟩ = .error (.strayIndex ⟨"S", 2, 0⟩) := by
    rw [evaluateCell_stock, (looksUp "ink").stray notNumber (by decide +kernel)]
    rfl
  refine ⟨?_, ⟨strays, (selections_valueOf (stock "ink" 1e308)).2 _ _ strays⟩, ?_, ?_, ?_⟩
  · rw [evaluateCell_stock, ((looksUp "pen").above notNumber 0 (by decide +kernel)).2]
    rfl
  · exact (selections.choose (computed _ _)).stray notNumber
  · exact (selections.index (names_prices _ _ _) (computed _ _) (second _ _)).notNumber notNumber
  · have place : prices.place 2 2 = ⟨2, 2⟩ := by decide +kernel
    have entry := (selections.index (names_prices _ _ _) (second _ _) (second _ _)).inside
    rw [place] at entry
    exact entry ⟨by decide, by decide, by decide⟩

end SheetCompiler.Evaluation
