import SheetCompiler.Value

/-!
# Lookups

Lookup functions read a rectangle of values row by row. Positions count from one.
-/

namespace SheetCompiler.Evaluation

/-- The values of a rectangle, row by row. -/
structure Block where
  values : List Value
  width : Nat

namespace Block

/-- The number of rows. -/
def height (b : Block) : Nat :=
  b.values.length / max 1 b.width

/-- The value at a row and column, both from one. -/
def at? (b : Block) (row col : Int) : Option Value :=
  if row < 1 || col < 1 || (b.height : Int) < row || (b.width : Int) < col then none
  else b.values[(row.toNat - 1) * b.width + col.toNat - 1]?

/-- The value selected by a row and a column. Column zero stands for the other one of a single row
or column. -/
def select (b : Block) (row col : Float) : Coerced Value :=
  let r := Decimal.toInteger row
  let c := Decimal.toInteger col
  let found :=
    if c ≠ 0 then b.at? r c
    else if b.width = 1 then b.at? r 1
    else if b.height = 1 then b.at? 1 r
    else none
  match found with
  | some v => .ok v
  | none => .error .reference

/-- The first value of every row. -/
def firstColumn (b : Block) : List Value :=
  (b.values.mapIdx fun i v => if i % b.width = 0 then some v else none).filterMap id

end Block

/-- How many leading values satisfy `fits`. -/
def fittingCount (fits : Value → Bool) (values : List Value) : Nat :=
  (values.takeWhile fits).length

/-- The position of a key, from one. Kind zero asks for an equal value, a positive kind for the last
value of the leading ones up to the key, any other for the last of the leading ones down to it. -/
def position (key : Value) (values : List Value) (kind : Float) : Coerced Nat :=
  let found :=
    if kind == 0.0 then
      match values.findIdx? fun v => v.compare key == .eq with
      | some i => i + 1
      | none => 0
    else if 0.0 < kind then
      fittingCount (fun v => v.compare key != .gt) values
    else
      fittingCount (fun v => v.compare key != .lt) values
  if found = 0 then .error .notAvailable else .ok found

/-- What looking up a row and a column of it comes to. -/
inductive Found where
  | value (v : Value)
  /-- The place lies outside the values. -/
  | outside

/-- The value in the given column of the row whose first value matches the key. A column that is not
a number passes for zero. -/
def Block.lookup (b : Block) (key : Value) (col : Float) (approximate : Bool) : Coerced Found :=
  let c := Decimal.toInteger col
  if !col.isNaN && (c < 1 || (b.width : Int) < c) then .error .reference
  else
    match position key b.firstColumn (if approximate then 1.0 else 0.0) with
    | .error e => .error e
    | .ok row =>
      -- The place counted from one, so that zero lies before the first value.
      match (row - 1) * b.width + c.toNat with
      | 0 => .ok .outside
      | place + 1 =>
        match b.values[place]? with
        | some v => .ok (.value v)
        | none => .ok .outside

end SheetCompiler.Evaluation
