import SheetCompiler.Decimal.Binary

/-!
# Shortest decimals

The decimal with the fewest digits that reads back as a given floating point number, and among those
the nearest one. A decimal reads back when it lies in the interval of reals that round to the
number; all comparisons are made on natural numbers.
-/

namespace SheetCompiler.Decimal

/-- The number `digits * 10 ^ exponent`. -/
structure Scientific where
  digits : Nat
  exponent : Int
deriving DecidableEq

/-- Which of two equally near neighbours is taken. -/
inductive Tie where
  | toEven
  | away
deriving DecidableEq

/-- Compares `a * 10 ^ i` with `n * 2 ^ j`. -/
def compareScaled (a : Nat) (i : Int) (n : Nat) (j : Int) : Ordering :=
  compare (a * Nat.pow 10 i.toNat * Nat.pow 2 (-j).toNat)
    (n * Nat.pow 2 j.toNat * Nat.pow 10 (-i).toNat)

/-- The decimal lies among the reals that round to the number. The ends of that interval belong to
it when the mantissa is even. -/
def Binary.readsBack (b : Binary) (d : Scientific) : Bool :=
  let below := if b.narrowBelow then 4 * b.mantissa - 1 else 4 * b.mantissa - 2
  let above := 4 * b.mantissa + 2
  let closed := b.mantissa % 2 == 0
  let low := compareScaled d.digits d.exponent below (b.exponent - 2)
  let high := compareScaled d.digits d.exponent above (b.exponent - 2)
  (low == .gt || (closed && low == .eq)) && (high == .lt || (closed && high == .eq))

/-- The least `k` with `b < 10 ^ k`, for `b` other than zero. The binary logarithm gives the place
to start from. -/
def Binary.scale (b : Binary) : Int :=
  let log : Int := b.mantissa.log2 + b.exponent
  let start := log * 30103 / 100000 - 1
  let exceeds (k : Int) := compareScaled 1 k b.mantissa b.exponent == .gt
  if exceeds start then start
  else if exceeds (start + 1) then start + 1
  else if exceeds (start + 2) then start + 2
  else start + 3

/-- The quotient of `b` by `10 ^ k` as a fraction. -/
def Binary.quotient (b : Binary) (k : Int) : Nat × Nat :=
  let (num, den) := b.ratio
  (num * Nat.pow 10 (-k).toNat, den * Nat.pow 10 k.toNat)

/-- The quotient rounded to the nearest natural number. -/
def roundedQuotient (num den : Nat) (tie : Tie) : Nat :=
  let whole := num / den
  match compare (2 * (num % den)) den, tie with
  | .lt, _ => whole
  | .gt, _ => whole + 1
  | .eq, .away => whole + 1
  | .eq, .toEven => if whole % 2 = 0 then whole else whole + 1

/-- The neighbour of `b` on the grid of multiples of `10 ^ k` that reads back, the nearer one if
both do. -/
def Binary.onGrid? (b : Binary) (tie : Tie) (k : Int) : Option Scientific :=
  let (num, den) := b.quotient k
  let low : Scientific := ⟨num / den, k⟩
  let high : Scientific := ⟨num / den + 1, k⟩
  match b.readsBack low, b.readsBack high with
  | false, false => none
  | true, false => some low
  | false, true => some high
  | true, true => some ⟨roundedQuotient num den tie, k⟩

/-- Trailing zeros moved from the digits to the exponent. -/
def stripZeros (d : Scientific) : Scientific :=
  if h : d.digits ≠ 0 ∧ d.digits % 10 = 0 then
    stripZeros ⟨d.digits / 10, d.exponent + 1⟩
  else
    d
termination_by d.digits
decreasing_by exact Nat.div_lt_self (Nat.pos_of_ne_zero h.1) (by decide)

/-- The exact decimal value. -/
def Binary.exact (b : Binary) : Scientific :=
  ⟨b.mantissa * Nat.pow 2 b.exponent.toNat * Nat.pow 5 (-b.exponent).toNat, min b.exponent 0⟩

/-- The shortest decimal that reads back as `b`: the coarsest grid with a neighbour that does. -/
def Binary.shortest (b : Binary) (tie : Tie) : Scientific :=
  if b.mantissa = 0 then
    ⟨0, 0⟩
  else
    let k := b.scale
    let grids := (List.range 17).map fun (n : Nat) => k - 1 - (n : Int)
    stripZeros ((grids.findSome? (b.onGrid? tie)).getD b.exact)

/-- The decimal of `count` significant digits nearest to `b`, halves to even. -/
def Binary.significant (b : Binary) (count : Nat) : Scientific :=
  if b.mantissa = 0 then
    ⟨0, 0⟩
  else
    let k := b.scale - count
    let (num, den) := b.quotient k
    ⟨roundedQuotient num den .toEven, k⟩

end SheetCompiler.Decimal
