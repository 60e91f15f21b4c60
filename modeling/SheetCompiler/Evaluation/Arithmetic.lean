import SheetCompiler.Value

/-!
# Arithmetic on cell values

The numeric functions of a spreadsheet on floating point numbers, each operation in the order in
which it rounds.
-/

namespace SheetCompiler.Evaluation

/-- The sum from left to right. The sum of nothing is `-0.0`, the neutral number of addition. -/
def sum (xs : List Float) : Float :=
  xs.foldl (· + ·) (-0.0)

/-- The product from left to right. -/
def product (xs : List Float) : Float :=
  xs.foldl (· * ·) 1.0

/-- The lesser of two numbers, passing over one that is not a number. -/
def lesser (x y : Float) : Float :=
  if x.isNaN then y else if y < x then y else x

/-- The greater of two numbers, passing over one that is not a number. -/
def greater (x y : Float) : Float :=
  if x.isNaN then y else if x < y then y else x

/-- The numbers joined two by two from the left; zero when there are none. -/
def joined (join : Float → Float → Float) : List Float → Float
  | [] => 0.0
  | x :: xs => xs.foldl join x

/-- The number without its fraction. -/
def truncated (x : Float) : Float :=
  if x < 0.0 then x.ceil else x.floor

/-- One with the sign of the number. -/
def signOf (x : Float) : Float :=
  if x.isNaN then x else if Decimal.isNegative x then -1.0 else 1.0

/-- `acc * base ^ n` for a positive `n`, by squaring. -/
def powerTimes (acc base : Float) (n : Nat) : Float :=
  let acc' := if n % 2 = 1 then acc * base else acc
  if n / 2 = 0 then acc' else powerTimes acc' (base * base) (n / 2)
termination_by n
decreasing_by omega

/-- The value today of payments at the end of each period. -/
def netPresentValue (rate : Float) (payments : List Float) : Float :=
  sum (payments.mapIdx fun i payment => payment / powerTimes 1.0 (1.0 + rate) (i + 1))

/-- A result that has to be finite. -/
def finite (x : Float) : Value :=
  if x.isFinite then .number x else .error .number

/-- The quotient, unless the divisor is zero. -/
def divide (x y : Float) : Value :=
  if y == 0.0 then .error .divisionByZero else .number (x / y)

/-- The power, if it is finite. -/
def power (x y : Float) : Value :=
  finite (x ^ y)

/-- The square root of a number that is not negative. -/
def squareRoot (x : Float) : Value :=
  if x < 0.0 then .error .number else .number x.sqrt

/-- The remainder with the sign of the divisor. -/
def modulo (x y : Float) : Value :=
  if y == 0.0 then .error .divisionByZero else .number (x - y * (x / y).floor)

/-- Ten to the power of a number of places, its fraction cut off. -/
def placesScale (places : Float) : Float :=
  (10.0 : Float) ^ truncated places

/-- The number rounded to a number of places, halves away from zero. -/
def round (x places : Float) : Float :=
  let scale := placesScale places
  (x * scale).round / scale

/-- The number rounded away from zero to a number of places. -/
def roundUp (x places : Float) : Float :=
  let scale := placesScale places
  signOf x * (x.abs * scale).ceil / scale

/-- The number rounded toward zero to a number of places. -/
def roundDown (x places : Float) : Float :=
  let scale := placesScale places
  signOf x * (x.abs * scale).floor / scale

end SheetCompiler.Evaluation
