/-!
# Exact values of floating point numbers

A finite floating point number is a sign and a magnitude `mantissa * 2 ^ exponent`. Everything that
has to be exact, from printing to the choice of a list entry, is computed on this form with natural
numbers.
-/

namespace SheetCompiler.Decimal

/-- A non-negative number `mantissa * 2 ^ exponent` of the binary64 format. -/
structure Binary where
  mantissa : Nat
  exponent : Int
  /-- The gap to the next number below is half the gap to the next number above. -/
  narrowBelow : Bool

/-- The magnitude of a finite number from its bits. -/
def Binary.ofBits (bits : UInt64) : Binary :=
  let biased := ((bits >>> 52) &&& 0x7FF).toNat
  let fraction := (bits &&& 0xFFFFFFFFFFFFF).toNat
  if biased = 0 then
    ⟨fraction, -1074, false⟩
  else
    ⟨Nat.pow 2 52 + fraction, (biased : Int) - 1075, fraction == 0 && 1 < biased⟩

/-- The magnitude of a finite number. -/
def Binary.ofFloat (x : Float) : Binary :=
  Binary.ofBits x.toBits

/-- The value as a fraction of natural numbers. -/
def Binary.ratio (b : Binary) : Nat × Nat :=
  (b.mantissa * Nat.pow 2 b.exponent.toNat, Nat.pow 2 (-b.exponent).toNat)

/-- The sign bit is set. This holds for `-0.0` too, and may hold for NaN. -/
def isNegative (x : Float) : Bool :=
  x.toBits >>> 63 == 1

/-- The integer part of a finite number, its fraction cut off. -/
def integerPart (x : Float) : Int :=
  let (num, den) := (Binary.ofFloat x).ratio
  if isNegative x then -((num / den : Nat) : Int) else ((num / den : Nat) : Int)

/-- A finite number without a fraction. -/
def isIntegral (x : Float) : Bool :=
  let (num, den) := (Binary.ofFloat x).ratio
  x.isFinite && num % den == 0

/-- The integer part within the range from `least` to `greatest`: numbers beyond it give its ends,
and NaN gives zero. -/
def clampedInteger (least greatest : Int) (x : Float) : Int :=
  if x.isNaN then 0
  else if x.isInf then (if isNegative x then least else greatest)
  else max least (min greatest (integerPart x))

/-- The integer part as a 64-bit integer, the nearest one where it does not fit. -/
def toInteger (x : Float) : Int :=
  clampedInteger Int64.minValue.toInt Int64.maxValue.toInt x

end SheetCompiler.Decimal
