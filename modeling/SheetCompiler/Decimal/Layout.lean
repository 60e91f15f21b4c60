import SheetCompiler.Decimal.Shortest

/-!
# Writing numbers

A number is written with the fewest digits that read back. A `NumberStyle` holds the decisions that
remain: where positional writing ends, whether an integral number keeps `.0`, how ties between
equally short decimals go, and the words for what has no digits.
-/

namespace SheetCompiler.Decimal

/-- The decisions of one way to write numbers. -/
structure NumberStyle where
  tie : Tie
  /-- Whether a number whose leading digit has this decimal exponent is written positionally. -/
  positional : Int → Bool
  /-- `12.0` rather than `12`. -/
  keepsPoint : Bool
  nan : String
  infinity : String

/-- Numbers in source text and in messages about tokens: an exponent outside `1e-4 ≤ |x| < 1e16`,
and always a point or an exponent. -/
def NumberStyle.literal : NumberStyle where
  tie := .away
  positional e := -4 ≤ e && e < 16
  keepsPoint := true
  nan := "NaN"
  infinity := "inf"

/-- Numbers in running text: all digits, no exponent. -/
def NumberStyle.plain : NumberStyle where
  tie := .away
  positional _ := true
  keepsPoint := false
  nan := "NaN"
  infinity := "inf"

/-- Numbers in documents: an exponent outside `1e-5 ≤ |x| < 1e16`. -/
def NumberStyle.document : NumberStyle where
  tie := .toEven
  positional e := -5 ≤ e && e < 16
  keepsPoint := true
  nan := ".nan"
  infinity := ".inf"

/-- The decimal digits of a natural number. -/
def digitChars (n : Nat) : List Char :=
  Nat.toDigits 10 n

/-- A decimal laid out in the given style. -/
def NumberStyle.layout (style : NumberStyle) (d : Scientific) : String :=
  let ds := digitChars d.digits
  -- The decimal exponent of the leading digit.
  let lead : Int := d.exponent + ds.length - 1
  if style.positional lead then
    if 0 ≤ d.exponent then
      let whole := ds ++ List.replicate d.exponent.toNat '0'
      String.ofList (if style.keepsPoint then whole ++ ['.', '0'] else whole)
    else if 0 ≤ lead then
      String.ofList (ds.take (lead.toNat + 1) ++ '.' :: ds.drop (lead.toNat + 1))
    else
      String.ofList ('0' :: '.' :: (List.replicate ((-lead).toNat - 1) '0' ++ ds))
  else
    let mantissa := match ds with
      | [] => []
      | [first] => [first]
      | first :: rest => first :: '.' :: rest
    let sign := if lead < 0 then ['-'] else []
    String.ofList (mantissa ++ 'e' :: (sign ++ digitChars lead.natAbs))

/-- A number in the given style. -/
def NumberStyle.write (style : NumberStyle) (x : Float) : String :=
  if x.isNaN then style.nan
  else
    let sign := if isNegative x then "-" else ""
    if x.isInf then sign ++ style.infinity
    else sign ++ style.layout ((Binary.ofFloat x).shortest style.tie)

end SheetCompiler.Decimal
