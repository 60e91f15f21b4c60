import SheetCompiler.Decimal.Shortest

/-!
# Reading numbers

The grammar of number texts: an optional sign, then digits with at most one point and an optional
exponent, or one of the words for infinity and not-a-number in any case. The value is the
floating point number nearest to the decimal.
-/

namespace SheetCompiler.Decimal

/-- The value of a list of decimal digits. -/
def digitsValue (ds : List Char) : Nat :=
  ds.foldl (fun n d => 10 * n + (d.toNat - '0'.toNat)) 0

/-- The floating point number nearest to a decimal. Exponents far outside the format are decided by
the magnitude alone. -/
def Scientific.toFloat (d : Scientific) : Float :=
  if d.digits = 0 then 0.0
  else
    let lead : Int := d.exponent + (Nat.toDigits 10 d.digits).length
    if 400 < lead then 1.0 / 0.0
    else if lead < -400 then 0.0
    else Float.ofScientific d.digits (d.exponent < 0) d.exponent.natAbs

/-- Digits with at most one point and an optional exponent, without a sign. -/
def readUnsigned? (cs : List Char) : Option Scientific :=
  let (whole, afterWhole) := cs.span Char.isDigit
  let (fraction, afterFraction) := match afterWhole with
    | '.' :: rest => rest.span Char.isDigit
    | rest => ([], rest)
  if whole.isEmpty && fraction.isEmpty then none
  else
    let digits := digitsValue (whole ++ fraction)
    let places : Int := fraction.length
    match afterFraction with
    | [] => some ⟨digits, -places⟩
    | e :: rest =>
      if e == 'e' || e == 'E' then
        let (negative, ds) := match rest with
          | '-' :: ds => (true, ds)
          | '+' :: ds => (false, ds)
          | ds => (false, ds)
        if ds.isEmpty || !ds.all Char.isDigit then none
        else
          let power : Int := digitsValue ds
          some ⟨digits, (if negative then -power else power) - places⟩
      else
        none

/-- The number that a text spells. -/
def readFloat? (s : String) : Option Float :=
  let (negative, body) := match s.toList with
    | '-' :: cs => (true, cs)
    | '+' :: cs => (false, cs)
    | cs => (false, cs)
  let magnitude : Option Float :=
    match String.ofList (body.map Char.toLower) with
    | "inf" | "infinity" => some (1.0 / 0.0)
    | "nan" => some (0.0 / 0.0)
    | _ => (readUnsigned? body).map Scientific.toFloat
  magnitude.map fun x => if negative then -x else x

/-- The finite number that a text spells. -/
def readFinite? (s : String) : Option Float :=
  (readFloat? s).filter Float.isFinite

end SheetCompiler.Decimal
