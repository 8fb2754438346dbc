import LinkedTables.Number.Shortest

/-!
# Decimals of a given length

Doubles written with a given number of places or digits. `FinitePart.onGrid` is the multiple of a
power of ten that is nearest to the double, a half going to the even neighbour; the three layouts
put a point into its digits: a fixed number of places, one digit before the point and an exponent
behind, or whichever of the two is fit for the size.
-/

namespace LinkedTables.Number

/-- The whole number nearest to a fraction; a half goes to the even neighbour. -/
def roundToEven (num den : Nat) : Nat :=
  match compare (2 * (num % den)) den with
  | .lt => num / den
  | .gt => num / den + 1
  | .eq => num / den + num / den % 2

/-- The numerator of a double as a fraction. -/
def FinitePart.numerator (p : FinitePart) : Nat := p.significand * Nat.pow 2 p.exponent.toNat

/-- The denominator of a double as a fraction. -/
def FinitePart.denominator (p : FinitePart) : Nat := Nat.pow 2 (-p.exponent).toNat

/-- The size of a double in units of `10 ^ g`, rounded. -/
def FinitePart.onGrid (p : FinitePart) (g : Int) : Nat :=
  roundToEven (p.numerator * Nat.pow 10 (-g).toNat) (p.denominator * Nat.pow 10 g.toNat)

/-- The least `k` with a size below `10 ^ k`, for a double that is not zero. -/
def FinitePart.magnitude (p : FinitePart) : Int :=
  let estimate : Int := ((p.significand.log2 : Int) + p.exponent) * 30103 / 100000 - 1
  Digits.magnitudeFrom 5 p.numerator p.denominator estimate

/-- A size rounded to a number of digits, of which there is at least one, and the place of the
leading digit. -/
def FinitePart.leading (p : FinitePart) (count : Nat) : Nat × Int :=
  if p.significand = 0 then (0, 0)
  else
    let k := p.magnitude
    let c := p.onGrid (k - count)
    if c = Nat.pow 10 count then (Nat.pow 10 (count - 1), k) else (c, k - 1)

/-- The digits of a number, with zeros before them up to a length. -/
def paddedDigits (length n : Nat) : List Char :=
  let ds := decimalText n
  List.replicate (length - ds.length) '0' ++ ds

/-- Digits behind a point. The point is kept without digits only if it is asked for. -/
def behindPoint (keepPoint : Bool) (ds : List Char) : List Char :=
  if ds.isEmpty && !keepPoint then [] else '.' :: ds

/-- Digits without the zeros at their end. -/
def withoutZeros (ds : List Char) : List Char := (ds.reverse.dropWhile (· == '0')).reverse

namespace FinitePart

/-- The digits before and behind the point for a number of places. -/
def splitAtPoint (p : FinitePart) (places : Nat) : List Char × List Char :=
  let ds := paddedDigits (places + 1) (p.onGrid (-(places : Int)))
  ds.splitAt (ds.length - places)

/-- A size with a number of places. -/
def fixedText (p : FinitePart) (places : Nat) (keepPoint : Bool) : List Char :=
  let (whole, fraction) := p.splitAtPoint places
  whole ++ behindPoint keepPoint fraction

/-- A size with one digit before the point, a number of places and an exponent. -/
def scientificText (p : FinitePart) (places : Nat) (keepPoint : Bool) : List Char :=
  let (c, lead) := p.leading (places + 1)
  let ds := paddedDigits (places + 1) c
  ds.take 1 ++ behindPoint keepPoint (ds.drop 1) ++ 'e' :: exponentText lead

/-- A size with a number of digits, of which the zeros at the end are left out unless the point is
kept: positional for leading places from −4 up to the number of digits, scientific elsewhere. -/
def generalText (p : FinitePart) (count : Nat) (keepPoint : Bool) : List Char :=
  let count := max 1 count
  let tidy (ds : List Char) : List Char := if keepPoint then ds else withoutZeros ds
  let (c, lead) := p.leading count
  if -4 ≤ lead ∧ lead < count then
    let (whole, fraction) := p.splitAtPoint (count - 1 - lead).toNat
    whole ++ behindPoint keepPoint (tidy fraction)
  else
    let ds := paddedDigits count c
    ds.take 1 ++ behindPoint keepPoint (tidy (ds.drop 1)) ++ 'e' :: exponentText lead

end FinitePart

end LinkedTables.Number
