import LinkedTables.Number.Binary

/-!
# Shortest decimals

`Digits.shortest` gives the decimal with the fewest digits that reads back to a finite double, and
of those the nearest; the digits are found on the grids of one to seventeen places by exact
arithmetic. `floatText` lays them out: positionally while the leading digit stands between the
fourth place behind the point and the sixteenth before it, otherwise with an exponent of a sign
and at least two digits.
-/

namespace LinkedTables.Number

/-- The decimal `coefficient · 10 ^ exponent`. -/
structure Digits where
  coefficient : Nat
  exponent : Int

namespace Digits

/-- Trailing zeros moved into the exponent; `fuel` bounds their number. -/
def stripZeros : Nat → Digits → Digits
  | 0, d => d
  | fuel + 1, d =>
    if d.coefficient ≠ 0 ∧ d.coefficient % 10 = 0 then
      stripZeros fuel ⟨d.coefficient / 10, d.exponent + 1⟩
    else d

/-- Compares `c · 10 ^ e` with the fraction `num / den`. -/
def compareTo (d : Digits) (num den : Nat) : Ordering :=
  compare (d.coefficient * Nat.pow 10 d.exponent.toNat * den)
    (num * Nat.pow 10 (-d.exponent).toNat)

/-- Whether a decimal lies among the reals that round to a double: between the halves of the gaps
to its neighbours, both ends included exactly when the significand is even. -/
def readsBack (p : FinitePart) (d : Digits) : Bool :=
  let scale := Nat.pow 2 p.exponent.toNat
  let den := 4 * Nat.pow 2 (-p.exponent).toNat
  let below := (if p.narrowBelow then 4 * p.significand - 1 else 4 * p.significand - 2) * scale
  let above := (4 * p.significand + 2) * scale
  let closed := p.significand % 2 == 0
  let lo := d.compareTo below den
  let hi := d.compareTo above den
  (lo == .gt || (closed && lo == .eq)) && (hi == .lt || (closed && hi == .eq))

/-- The least `k` with `num / den < 10 ^ k`, searched upward from `k`. -/
def magnitudeFrom : Nat → Nat → Nat → Int → Int
  | 0, _, _, k => k
  | fuel + 1, num, den, k =>
    if num * Nat.pow 10 (-k).toNat < den * Nat.pow 10 k.toNat then k
    else magnitudeFrom fuel num den (k + 1)

/-- The point of the grid `10 ^ g` that reads back, if one of the two neighbours of the value
does: the nearer one, and the even one of two equally near. -/
def onGrid? (p : FinitePart) (num den : Nat) (g : Int) : Option Digits :=
  let top := num * Nat.pow 10 (-g).toNat
  let bottom := den * Nat.pow 10 g.toNat
  let q := top / bottom
  let lower : Digits := ⟨q, g⟩
  let upper : Digits := ⟨q + 1, g⟩
  match readsBack p lower, readsBack p upper with
  | true, true =>
    match compare (2 * (top % bottom)) bottom with
    | .lt => some lower
    | .gt => some upper
    | .eq => some (if q % 2 = 0 then lower else upper)
  | true, false => some lower
  | false, true => some upper
  | false, false => none

/-- The decimal of fewest digits that reads back to a double that is not zero. -/
def shortest (p : FinitePart) : Digits :=
  let num := p.significand * Nat.pow 2 p.exponent.toNat
  let den := Nat.pow 2 (-p.exponent).toNat
  let estimate : Int := ((p.significand.log2 : Int) + p.exponent) * 30103 / 100000 - 1
  let k := magnitudeFrom 5 num den estimate
  let found := (List.range 17).findSome? fun n : Nat => onGrid? p num den (k - 1 - (n : Int))
  stripZeros 400 (found.getD ⟨num * Nat.pow 10 (-(k - 17)).toNat / den, k - 17⟩)

end Digits

/-- The decimal digits of a number. -/
def decimalText (n : Nat) : List Char := Nat.toDigits 10 n

/-- An exponent with its sign and at least two digits. -/
def exponentText (e : Int) : List Char :=
  let ds := decimalText e.natAbs
  (if e < 0 then '-' else '+') :: (if ds.length < 2 then '0' :: ds else ds)

/-- Digits with a point after the first `place`, zeros filling up on either side. -/
def pointed (ds : List Char) (place : Int) : List Char :=
  if place ≤ 0 then '0' :: '.' :: List.replicate (-place).toNat '0' ++ ds
  else if place.toNat < ds.length then ds.take place.toNat ++ '.' :: ds.drop place.toNat
  else ds ++ List.replicate (place.toNat - ds.length) '0' ++ ['.', '0']

/-- A decimal laid out: positional for leading places −4 to 15, scientific elsewhere. -/
def Digits.text (d : Digits) : List Char :=
  let ds := decimalText d.coefficient
  let lead : Int := d.exponent + ds.length - 1
  if -4 ≤ lead ∧ lead < 16 then pointed ds (lead + 1)
  else
    let mantissa := match ds with
      | [] => []
      | [c] => [c]
      | c :: rest => c :: '.' :: rest
    mantissa ++ 'e' :: exponentText lead

/-- The text of a double: the fewest digits that read back to it. -/
def floatText (x : Float) : String :=
  match FinitePart.of? x with
  | none => if x.isNaN then "nan" else if signBit x then "-inf" else "inf"
  | some p =>
    let size := if p.significand = 0 then ['0', '.', '0'] else (Digits.shortest p).text
    String.ofList (if p.negative then '-' :: size else size)

end LinkedTables.Number
