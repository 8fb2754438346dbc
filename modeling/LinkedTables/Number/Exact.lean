import LinkedTables.Number.Decimal

/-!
# Equality across number types

An `Exact` number is `± size · 2 ^ two · 10 ^ ten`, an infinity, or no number. Integers, doubles
and decimals all have such a form, and `Exact.same` decides whether two of them are equal as
numbers, without rounding either.
-/

namespace LinkedTables.Number

/-- A number written with powers of two and of ten, an infinity, or no number. -/
inductive Exact where
  | finite (negative : Bool) (size : Nat) (two ten : Int)
  | infinite (negative : Bool)
  | nan

namespace Exact

/-- The form of an integer. -/
def ofInt (n : Int) : Exact := finite (n < 0) n.natAbs 0 0

/-- The form of a double. -/
def ofFloat (x : Float) : Exact :=
  match FinitePart.of? x with
  | some p => finite p.negative p.significand p.exponent 0
  | none => if x.isNaN then nan else infinite (signBit x)

/-- The form of a decimal. -/
def ofDecimal : Decimal → Exact
  | .finite negative c e => finite negative c 0 e
  | .infinite negative => infinite negative
  | .nan .. => nan

/-- Whether two positive sizes agree; exponents of ten so far apart that no size could make up
for them settle it without computing the power. -/
def sameSize (m : Nat) (two ten : Int) (n : Nat) (two' ten' : Int) : Bool :=
  let d := ten - ten'
  let t := two - two'
  if m.log2 + n.log2 + t.natAbs + 2 < d.natAbs then false
  else m * Nat.pow 2 t.toNat * Nat.pow 10 d.toNat
    == n * Nat.pow 2 (-t).toNat * Nat.pow 10 (-d).toNat

/-- Equality as numbers; no number equals nothing, and the two zeros are equal. -/
def same : Exact → Exact → Bool
  | finite neg m two ten, finite neg' n two' ten' =>
    if m = 0 || n = 0 then m = n else neg == neg' && sameSize m two ten n two' ten'
  | infinite neg, infinite neg' => neg == neg'
  | _, _ => false

end Exact

end LinkedTables.Number
