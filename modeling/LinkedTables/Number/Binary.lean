/-!
# Floating-point numbers, exactly

A finite double is `± significand · 2 ^ exponent`. `FinitePart.of?` reads these parts off the bits,
so that whatever is decided about a float (is it whole, which integer does it hold, what does it
equal) is decided on integers. `FinitePart.truncated` is the integer part toward zero and
`FinitePart.isWhole` says that nothing is cut off by it.
-/

namespace LinkedTables.Number

/-- The parts of a finite double. -/
structure FinitePart where
  negative : Bool
  significand : Nat
  exponent : Int
  /-- The value below is half as far away as the value above. -/
  narrowBelow : Bool

namespace FinitePart

/-- The parts held by the bits of a finite double. -/
def ofBits (bits : UInt64) : FinitePart :=
  let stored := (bits >>> 52 &&& 0x7FF).toNat
  let fraction := (bits &&& 0xFFFFFFFFFFFFF).toNat
  let negative := bits >>> 63 == 1
  if stored = 0 then ⟨negative, fraction, -1074, false⟩
  else ⟨negative, Nat.pow 2 52 + fraction, (stored : Int) - 1075, fraction = 0 && 1 < stored⟩

/-- The parts of a double, unless it is infinite or no number. -/
def of? (x : Float) : Option FinitePart :=
  if x.isNaN || x.isInf then none else some (ofBits x.toBits)

/-- The size of the integer part. -/
def wholePart (p : FinitePart) : Nat :=
  if 0 ≤ p.exponent then p.significand * Nat.pow 2 p.exponent.toNat
  else p.significand / Nat.pow 2 (-p.exponent).toNat

/-- No binary digit stands behind the point. -/
def isWhole (p : FinitePart) : Bool :=
  0 ≤ p.exponent || p.significand % Nat.pow 2 (-p.exponent).toNat == 0

/-- The integer part, cut off toward zero. -/
def truncated (p : FinitePart) : Int :=
  if p.negative then -(p.wholePart : Int) else p.wholePart

end FinitePart

/-- The sign bit, which also zero and the infinities carry. -/
def signBit (x : Float) : Bool := x.toBits >>> 63 == 1

/-- The double nearest to an integer, or none when the integer lies beyond the finite doubles. -/
def floatOfInt? (n : Int) : Option Float :=
  let size := Float.ofScientific n.natAbs false 0
  if size.isInf then none else some (if n < 0 then -size else size)

/-- The double nearest to `± digits · 10 ^ exponent`; sizes beyond all doubles become infinite and
sizes below the least one become zero. -/
def floatOfDecimal (negative : Bool) (digits : Nat) (exponent : Int) : Float :=
  let places : Int := (Nat.toDigits 10 digits).length
  let size :=
    if digits = 0 || places + exponent < -400 then 0.0
    else if 400 < places + exponent then 1.0 / 0.0
    else Float.ofScientific digits (exponent < 0) exponent.natAbs
  if negative then -size else size

end LinkedTables.Number
