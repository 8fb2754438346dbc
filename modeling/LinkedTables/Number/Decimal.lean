import LinkedTables.Number.Binary
import LinkedTables.Number.Shortest
import LinkedTables.Text.Blank
import LinkedTables.Text.DecimalDigit

/-!
# Exact decimals

A `Decimal` keeps its coefficient and exponent apart, so `1.50` and `1.5` are two decimals of one
value, and it may be infinite or no number. `Decimal.text` writes it in scientific form when the
exponent is positive or the value is very small, and `Decimal.read?` reads that form and the looser
ones: blanks around it, underscores anywhere, digits of any script.
-/

namespace LinkedTables.Number

/-- An exact decimal number, an infinity, or one of the values that are no number. -/
inductive Decimal where
  | finite (negative : Bool) (coefficient : Nat) (exponent : Int)
  | infinite (negative : Bool)
  | nan (negative signaling : Bool) (payload : Nat)
deriving DecidableEq, Inhabited

namespace Decimal

/-- The place of the leading digit. -/
def adjusted (coefficient : Nat) (exponent : Int) : Int :=
  exponent + (decimalText coefficient).length - 1

/-- The text of a finite size: positional while the exponent is not positive and at most five
zeros would follow the point, scientific elsewhere. -/
def sizeText (coefficient : Nat) (exponent : Int) : List Char :=
  let ds := decimalText coefficient
  let left : Int := exponent + ds.length
  let place : Int := if exponent ≤ 0 ∧ -6 < left then left else 1
  let body :=
    if place ≤ 0 then '0' :: '.' :: List.replicate (-place).toNat '0' ++ ds
    else if place.toNat < ds.length then ds.take place.toNat ++ '.' :: ds.drop place.toNat
    else ds ++ List.replicate (place.toNat - ds.length) '0'
  if left = place then body
  else
    let e := left - place
    body ++ 'E' :: (if e < 0 then '-' else '+') :: decimalText e.natAbs

/-- The text of a decimal. -/
def text : Decimal → String
  | finite negative c e => String.ofList (if negative then '-' :: sizeText c e else sizeText c e)
  | infinite negative => if negative then "-Infinity" else "Infinity"
  | nan negative signaling payload =>
    let tail := if payload = 0 then "" else String.ofList (decimalText payload)
    (if negative then "-" else "") ++ (if signaling then "sNaN" else "NaN") ++ tail

/-- The greatest place a leading digit may have. -/
def maxAdjusted : Int := 999999999999999999

/-- The least exponent. -/
def minExponent : Int := -1999999999999999997

/-- The digits at the head of a text, and what follows them. -/
def spanDigits (cs : List Char) : List Nat × List Char :=
  (cs.takeWhile (asciiDigit? · |>.isSome) |>.filterMap asciiDigit?,
    cs.dropWhile (asciiDigit? · |>.isSome))
where asciiDigit? := Text.asciiDigit?

/-- A sign at the head of a text. -/
def spanSign : List Char → Bool × List Char
  | '-' :: cs => (true, cs)
  | '+' :: cs => (false, cs)
  | cs => (false, cs)

/-- An exponent mark with its number, which may be absent altogether. -/
def readExponent? : List Char → Option Int
  | [] => some 0
  | c :: cs =>
    if c = 'e' || c = 'E' then
      let (negative, rest) := spanSign cs
      match spanDigits rest with
      | ([], _) => none
      | (ds, []) =>
        let n : Int := Text.natOfDigits ds
        some (if negative then -n else n)
      | _ => none
    else none

/-- Digits with an optional point and exponent: the coefficient and the exponent. -/
def readSize? (cs : List Char) : Option (Nat × Int) := do
  let (whole, rest) := spanDigits cs
  let (fraction, rest) := match rest with
    | '.' :: more => spanDigits more
    | _ => ([], rest)
  if whole.isEmpty && fraction.isEmpty then none
  else
    let e ← readExponent? rest
    return (Text.natOfDigits (whole ++ fraction), e - fraction.length)

/-- Plain small letters for comparing words. -/
def smallLetters (cs : List Char) : List Char := cs.map Char.toLower

/-- The payload digits after the letters of a value that is no number. -/
def readPayload? (cs : List Char) : Option Nat :=
  match spanDigits cs with
  | (ds, []) => some (Text.natOfDigits ds)
  | _ => none

/-- Reads a decimal from plain characters. -/
def readPlain? (cs : List Char) : Option Decimal :=
  let (negative, rest) := spanSign cs
  let small := smallLetters rest
  if small = "inf".toList || small = "infinity".toList then some (infinite negative)
  else if small.take 3 = "nan".toList then
    (readPayload? (small.drop 3)).map (nan negative false)
  else if small.take 4 = "snan".toList then
    (readPayload? (small.drop 4)).map (nan negative true)
  else
    match readSize? rest with
    | none => none
    | some (c, e) =>
      if adjusted c e ≤ maxAdjusted ∧ minExponent ≤ e then some (finite negative c e) else none

/-- A digit of any script as the plain one; other characters stay. -/
def plainDigit (c : Char) : Char :=
  match Text.digitValue? c with
  | some d => Char.ofNat (48 + d)
  | none => c

/-- Reads a decimal from a text. -/
def read? (s : String) : Option Decimal :=
  let cs := Text.dropBoth Text.isBlank s.toList
  readPlain? ((cs.filter (· ≠ '_')).map plainDigit)

/-- Whether the value is zero; no number and the infinities are not. -/
def isZero : Decimal → Bool
  | finite _ c _ => c = 0
  | _ => false

/-- The integer part of a finite decimal, cut off toward zero. -/
def truncated (negative : Bool) (c : Nat) (e : Int) : Int :=
  let size := if 0 ≤ e then c * Nat.pow 10 e.toNat else c / Nat.pow 10 (-e).toNat
  if negative then -(size : Int) else size

end Decimal

end LinkedTables.Number
