import LinkedTables.Text.Hex

/-!
# Percent coding

Texts in the places of an address: `percentDecode` replaces every `%` with two hexadecimal digits
by the byte they name, and `percentEncode` writes every byte of the text that is not in a safe set
that way, with capital digits.
-/

namespace LinkedTables.Text

/-- A byte that goes on a character begun before it. -/
def isContinuation (b : UInt8) : Bool := 0x80 ≤ b && b < 0xC0

/-- The length of the well-formed character at the head of the bytes, or, for an ill-formed one,
the number of bytes that together count as one error. -/
def leadingUnit : List UInt8 → Bool × Nat
  | [] => (false, 0)
  | b :: rest =>
    let follow (lo hi : UInt8) (n : Nat) : Bool × Nat :=
      match rest with
      | [] => (false, 1)
      | c :: more =>
        if c < lo || hi < c then (false, 1)
        else
          let good := (more.take (n - 1)).takeWhile isContinuation
          if good.length = n - 1 then (true, n + 1) else (false, good.length + 2)
    if b < 0x80 then (true, 1)
    else if b < 0xC2 then (false, 1)
    else if b < 0xE0 then follow 0x80 0xBF 1
    else if b = 0xE0 then follow 0xA0 0xBF 2
    else if b = 0xED then follow 0x80 0x9F 2
    else if b < 0xF0 then follow 0x80 0xBF 2
    else if b = 0xF0 then follow 0x90 0xBF 3
    else if b < 0xF4 then follow 0x80 0xBF 3
    else if b = 0xF4 then follow 0x80 0x8F 3
    else (false, 1)

/-- The code point of a well-formed character. -/
def codePointOf : List UInt8 → Nat
  | [] => 0
  | [b] => b.toNat
  | [b, c] => (b.toNat % 32) * 64 + c.toNat % 64
  | [b, c, d] => (b.toNat % 16) * 4096 + (c.toNat % 64) * 64 + d.toNat % 64
  | b :: c :: d :: e :: _ =>
    (b.toNat % 8) * 262144 + (c.toNat % 64) * 4096 + (d.toNat % 64) * 64 + e.toNat % 64

/-- The text of UTF-8 bytes, with a replacement character for every error; `fuel` bounds the
number of characters. -/
def utf8Text : Nat → List UInt8 → List Char
  | 0, _ => []
  | _, [] => []
  | fuel + 1, bs =>
    match leadingUnit bs with
    | (true, n) => Char.ofNat (codePointOf (bs.take n)) :: utf8Text fuel (bs.drop n)
    | (false, n) => '\uFFFD' :: utf8Text fuel (bs.drop (max n 1))

/-- The text of UTF-8 bytes, with a replacement character for every error. -/
def ofUtf8 (bs : List UInt8) : List Char := utf8Text bs.length bs

/-- The bytes of a run of percent escapes, and what follows it. -/
def escapedBytes : List Char → List UInt8 × List Char
  | '%' :: a :: b :: rest =>
    match hexValue? a, hexValue? b with
    | some hi, some lo =>
      let (bs, after) := escapedBytes rest
      (UInt8.ofNat (16 * hi + lo) :: bs, after)
    | _, _ => ([], '%' :: a :: b :: rest)
  | cs => ([], cs)

/-- Decodes every run of percent escapes; `fuel` bounds the number of steps. -/
def percentDecodeFrom : Nat → List Char → List Char
  | 0, cs => cs
  | _, [] => []
  | fuel + 1, c :: cs =>
    match escapedBytes (c :: cs) with
    | ([], _) => c :: percentDecodeFrom fuel cs
    | (b :: bs, after) => ofUtf8 (b :: bs) ++ percentDecodeFrom fuel after

/-- The text with its percent escapes replaced by the characters they name. -/
def percentDecode (cs : List Char) : List Char := percentDecodeFrom cs.length cs

/-- The letters, digits and marks that never need an escape. -/
def isUnreserved (c : Char) : Bool :=
  ('a' ≤ c && c ≤ 'z') || ('A' ≤ c && c ≤ 'Z') || ('0' ≤ c && c ≤ '9')
    || c = '_' || c = '.' || c = '-' || c = '~'

/-- The byte as a percent escape. -/
def percentEscape (b : UInt8) : List Char :=
  '%' :: (hexPadded 2 b.toNat).map Char.toUpper

/-- The text with every character that is neither unreserved nor in the safe set escaped. -/
def percentEncode (safe : Char → Bool) (cs : List Char) : List Char :=
  cs.flatMap fun c =>
    if isUnreserved c || safe c then [c] else (String.utf8EncodeChar c).flatMap percentEscape

/-- The coding of form fields, where a space is written `+`. -/
def formEncode (cs : List Char) : List Char :=
  (percentEncode (· = ' ') cs).map fun c => if c = ' ' then '+' else c

/-- The text of a form field. -/
def formDecode (cs : List Char) : List Char :=
  percentDecode (cs.map fun c => if c = '+' then ' ' else c)

end LinkedTables.Text
