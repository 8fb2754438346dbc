import LinkedTables.Text.Ranges

/-!
# White space

`isSpace` is the white-space property of Unicode 14 (25 characters). `isBlank` adds the four
information separators, and `strip` removes blanks from both ends of a text.
-/

namespace LinkedTables.Text

/-- The white-space property, as closed ranges. -/
def spaceRanges : Array (Nat × Nat) :=
  #[(0x09, 0x0D), (0x20, 0x20), (0x85, 0x85), (0xA0, 0xA0), (0x1680, 0x1680), (0x2000, 0x200A),
    (0x2028, 0x2029), (0x202F, 0x202F), (0x205F, 0x205F), (0x3000, 0x3000)]

/-- White space: the characters that may stand around a number. -/
def isSpace (c : Char) : Bool := inRanges spaceRanges c.toNat

/-- White space or one of the information separators U+001C to U+001F. -/
def isBlank (c : Char) : Bool := isSpace c || (0x1C ≤ c.toNat && c.toNat ≤ 0x1F)

/-- The text without blanks at either end. -/
def strip (s : String) : String := String.ofList (dropBoth isBlank s.toList)

end LinkedTables.Text
