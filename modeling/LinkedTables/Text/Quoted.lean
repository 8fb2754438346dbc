import LinkedTables.Text.Hex
import LinkedTables.Text.Printable

/-!
# Quoted text

The form in which messages show a text or a row of bytes: single quotes, or double quotes around
a text that holds a single quote and no double one. The quote and the backslash are escaped with a
backslash, line ends and tabs by their letters, and whatever cannot be printed by its code in
hexadecimal.
-/

namespace LinkedTables.Text

/-- The quote put around a text: the single one unless only the text holds it and no double one. -/
def quoteMark (cs : List Char) : Char :=
  if cs.contains '\'' && !cs.contains '"' then '"' else '\''

/-- A code below 256, below 65536 or above, with two, four or eight digits. -/
def codeEscape (n : Nat) : List Char :=
  if n < 0x100 then '\\' :: 'x' :: hexPadded 2 n
  else if n < 0x10000 then '\\' :: 'u' :: hexPadded 4 n
  else '\\' :: 'U' :: hexPadded 8 n

/-- A character inside text quoted with `mark`. -/
def quotedChar (mark c : Char) : List Char :=
  if c = mark || c = '\\' then ['\\', c]
  else if c = '\n' then ['\\', 'n']
  else if c = '\r' then ['\\', 'r']
  else if c = '\t' then ['\\', 't']
  else if isPrintable c then [c]
  else codeEscape c.toNat

/-- A text in quotes. -/
def quoted (s : String) : String :=
  let cs := s.toList
  let mark := quoteMark cs
  String.ofList (mark :: cs.flatMap (quotedChar mark) ++ [mark])

/-- A byte inside bytes quoted with `mark`: plain printable characters stand for themselves. -/
def quotedByte (mark : Char) (b : UInt8) : List Char :=
  if b.toNat < 127 then quotedChar mark (Char.ofNat b.toNat) else codeEscape b.toNat

/-- Bytes in quotes, marked with a leading letter. -/
def quotedBytes (bs : List UInt8) : String :=
  let mark := quoteMark (bs.map fun b => Char.ofNat b.toNat)
  String.ofList ('b' :: mark :: bs.flatMap (quotedByte mark) ++ [mark])

end LinkedTables.Text
