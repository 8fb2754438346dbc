import LinkedTables.Text.Hex
import LinkedTables.Value

/-!
# Values as JSON text

`Json.write` gives the text of a value on one line and in plain ASCII. What JSON has no form for is
written as its own text: dates, decimals and bytes become strings, and doubles that are not finite
stand as words.
-/

namespace LinkedTables.Json

open Text

/-- A unit of sixteen bits as an escape. -/
def unitEscape (n : Nat) : List Char := '\\' :: 'u' :: hexPadded 4 n

/-- A character that has no short escape; one beyond sixteen bits is written as two units. -/
def longEscape (n : Nat) : List Char :=
  if n < 0x10000 then unitEscape n
  else unitEscape (0xD800 + (n - 0x10000) / 0x400) ++ unitEscape (0xDC00 + (n - 0x10000) % 0x400)

/-- A character between quotes. -/
def quotedChar (c : Char) : List Char :=
  match c with
  | '"' => ['\\', '"']
  | '\\' => ['\\', '\\']
  | '\n' => ['\\', 'n']
  | '\r' => ['\\', 'r']
  | '\t' => ['\\', 't']
  | c =>
    if c.toNat = 8 then ['\\', 'b']
    else if c.toNat = 12 then ['\\', 'f']
    else if 32 ≤ c.toNat ∧ c.toNat < 127 then [c]
    else longEscape c.toNat

/-- A text between quotes. -/
def quoted (s : String) : String := String.ofList ('"' :: s.toList.flatMap quotedChar ++ ['"'])

/-- A double. -/
def floatText (x : Float) : String :=
  if x.isNaN then "NaN"
  else if x.isInf then (if x < 0 then "-Infinity" else "Infinity")
  else Number.floatText x

mutual

/-- The text of a value. -/
def write : Value → String
  | .null => "null"
  | .bool b => if b then "true" else "false"
  | .int n => toString n
  | .float x => floatText x
  | .list items => "[" ++ writeItems items ++ "]"
  | .dict entries => "\x7b" ++ writeEntries entries ++ "\x7d"
  | v => quoted v.asText

/-- The items of a list, set apart by commas. -/
def writeItems : List Value → String
  | [] => ""
  | [v] => write v
  | v :: w :: vs => write v ++ ", " ++ writeItems (w :: vs)

/-- The entries of a dictionary, set apart by commas. -/
def writeEntries : List (String × Value) → String
  | [] => ""
  | [(k, v)] => quoted k ++ ": " ++ write v
  | (k, v) :: e :: es => quoted k ++ ": " ++ write v ++ ", " ++ writeEntries (e :: es)

end

end LinkedTables.Json
