import LinkedTables.Text.Hex
import LinkedTables.Value

/-!
# Tokens of JSON text

`Json.tokens` cuts a text into brackets, marks, strings and plain words. It reads the text character
by character; what has been read of a token is kept in a `Phase`.
-/

namespace LinkedTables.Json

open Text

/-- The tokens of a JSON text. -/
inductive Token where
  | openList
  | closeList
  | openDict
  | closeDict
  | comma
  | colon
  | text (s : String)
  | value (v : Value)
deriving Inhabited

/-- The token that a single character is. -/
def mark? (c : Char) : Option Token :=
  match c with
  | '[' => some .openList
  | ']' => some .closeList
  | '\x7b' => some .openDict
  | '\x7d' => some .closeDict
  | ',' => some .comma
  | ':' => some .colon
  | _ => none

/-- White space between tokens. -/
def isSpace (c : Char) : Bool := c == ' ' || c == '\t' || c == '\n' || c == '\r'

/-- The characters for a list of units, where two halves of a pair make one character. -/
def charsOfUnits : List Nat → List Char
  | [] => []
  | [n] => [Char.ofNat n]
  | a :: b :: rest =>
    if 0xD800 ≤ a ∧ a < 0xDC00 ∧ 0xDC00 ≤ b ∧ b < 0xE000 then
      Char.ofNat (0x10000 + (a - 0xD800) * 0x400 + (b - 0xDC00)) :: charsOfUnits rest
    else Char.ofNat a :: charsOfUnits (b :: rest)

/-- The number that a plain word writes. -/
def number? (cs : List Char) : Option Value :=
  let (negative, ds) := match cs with
    | '-' :: ds => (true, ds)
    | ds => (false, ds)
  if ds.all Char.isDigit then
    (asciiNat? ds).map fun n => .int (if negative then -(n : Int) else n)
  else (Number.readFloat? cs).map .float

/-- The value of a plain word. -/
def word? (cs : List Char) : Option Value :=
  match String.ofList cs with
  | "null" => some .null
  | "true" => some (.bool true)
  | "false" => some (.bool false)
  | "NaN" => some (.float (0.0 / 0.0))
  | "Infinity" => some (.float (1.0 / 0.0))
  | "-Infinity" => some (.float (-(1.0 / 0.0)))
  | _ => if cs.all fun c => c.isDigit || "+-.eE".contains c then number? cs else none

/-- The character that stands behind a backslash. -/
def escape? (c : Char) : Option Nat :=
  match c with
  | '"' | '\\' | '/' => some c.toNat
  | 'b' => some 8
  | 'f' => some 12
  | 'n' => some 10
  | 'r' => some 13
  | 't' => some 9
  | _ => none

/-- What has been read of a token; the units of a string and the characters of a word are kept the
latest first. -/
inductive Phase where
  | between
  | word (cs : List Char)
  | text (units : List Nat)
  | escape (units : List Nat)
  | hex (units digits : List Nat)
deriving Inhabited

/-- The phase and the tokens after a character that stands between tokens. -/
def startToken (out : List Token) (c : Char) : Phase × List Token :=
  if isSpace c then (.between, out)
  else if c = '"' then (.text [], out)
  else
    match mark? c with
    | some token => (.between, token :: out)
    | none => (.word [c], out)

/-- The phase and the tokens, the latest first, after one more character. -/
def readChar : Phase × List Token → Char → Option (Phase × List Token)
  | (.between, out), c => some (startToken out c)
  | (.word cs, out), c =>
    if isSpace c || c == '"' || (mark? c).isSome then
      (word? cs.reverse).map fun v => startToken (.value v :: out) c
    else some (.word (c :: cs), out)
  | (.text units, out), c =>
    if c = '"' then
      some (.between, .text (String.ofList (charsOfUnits units.reverse)) :: out)
    else if c = '\\' then some (.escape units, out)
    else some (.text (c.toNat :: units), out)
  | (.escape units, out), c =>
    if c = 'u' then some (.hex units [], out)
    else (escape? c).map fun n => (.text (n :: units), out)
  | (.hex units digits, out), c => do
    let digits := digits ++ [← hexValue? c]
    return if digits.length < 4 then (.hex units digits, out)
      else (.text (digits.foldl (fun n d => 16 * n + d) 0 :: units), out)

/-- The tokens of a text. -/
def tokens (cs : List Char) : Option (List Token) := do
  match ← cs.foldlM readChar (Phase.between, []) with
  | (.between, out) => some out.reverse
  | (.word word, out) => (word? word.reverse).map fun v => (Token.value v :: out).reverse
  | _ => none

end LinkedTables.Json
