import LinkedTables.Number.Decimal

/-!
# Numbers read from text

`readInt?` and `readFloat?` accept white space around a number, digits of any script and single
underscores between digits. An integer may have at most `maxDigits` digits, both when it is read
and when it is written (`intText?`).
-/

namespace LinkedTables.Number

/-- The most digits an integer may have in a text. -/
def maxDigits : Nat := 4300

/-- The text without its underscores, provided each stands between two digits; `before` says that
a digit came before. -/
def dropSeparators (before : Bool) : List Char → Option (List Char)
  | [] => some []
  | '_' :: cs =>
    match cs with
    | d :: _ =>
      if before && (Text.asciiDigit? d).isSome then dropSeparators false cs else none
    | [] => none
  | c :: cs => (dropSeparators (Text.asciiDigit? c).isSome cs).map (c :: ·)

/-- The plain characters of a number text, without white space around them and separators. -/
def numberChars? (cs : List Char) : Option (List Char) :=
  dropSeparators false (Text.dropBoth Text.isSpace (cs.map Decimal.plainDigit))

/-- Reads an integer. -/
def readInt? (cs : List Char) : Option Int := do
  let (negative, rest) := Decimal.spanSign (← numberChars? cs)
  match Decimal.spanDigits rest with
  | ([], _) => none
  | (ds, []) =>
    if maxDigits < ds.length then none
    else
      let n : Int := Text.natOfDigits ds
      some (if negative then -n else n)
  | _ => none

/-- Reads a float: a number, `nan`, or an infinity in any case. -/
def readFloat? (cs : List Char) : Option Float := do
  let (negative, rest) := Decimal.spanSign (← numberChars? cs)
  let small := Decimal.smallLetters rest
  if small = "nan".toList then some (0.0 / 0.0)
  else if small = "inf".toList || small = "infinity".toList then
    some (if negative then -(1.0 / 0.0) else 1.0 / 0.0)
  else
    let (c, e) ← Decimal.readSize? rest
    return floatOfDecimal negative c e

/-- The text of an integer, unless it has too many digits. -/
def intText? (n : Int) : Option String :=
  let ds := decimalText n.natAbs
  if maxDigits < ds.length then none
  else some (String.ofList (if n < 0 then '-' :: ds else ds))

end LinkedTables.Number
