import LinkedTables.Value

/-!
# Plain scalars

A scalar that stands in a YAML text without quotes is typed by its form: null, truth values, integers
in several bases, doubles, dates and timestamps. Everything else is a text. `Scalar.value` gives the
value; a date that is not in the calendar has none, and the lone mark `=` must not stand alone.
-/

namespace LinkedTables.Yaml

open Text Number

/-- Why a YAML text has no value. -/
inductive Failure where
  /-- The text is not YAML. -/
  | unreadable
  /-- A scalar has the form of a type and no value of it. -/
  | badScalar
deriving DecidableEq, Repr, Inhabited

namespace Scalar

/-! ### Words -/

/-- The words for true. -/
def trueWords : List String :=
  ["yes", "Yes", "YES", "true", "True", "TRUE", "on", "On", "ON"]

/-- The words for false. -/
def falseWords : List String :=
  ["no", "No", "NO", "false", "False", "FALSE", "off", "Off", "OFF"]

/-- The words for null. -/
def nullWords : List String := ["", "~", "null", "Null", "NULL"]

/-- The value of a word. -/
def word? (s : String) : Option Value :=
  if nullWords.contains s then some .null
  else if trueWords.contains s then some (.bool true)
  else if falseWords.contains s then some (.bool false)
  else none

/-! ### Numbers -/

/-- The number that digits of a base write, with underscores among them. -/
def natOfBase? (base : Nat) (cs : List Char) : Option Nat :=
  let digits := cs.filter (· != '_')
  if cs.isEmpty then none
  else (digits.mapM fun c => (hexValue? c).filter (· < base)).map
    (·.foldl (fun n d => base * n + d) 0)

/-- A part of a number in base sixty behind the first: one or two digits below sixty. -/
def sixtieth? (cs : List Char) : Option Nat :=
  match cs with
  | [_] => asciiNat? cs
  | [a, _] => if a ≤ '5' then asciiNat? cs else none
  | _ => none

/-- Digits with underscores among them, the first of which is a digit. -/
def isDigits (cs : List Char) : Bool :=
  (cs.head?.map Char.isDigit).getD false && cs.all fun c => c.isDigit || c == '_'

/-- An integer without a sign. -/
def nat? (cs : List Char) : Option Nat :=
  match cs with
  | ['0'] => some 0
  | '0' :: 'b' :: ds => natOfBase? 2 ds
  | '0' :: 'x' :: ds => natOfBase? 16 ds
  | '0' :: ds => natOfBase? 8 ds
  | cs =>
    match pieces ':' cs with
    | first :: rest =>
      if isDigits first then do
        let n ← natOfBase? 10 first
        let parts ← rest.mapM sixtieth?
        return parts.foldl (fun n d => 60 * n + d) n
      else none
    | [] => none

/-- An integer. -/
def int? (cs : List Char) : Option Int :=
  let (negative, ds) := Decimal.spanSign cs
  (nat? ds).map fun n => if negative then -(n : Int) else n

/-- The exponent of a double: a mark, a sign and digits. -/
def isExponent (cs : List Char) : Bool :=
  match cs with
  | [] => true
  | e :: s :: d :: ds =>
    (e == 'e' || e == 'E') && (s == '+' || s == '-') && (d :: ds).all Char.isDigit
  | _ => false

/-- The fraction and the exponent of a double. -/
def isFraction (cs : List Char) : Bool :=
  isExponent (cs.dropWhile fun c => c.isDigit || c == '_')

/-- The words for doubles that are not finite. -/
def special? (cs : List Char) : Option Float :=
  let (negative, word) := Decimal.spanSign cs
  if [".inf", ".Inf", ".INF"].contains (String.ofList word) then
    some (if negative then -(1.0 / 0.0) else 1.0 / 0.0)
  else if [".nan", ".NaN", ".NAN"].contains (String.ofList cs) then some (0.0 / 0.0)
  else none

/-- A double in base sixty. -/
def sixties? (cs : List Char) : Option Float := do
  let (negative, size) := Decimal.spanSign cs
  let (whole, fraction) ← splitFirst? (· == '.') size
  match pieces ':' whole with
  | first :: second :: rest =>
    if isDigits first && fraction.all fun c => c.isDigit || c == '_' then
      let parts ← (second :: rest).mapM sixtieth?
      let n ← natOfBase? 10 first
      let whole := parts.foldl (fun n d => 60 * n + d) n
      let text := decimalText whole ++ '.' :: fraction.filter (· != '_')
      let x ← readFloat? text
      return if negative then -x else x
    else none
  | _ => none

/-- A double with a point. -/
def pointed? (cs : List Char) : Option Float :=
  let plain := cs.filter (· != '_')
  let fits :=
    match cs with
    | '.' :: d :: rest => d.isDigit && isFraction rest
    | cs =>
      match splitFirst? (· == '.') (Decimal.spanSign cs).2 with
      | some (whole, fraction) => isDigits whole && isFraction fraction
      | none => false
  if fits then readFloat? plain else none

/-- A double. -/
def float? (cs : List Char) : Option Float := special? cs <|> pointed? cs <|> sixties? cs

/-! ### Dates -/

/-- A number of at most so many digits, filled up to two. -/
def twoDigits? (cs : List Char) : Option (List Char) :=
  match cs with
  | [d] => if d.isDigit then some ['0', d] else none
  | [a, b] => if a.isDigit && b.isDigit then some [a, b] else none
  | _ => none

/-- The digits of a year, a month and a day, filled up. -/
def dateText? (cs : List Char) : Option (List Char) := do
  match pieces '-' cs with
  | [year, month, day] =>
    if year.length = 4 && year.all Char.isDigit then
      return year ++ '-' :: (← twoDigits? month) ++ '-' :: (← twoDigits? day)
    else none
  | _ => none

/-- A zone, filled up: `Z`, or hours and perhaps minutes behind a sign. -/
def zoneText? (cs : List Char) : Option (List Char) :=
  match cs with
  | [] => some []
  | ['Z'] => some ['Z']
  | sign :: rest =>
    if sign == '+' || sign == '-' then
      match pieces ':' rest with
      | [hours] => (twoDigits? hours).map fun h => sign :: h ++ ":00".toList
      | [hours, minutes] =>
        if minutes.length = 2 then do
          return sign :: (← twoDigits? hours) ++ ':' :: (← twoDigits? minutes)
        else none
      | _ => none
    else none

/-- The seconds with their fraction, and what follows. -/
def secondsText? (cs : List Char) : Option (List Char × List Char) :=
  match cs with
  | a :: b :: '.' :: rest =>
    let digits := rest.takeWhile Char.isDigit
    let rest := rest.dropWhile Char.isDigit
    if a.isDigit && b.isDigit then
      some (a :: b :: (if digits.isEmpty then [] else '.' :: digits), rest)
    else none
  | a :: b :: rest => if a.isDigit && b.isDigit then some ([a, b], rest) else none
  | _ => none

/-- White space within a line. -/
def isGap (c : Char) : Bool := c == ' ' || c == '\t'

/-- The text of a time with its zone, filled up. -/
def timeText? (cs : List Char) : Option (List Char) := do
  let (hour, rest) ← splitFirst? (· == ':') cs
  let (minute, rest) ← splitFirst? (· == ':') rest
  let (seconds, rest) ← secondsText? rest
  let zone ← zoneText? (rest.dropWhile isGap)
  if minute.length = 2 && minute.all Char.isDigit then
    return (← twoDigits? hour) ++ ':' :: minute ++ ':' :: seconds ++ zone
  else none

/-- The text of a timestamp, filled up. -/
def timestampText? (cs : List Char) : Option (List Char) := do
  let date := cs.takeWhile fun c => c.isDigit || c == '-'
  match cs.dropWhile fun c => c.isDigit || c == '-' with
  | c :: rest =>
    let time ←
      if c == 'T' || c == 't' then some rest
      else if isGap c then some (rest.dropWhile isGap)
      else none
    return (← dateText? date) ++ 'T' :: (← timeText? time)
  | [] => none

/-- The text of a date: four digits, two and two. -/
def isDate (cs : List Char) : Bool := cs.length == 10 && dateText? cs == some cs

/-- The value, or the failure if there is none. -/
def orBad {α : Type} (make : α → Value) (x : Option α) : Except Failure Value :=
  match x with
  | some a => .ok (make a)
  | none => .error .badScalar

/-! ### All forms -/

/-- A scalar that is no word and no number. -/
def dated (s : String) : Except Failure Value :=
  let cs := s.toList
  if isDate cs then orBad .date (Calendar.Date.read? s)
  else
    match timestampText? cs with
    | some text => orBad .timestamp (Calendar.Timestamp.read? (String.ofList text))
    | none => if s = "=" then .error .unreadable else .ok (.text s)

/-- The value of a plain scalar. -/
def value (s : String) : Except Failure Value :=
  match word? s with
  | some v => .ok v
  | none =>
    match int? s.toList, float? s.toList with
    | some n, _ => .ok (.int n)
    | none, some x => .ok (.float x)
    | none, none => dated s

end Scalar

end LinkedTables.Yaml
