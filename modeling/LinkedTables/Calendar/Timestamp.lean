import LinkedTables.Calendar.Clock

/-!
# Timestamps

A date with a time. `Timestamp.read?` finds where the date ends from its form, takes any one
character as the separator and accepts a date alone as its midnight.
-/

namespace LinkedTables.Calendar

/-- A time on a date. -/
structure Timestamp where
  date : Date
  time : Time
deriving DecidableEq, Repr, Inhabited

namespace Timestamp

/-- The number of characters of the date at the head of a timestamp. -/
def dateLength? (cs : List Char) : Option Nat :=
  let n := cs.length
  let isDigit (c : Char) := (Text.asciiDigit? c).isSome
  if cs[4]? = some '-' then
    if cs[5]? = some 'W' then
      if cs[8]? = some '-' then
        if n = 9 then none
        else if (cs[10]?.map isDigit).getD false then some 8
        else some 10
      else some 8
    else some 10
  else if cs[4]? = some 'W' then
    let stop := 7 + ((cs.drop 7).takeWhile isDigit).length
    if stop < 9 then some stop
    else if stop % 2 = 0 then some 7
    else some 8
  else some 8

/-- Reads a timestamp that is the whole text. -/
def read? (s : String) : Option Timestamp := do
  let cs := s.toList
  if cs.length < 7 then none
  else
    let length ← dateLength? cs
    let date ← Date.readFields? length cs
    if !date.isValid then none
    else
      match cs.drop length with
      | [] => some ⟨date, Time.midnight⟩
      | _ :: rest => (Time.readChars? rest).map (⟨date, ·⟩)

/-- The date, the separator and the time. -/
def textWith (separator : Char) (t : Timestamp) : String :=
  t.date.text ++ String.ofList (separator :: t.time.chars)

/-- The form in which messages show a timestamp. -/
def shown (t : Timestamp) : String :=
  s!"datetime.datetime({t.date.year}, {t.date.month}, {t.date.day}, " ++ t.time.shownFields
    ++ t.time.shownZone ++ ")"

/-- Timestamps agree when both zones are known and they name one moment, or neither is known and
all fields agree. -/
def same (a b : Timestamp) : Bool :=
  let moment (t : Timestamp) : Int := t.date.dayNumber * microsPerDay + t.time.micros
  match a.time.offset, b.time.offset with
  | none, none => moment a == moment b
  | some p, some q => moment a - p == moment b - q
  | _, _ => false

end Timestamp

end LinkedTables.Calendar
