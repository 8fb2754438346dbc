import LinkedTables.Text.DecimalDigit

/-!
# Dates

A calendar date of the years 1 to 9999. `Date.read?` accepts the calendar form `2024-01-31` and
the week form `2024-W05-3`, each also without its hyphens, and `Date.text` writes the calendar
form.
-/

namespace LinkedTables.Calendar

/-- A day of the calendar. -/
structure Date where
  year : Nat
  month : Nat
  day : Nat
deriving DecidableEq, Repr, Inhabited

/-- A number with at least `width` digits. -/
def padded (width n : Nat) : List Char :=
  let ds := Nat.toDigits 10 n
  List.replicate (width - ds.length) '0' ++ ds

/-- The first `count` characters read as a number of plain digits, and the rest. -/
def takeNumber? (count : Nat) (cs : List Char) : Option (Nat × List Char) :=
  if cs.length < count then none
  else ((cs.take count).mapM Text.asciiDigit?).map fun ds => (Text.natOfDigits ds, cs.drop count)

/-- Leap years. -/
def isLeap (y : Nat) : Bool := y % 4 == 0 && (y % 100 != 0 || y % 400 == 0)

/-- The days of a month. -/
def daysInMonth (y m : Nat) : Nat :=
  if m = 2 then (if isLeap y then 29 else 28)
  else if m = 4 || m = 6 || m = 9 || m = 11 then 30
  else 31

/-- The days of all years before a year, counted from year 1. -/
def daysBeforeYear (y : Nat) : Nat :=
  let p := y - 1
  p * 365 + p / 4 - p / 100 + p / 400

/-- The weekday of a day number: Monday is 0. -/
def weekday (dayNumber : Nat) : Nat := (dayNumber + 6) % 7

/-- The day number of the Monday that begins the first week of a year: the week that holds the
year's first Thursday. -/
def firstMonday (y : Nat) : Int :=
  let first := daysBeforeYear y + 1
  let w := weekday first
  (first : Int) - w + (if 3 < w then 7 else 0)

/-- The weeks of a year: 53 when it begins on a Thursday, or on a Wednesday before a leap day. -/
def weeksInYear (y : Nat) : Nat :=
  let w := weekday (daysBeforeYear y + 1)
  if w = 3 || (w = 2 && isLeap y) then 53 else 52

namespace Date

/-- The date exists and lies in the years 1 to 9999. -/
def isValid (d : Date) : Bool :=
  1 ≤ d.year && d.year ≤ 9999 && 1 ≤ d.month && d.month ≤ 12 && 1 ≤ d.day
    && d.day ≤ daysInMonth d.year d.month

/-- The days of all months of a year before a month. -/
def daysBeforeMonth (y m : Nat) : Nat :=
  (List.range (m - 1)).foldl (fun days i => days + daysInMonth y (i + 1)) 0

/-- The number of the day, the first of January of year 1 being day 1. -/
def dayNumber (d : Date) : Nat := daysBeforeYear d.year + daysBeforeMonth d.year d.month + d.day

/-- The month and day of the `n`-th day of a year, looked for from a month on. -/
def ofYearDay (y : Nat) : Nat → Nat → Nat → Date
  | 0, m, n => ⟨y, m, n⟩
  | fuel + 1, m, n =>
    let days := daysInMonth y m
    if n ≤ days then ⟨y, m, n⟩ else ofYearDay y fuel (m + 1) (n - days)

/-- The date with a number, looked for near a year. -/
def ofDayNumber (near : Nat) (n : Nat) : Date :=
  let y := if n ≤ daysBeforeYear near then near - 1
    else if daysBeforeYear (near + 1) < n then near + 1 else near
  ofYearDay y 11 1 (n - daysBeforeYear y)

/-- The day of a week, both counted from 1. -/
def ofWeek? (y week day : Nat) : Option Date :=
  if y = 0 || week = 0 || weeksInYear y < week || day = 0 || 7 < day then none
  else
    let n := firstMonday y + ((week - 1) * 7 + day - 1 : Nat)
    if n < 1 then none else some (ofDayNumber y n.toNat)

/-- Reads the date at the head of a text: four digits of the year, then month and day or a week,
hyphens between them or nowhere. The day of a week is read when the week ends before `length`
characters. -/
def readFields? (length : Nat) (cs : List Char) : Option Date := do
  let (y, rest) ← takeNumber? 4 cs
  let (hyphens, rest) := match rest with
    | '-' :: more => (true, more)
    | _ => (false, rest)
  match rest with
  | 'W' :: more => do
    let (week, more) ← takeNumber? 2 more
    if cs.length - more.length < length then
      let more ← if hyphens then (match more with | '-' :: m => some m | _ => none) else some more
      let (day, _) ← takeNumber? 1 more
      ofWeek? y week day
    else ofWeek? y week 1
  | _ => do
    let (m, rest) ← takeNumber? 2 rest
    let rest ← if hyphens then (match rest with | '-' :: r => some r | _ => none) else some rest
    let (d, _) ← takeNumber? 2 rest
    some ⟨y, m, d⟩

/-- Reads a date from a text of seven, eight or ten bytes. -/
def read? (s : String) : Option Date := do
  let cs := s.toList
  let n := s.utf8ByteSize
  if n = 7 || n = 8 || n = 10 then
    let d ← readFields? n cs
    if d.isValid then some d else none
  else none

/-- The calendar form. -/
def text (d : Date) : String :=
  String.ofList (padded 4 d.year ++ '-' :: padded 2 d.month ++ '-' :: padded 2 d.day)

/-- The form in which messages show a date. -/
def shown (d : Date) : String := s!"datetime.date({d.year}, {d.month}, {d.day})"

end Date

end LinkedTables.Calendar
