import LinkedTables.Calendar.Date

/-!
# Times of day

A time to the microsecond, with the distance of its zone from universal time when it is known.
`Time.read?` accepts hours with optional minutes, seconds and fraction, the fields separated by
colons or by nothing, and a zone after them.
-/

namespace LinkedTables.Calendar

/-- A time of day; `offset` is the distance of its zone from universal time in microseconds. -/
structure Time where
  hour : Nat
  minute : Nat
  second : Nat
  micro : Nat
  offset : Option Int
deriving DecidableEq, Repr, Inhabited

/-- Midnight, in no known zone. -/
def Time.midnight : Time := ⟨0, 0, 0, 0, none⟩

/-- Hours, minutes, seconds and microseconds as they are read, and whether text is left over. -/
structure ClockFields where
  hour : Nat
  minute : Nat
  second : Nat
  micro : Nat
  leftOver : Bool

/-- Reads a fraction of at most six digits, skips the digits after them and notes whether text is
left; `next` stands behind the text. -/
def readFraction? (h m s : Nat) (next : Char) (cs : List Char) : Option ClockFields := do
  let count := min 6 cs.length
  let (n, rest) ← takeNumber? count cs
  let rest := rest.dropWhile fun c => (Text.asciiDigit? c).isSome
  return ⟨h, m, s, n * Nat.pow 10 (6 - count), rest.headD next != '\x00'⟩

/-- Reads the fields of a time: pairs of digits, separated by colons if the first two are. The
last step names the number of fields still allowed after this one. -/
def readFields? (next : Char) : Nat → Option Bool → List Nat → List Char → Option ClockFields
  | more, colons, done, cs =>
    match takeNumber? 2 cs with
    | none => none
    | some (n, rest) =>
      let done := done ++ [n]
      let fields (leftOver : Bool) : ClockFields :=
        ⟨done.getD 0 0, done.getD 1 0, done.getD 2 0, 0, leftOver⟩
      match rest with
      | [] => some (fields (next != '\x00'))
      | [c] => if c.toNat < 128 then some (fields (c != '\x00')) else none
      | c :: after =>
        let colons := colons.getD (c == ':')
        let fraction := readFraction? (done.getD 0 0) (done.getD 1 0) (done.getD 2 0) next
        if c == '.' || c == ',' then fraction after
        else if colons && c != ':' then none
        else
          let after := if colons then after else c :: after
          match more with
          | 0 => fraction after
          | more + 1 => readFields? next more (some colons) done after

/-- A day has this many microseconds. -/
def microsPerDay : Int := 86400000000

/-- Reads the distance of a zone; it is shorter than a day. -/
def readOffset? (negative : Bool) (cs : List Char) : Option Int := do
  let f ← readFields? '\x00' 2 none [] cs
  if f.leftOver then none
  else
    let seconds : Nat := f.hour * 3600 + f.minute * 60 + f.second
    let size : Int := (seconds * 1000000 + f.micro : Nat)
    if microsPerDay ≤ size then none else some (if negative then -size else size)

/-- The marks that begin a zone. -/
def beginsZone (c : Char) : Bool := c == '+' || c == '-' || c == 'Z'

namespace Time

/-- The fields lie in a day. -/
def isValid (t : Time) : Bool := t.hour < 24 && t.minute < 60 && t.second < 60

/-- Reads a time that is the whole text. -/
def readChars? (cs : List Char) : Option Time := do
  let clock := cs.takeWhile fun c => !beginsZone c
  let zone := cs.dropWhile fun c => !beginsZone c
  let f ← readFields? (zone.headD '\x00') 2 none [] clock
  let offset ← match zone with
    | [] => if f.leftOver then none else some none
    | ['Z'] => some (some 0)
    | 'Z' :: _ => none
    | c :: rest => (readOffset? (c == '-') rest).map some
  let t : Time := ⟨f.hour, f.minute, f.second, f.micro, offset⟩
  if t.isValid then some t else none

/-- Reads a time, which may begin with a `T`. -/
def read? (s : String) : Option Time :=
  match s.toList with
  | 'T' :: cs => readChars? cs
  | cs => readChars? cs

/-- Seconds with a fraction of six digits unless that is zero. -/
def secondsText (second micro : Nat) : List Char :=
  padded 2 second ++ (if micro = 0 then [] else '.' :: padded 6 micro)

/-- The distance of a zone: hours and minutes, and seconds when there are any. -/
def offsetText (offset : Int) : List Char :=
  let size := offset.natAbs
  let micro := size % 1000000
  let seconds := size / 1000000
  let base := padded 2 (seconds / 3600) ++ ':' :: padded 2 (seconds / 60 % 60)
  (if offset < 0 then '-' else '+') ::
    (if seconds % 60 = 0 ∧ micro = 0 then base
     else base ++ ':' :: secondsText (seconds % 60) micro)

/-- The time with all its fields. -/
def chars (t : Time) : List Char :=
  padded 2 t.hour ++ ':' :: padded 2 t.minute ++ ':' :: secondsText t.second t.micro
    ++ (t.offset.map offsetText).getD []

/-- The time with all its fields. -/
def text (t : Time) : String := String.ofList t.chars

/-- Seconds and microseconds as shown in messages, zeros at the end left out. -/
def shownFields (t : Time) : String :=
  if t.micro ≠ 0 then s!"{t.hour}, {t.minute}, {t.second}, {t.micro}"
  else if t.second ≠ 0 then s!"{t.hour}, {t.minute}, {t.second}"
  else s!"{t.hour}, {t.minute}"

/-- A zone as shown in messages: its distance in days, seconds and microseconds. -/
def shownZone (t : Time) : String :=
  match t.offset with
  | none => ""
  | some 0 => ", tzinfo=datetime.timezone.utc"
  | some offset =>
    let days := offset / microsPerDay
    let rest := offset % microsPerDay
    let parts := [("days", days), ("seconds", rest / 1000000), ("microseconds", rest % 1000000)]
    let shown := (parts.filter fun p => p.2 != 0).map fun p => p.1 ++ "=" ++ toString p.2
    ", tzinfo=datetime.timezone(datetime.timedelta(" ++ ", ".intercalate shown ++ "))"

/-- The form in which messages show a time. -/
def shown (t : Time) : String := "datetime.time(" ++ t.shownFields ++ t.shownZone ++ ")"

/-- The time in microseconds since midnight. -/
def micros (t : Time) : Int := ((t.hour * 3600 + t.minute * 60 + t.second) * 1000000 + t.micro : Nat)

/-- Times agree when both zones are known and the times name one moment of universal time, or
neither is known and all fields agree. -/
def same (a b : Time) : Bool :=
  match a.offset, b.offset with
  | none, none => a.micros == b.micros
  | some p, some q => a.micros - p == b.micros - q
  | _, _ => false

end Time

end LinkedTables.Calendar
