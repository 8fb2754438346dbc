import LinkedTables.Calendar.Timestamp
import LinkedTables.Number.Exact
import LinkedTables.Number.Reading
import LinkedTables.Text.Quoted

/-!
# Values

A `Value` is what a row, a parameter, a default or a configuration file can hold. `shown` is the
form in which messages quote a value, `text` its own text, and `same` compares values: numbers of
all types as numbers, bytes in whatever buffer they come, the rest within its own type.
-/

namespace LinkedTables

open Number Calendar Text

/-- The kinds of buffer in which bytes come. -/
inductive Buffer where
  | fixed
  | mutable
  | view
deriving DecidableEq, Repr, Inhabited

/-- A value of a row, a parameter or a configuration. `useDefault` stands for the default of the
column it is written to, and a secret is never shown. -/
inductive Value where
  | null
  | bool (b : Bool)
  | int (n : Int)
  | float (x : Float)
  | decimal (d : Decimal)
  | text (s : String)
  | bytes (buffer : Buffer) (data : List UInt8)
  | date (d : Date)
  | time (t : Time)
  | timestamp (t : Timestamp)
  | useDefault
  | list (items : List Value)
  | dict (entries : List (String × Value))
  | secret (s : String)
deriving Inhabited

/-- The mask under which a secret is shown: none for an empty one. -/
def maskedSecret (s : String) : String := if s.isEmpty then "" else "**********"

namespace Value

/-- A text, or null where there is none. -/
def ofText? : Option String → Value
  | some s => text s
  | none => null

/-- A secret, or null where there is none. -/
def ofSecret? : Option String → Value
  | some s => secret s
  | none => null

/-- The name of a value's type in messages. -/
def typeName : Value → String
  | null => "NoneType"
  | bool _ => "bool"
  | int _ => "int"
  | float _ => "float"
  | decimal _ => "Decimal"
  | text _ => "str"
  | bytes .fixed _ => "bytes"
  | bytes .mutable _ => "bytearray"
  | bytes .view _ => "memoryview"
  | date _ => "date"
  | time _ => "time"
  | timestamp _ => "datetime"
  | useDefault => "_DefaultMarker"
  | list _ => "list"
  | dict _ => "dict"
  | secret _ => "SecretStr"

/-- Bytes as messages show them. -/
def shownBytes : Buffer → List UInt8 → String
  | .fixed, data => quotedBytes data
  | .mutable, data => "bytearray(" ++ quotedBytes data ++ ")"
  | .view, _ => "<memory>"

mutual

/-- The form in which messages quote a value. -/
def shown : Value → String
  | null => "None"
  | bool b => if b then "True" else "False"
  | int n => toString n
  | float x => floatText x
  | decimal d => "Decimal('" ++ d.text ++ "')"
  | text s => quoted s
  | bytes buffer data => shownBytes buffer data
  | date d => d.shown
  | time t => t.shown
  | timestamp t => t.shown
  | useDefault => "DEFAULT"
  | list items => "[" ++ shownItems items ++ "]"
  | dict entries => "\x7b" ++ shownEntries entries ++ "\x7d"
  | secret s => "SecretStr('" ++ maskedSecret s ++ "')"

/-- The items of a list, set apart by commas. -/
def shownItems : List Value → String
  | [] => ""
  | [v] => shown v
  | v :: w :: vs => shown v ++ ", " ++ shownItems (w :: vs)

/-- The entries of a dictionary, set apart by commas. -/
def shownEntries : List (String × Value) → String
  | [] => ""
  | [(k, v)] => quoted k ++ ": " ++ shown v
  | (k, v) :: e :: es => quoted k ++ ": " ++ shown v ++ ", " ++ shownEntries (e :: es)

end

mutual

/-- Whether a value can be shown: not if an integer in it has too many digits. -/
def isShowable : Value → Bool
  | int n => (intText? n).isSome
  | list items => areShowable items
  | dict entries => entriesShowable entries
  | _ => true

/-- Whether all items of a list can be shown. -/
def areShowable : List Value → Bool
  | [] => true
  | v :: vs => isShowable v && areShowable vs

/-- Whether all entries of a dictionary can be shown. -/
def entriesShowable : List (String × Value) → Bool
  | [] => true
  | (_, v) :: es => isShowable v && entriesShowable es

end

/-- The form in which messages quote a value, if it can be shown. -/
def shown? (v : Value) : Option String := if v.isShowable then some v.shown else none

/-- The text of a value. -/
def asText : Value → String
  | text s => s
  | decimal d => d.text
  | date d => d.text
  | time t => t.text
  | timestamp t => t.textWith ' '
  | secret s => maskedSecret s
  | v => v.shown

/-- The text of a value, unless an integer in it has too many digits. -/
def asText? : Value → Option String
  | int n => intText? n
  | list items => (list items).shown?
  | dict entries => (dict entries).shown?
  | v => some v.asText

/-- The number held by a value; truth values count as 1 and 0. -/
def number? : Value → Option Exact
  | bool b => some (Exact.ofInt (if b then 1 else 0))
  | int n => some (Exact.ofInt n)
  | float x => some (Exact.ofFloat x)
  | decimal d => some (Exact.ofDecimal d)
  | _ => none

mutual

/-- Equality of values. -/
def same : Value → Value → Bool
  | null, null => true
  | useDefault, useDefault => true
  | text s, text s' => s == s'
  | secret s, secret s' => s == s'
  | bytes _ data, bytes _ data' => data == data'
  | date d, date d' => d == d'
  | time t, time t' => t.same t'
  | timestamp t, timestamp t' => t.same t'
  | list vs, list ws => sameItems vs ws
  | dict es, dict fs => es.length == fs.length && sameEntries es fs
  | v, w =>
    match v.number?, w.number? with
    | some a, some b => a.same b
    | _, _ => false

/-- Equality of lists, item by item. -/
def sameItems : List Value → List Value → Bool
  | [], [] => true
  | v :: vs, w :: ws => same v w && sameItems vs ws
  | _, _ => false

/-- Every entry of the first dictionary is in the second. -/
def sameEntries : List (String × Value) → List (String × Value) → Bool
  | [], _ => true
  | (k, v) :: es, fs =>
    (match fs.find? (·.1 == k) with
      | some (_, w) => same v w
      | none => false) && sameEntries es fs

end

/-- Whether a value counts as true: zeros, empty texts and buffers, empty collections and null do
not. -/
def isTruthy : Value → Bool
  | null => false
  | bool b => b
  | int n => n != 0
  | float x => !(x == 0.0)
  | decimal d => !d.isZero
  | text s => !s.isEmpty
  | bytes _ data => !data.isEmpty
  | list items => !items.isEmpty
  | dict entries => !entries.isEmpty
  | secret s => !s.isEmpty
  | _ => true

/-! ### Looking into values -/

/-- The items of a list; other values have none. -/
def items : Value → List Value
  | list items => items
  | _ => []

/-- The entries of a dictionary; other values have none. -/
def entries : Value → List (String × Value)
  | dict entries => entries
  | _ => []

/-- The value of a key. -/
def get? (v : Value) (key : String) : Option Value :=
  (v.entries.find? (·.1 == key)).map (·.2)

/-- A text. -/
def text? : Value → Option String
  | text s => some s
  | _ => none

/-- An integer; truth values count as 1 and 0. -/
def int? : Value → Option Int
  | int n => some n
  | bool b => some (if b then 1 else 0)
  | _ => none

/-- Whether a value is null. -/
def isNull : Value → Bool
  | null => true
  | _ => false

end Value

end LinkedTables
