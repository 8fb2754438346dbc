import LinkedTables.Json.Writer

/-!
# Values with tags

JSON has no form for dates, decimals, bytes and the like. `Json.tagged` gives such a value the form of
a dictionary with the name of its type under `$` and its text under `v`, and `Json.untagged` reads
it back.
-/

namespace LinkedTables.Json

/-- A text under a tag. -/
def tag (name s : String) : Value := .dict [("$", .text name), ("v", .text s)]

mutual

/-- A value in a form that JSON has, with tags for what JSON lacks. -/
def tagged : Value → Value
  | .float x => tag "float" (Number.floatText x)
  | .decimal d => tag "decimal" d.text
  | .bytes _ data => tag "bytes" (Text.hexOfBytes data)
  | .date d => tag "date" d.text
  | .time t => tag "time" t.text
  | .timestamp t => tag "timestamp" (t.textWith 'T')
  | .useDefault => .dict [("$", .text "default")]
  | .secret s => tag "secret" s
  | .list items => .list (taggedItems items)
  | .dict entries => .dict (taggedEntries entries)
  | v => v

/-- The items of a list with tags. -/
def taggedItems : List Value → List Value
  | [] => []
  | v :: vs => tagged v :: taggedItems vs

/-- The entries of a dictionary with tags. -/
def taggedEntries : List (String × Value) → List (String × Value)
  | [] => []
  | (k, v) :: es => (k, tagged v) :: taggedEntries es

end

/-- The bytes that a text in base sixteen writes. -/
def bytesOf (s : String) : List UInt8 := (Text.bytesOfHex? s.toList).getD []

/-- The value that a text under a tag writes; a text may also be given by repetition. -/
def ofTag? (name s : String) (count : Nat) : Option Value :=
  match name with
  | "default" => some .useDefault
  | "float" => (Number.readFloat? s.toList).map .float
  | "decimal" => (Number.Decimal.read? s).map .decimal
  | "bytes" => some (.bytes .fixed (bytesOf s))
  | "bytearray" => some (.bytes .mutable (bytesOf s))
  | "memoryview" => some (.bytes .view (bytesOf s))
  | "date" => (Calendar.Date.read? s).map .date
  | "time" => (Calendar.Time.read? s).map .time
  | "timestamp" => (Calendar.Timestamp.read? s).map .timestamp
  | "secret" => some (.secret s)
  | "repeat" => some (.text (String.join (List.replicate count s)))
  | _ => none

/-- The value that the entries of a dictionary tag, if they tag one. -/
def ofTagged? (entries : List (String × Value)) : Option Value := do
  let v := Value.dict entries
  let name ← (← v.get? "$").text?
  ofTag? name (((v.get? "v").bind Value.text?).getD "")
    (((v.get? "n").bind Value.int?).getD 0).toNat

mutual

/-- The value whose form with tags is given. -/
def untagged : Value → Value
  | .list items => .list (untaggedItems items)
  | .dict entries => (ofTagged? entries).getD (.dict (untaggedEntries entries))
  | v => v

/-- The items of a list without tags. -/
def untaggedItems : List Value → List Value
  | [] => []
  | v :: vs => untagged v :: untaggedItems vs

/-- The entries of a dictionary without tags. -/
def untaggedEntries : List (String × Value) → List (String × Value)
  | [] => []
  | (k, v) :: es => (k, untagged v) :: untaggedEntries es

end

end LinkedTables.Json
