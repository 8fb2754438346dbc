import LinkedTables.Column.Kind
import LinkedTables.Schema

/-!
# Column types and conversion

A `ColumnType` is a kind with precision, scale and the remote name of the type. `convert` turns a
value into the one value type that the kind's group holds, or says why it cannot; texts keep within a
precision that is not zero.
-/

namespace LinkedTables

open Number Calendar

/-- The type of a column. -/
structure ColumnType where
  kind : Kind
  precision : Int
  scale : Int
  typeName : Option String
deriving DecidableEq, Repr, Inhabited

namespace ColumnType

/-- A type of a kind without precision, scale and remote name. -/
def ofKind (kind : Kind) : ColumnType := ⟨kind, 0, 0, none⟩

/-- Reads a type from named fields. -/
def ofFields (entries : Schema.Entries) : Checked ColumnType :=
  open Schema in
  ColumnType.mk
    <$> required entries "kind" (oneOf Kind.ofName?)
    <*> field entries "precision" 0 whole
    <*> field entries "scale" 0 whole
    <*> field entries "type_name" none (optional text)

/-- The fields of a type. -/
def toFields (t : ColumnType) : Schema.Entries :=
  [("kind", .text t.kind.name), ("precision", .int t.precision), ("scale", .int t.scale),
    ("type_name", .ofText? t.typeName)]

/-- A type as it is shown: exact kinds with precision and scale, strings and buffers with a
precision that is not zero. -/
def text (t : ColumnType) : String :=
  match t.kind.group with
  | .exact => s!"{t.kind.name}({t.precision}, {t.scale})"
  | .string | .binary => if t.precision ≠ 0 then s!"{t.kind.name}({t.precision})" else t.kind.name
  | _ => t.kind.name

/-- Whether a type can be shown: not if a number that it is shown with has too many digits. -/
def isShowable (t : ColumnType) : Bool :=
  match t.kind.group with
  | .exact => (intText? t.precision).isSome && (intText? t.scale).isSome
  | .string | .binary => (intText? t.precision).isSome
  | _ => true

/-! ### Conversion, group by group -/

/-- The plain characters held by bytes, unless one is not plain. -/
def plainChars? (data : List UInt8) : Option (List Char) :=
  data.mapM fun b => if b < 128 then some (Char.ofNat b.toNat) else none

/-- The fault of a value that does not read as a number, or the number. -/
def orMalformed {α : Type} (x : Option α) : Except Fault α :=
  match x with
  | some a => .ok a
  | none => .error .malformed

/-- The integer that a value stands for. -/
def toWhole (v : Value) : Except Fault Int :=
  match v with
  | .bool b => .ok (if b then 1 else 0)
  | .int n => .ok n
  | .float x =>
    match FinitePart.of? x with
    | some p =>
      if p.isWhole then .ok p.truncated
      else .error (.badValue (v.shown ++ " is not an integral value"))
    | none => .error (.badValue (v.shown ++ " is not an integral value"))
  | .decimal (.finite negative c e) => .ok (Decimal.truncated negative c e)
  | .decimal (.infinite _) => .error .overflow
  | .decimal (.nan ..) => .error .malformed
  | .text s => orMalformed (readInt? s.toList)
  | .bytes _ data => orMalformed ((plainChars? data).bind readInt?)
  | _ => .error .mismatch

/-- The exact decimal that a value stands for, through its text. -/
def toExact (v : Value) : Except Fault Decimal :=
  match v with
  | .decimal d => .ok d
  | _ =>
    match v.asText? with
    | none => .error .malformed
    | some s =>
      match Decimal.read? s with
      | some d => .ok d
      | none => .error (.badValue (v.shown ++ " is not a numeric value"))

/-- The double that a value stands for. -/
def toApproximate (v : Value) : Except Fault Float :=
  let whole (n : Int) : Except Fault Float :=
    match floatOfInt? n with
    | some x => .ok x
    | none => .error .overflow
  match v with
  | .bool b => whole (if b then 1 else 0)
  | .int n => whole n
  | .float x => .ok x
  | .decimal (.finite negative c e) => .ok (floatOfDecimal negative c e)
  | .decimal (.infinite negative) => .ok (if negative then -(1.0 / 0.0) else 1.0 / 0.0)
  | .decimal (.nan _ signaling _) => if signaling then .error .malformed else .ok (0.0 / 0.0)
  | .text s => orMalformed (readFloat? s.toList)
  | .bytes _ data => orMalformed ((plainChars? data).bind readFloat?)
  | _ => .error .mismatch

/-- The words for true. -/
def trueWords : List String := ["true", "t", "1", "yes", "y"]

/-- The words for false. -/
def falseWords : List String := ["false", "f", "0", "no", "n"]

/-- The truth value that a value stands for. -/
def toTruth (v : Value) : Except Fault Bool :=
  match v with
  | .text s =>
    let word := Text.lower (Text.strip s)
    if trueWords.contains word then .ok true
    else if falseWords.contains word then .ok false
    else .error (.badValue (v.shown ++ " is not a boolean value"))
  | _ => .ok v.isTruthy

/-- The text that a value stands for, within the precision unless the kind is a large object. -/
def toText (t : ColumnType) (v : Value) : Except Fault String :=
  match v.asText? with
  | none => .error .malformed
  | some s =>
    if t.kind ≠ .clob ∧ t.precision ≠ 0 ∧ t.precision < s.length then
      .error (.badValue
        s!"Value too long, length {s.length} exceeds precision {t.precision}")
    else .ok s

/-- The fault of a value whose type does not fit. -/
def notA (v : Value) (noun : String) : Fault :=
  .wrongType (v.typeName ++ " is not a " ++ noun ++ " value")

/-- The bytes that a value holds. -/
def toBytes (v : Value) : Except Fault (List UInt8) :=
  match v with
  | .bytes _ data => .ok data
  | _ => .error (notA v "binary")

/-- The date that a value stands for. -/
def toDate (v : Value) : Except Fault Date :=
  match v with
  | .timestamp t => .ok t.date
  | .text s => orMalformed (Date.read? s)
  | .date d => .ok d
  | _ => .error (notA v "date")

/-- The timestamp that a value stands for; a date stands for its midnight. -/
def toTimestamp (v : Value) : Except Fault Timestamp :=
  match v with
  | .timestamp t => .ok t
  | .date d => .ok ⟨d, Time.midnight⟩
  | .text s => orMalformed (Timestamp.read? s)
  | _ => .error (notA v "timestamp")

/-- The time that a value stands for; a timestamp loses its zone with its date. -/
def toTime (v : Value) : Except Fault Time :=
  match v with
  | .timestamp t => .ok { t.time with offset := none }
  | .text s => orMalformed (Time.read? s)
  | .time t => .ok t
  | _ => .error (notA v "time")

/-- The value of the column's type that a value stands for. -/
def convert (t : ColumnType) (v : Value) : Except Fault Value :=
  match t.kind.group with
  | .truth => (toTruth v).map .bool
  | .whole => (toWhole v).map .int
  | .exact => (toExact v).map .decimal
  | .approximate => (toApproximate v).map .float
  | .string => (t.toText v).map .text
  | .binary => (toBytes v).map (.bytes .fixed)
  | .date => (toDate v).map .date
  | .time => (toTime v).map .time
  | .timestamp => (toTimestamp v).map .timestamp
  | .untyped => .ok v

end ColumnType

end LinkedTables
