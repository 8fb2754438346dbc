import LinkedTables.Column.Sequence
import LinkedTables.Column.Type

/-!
# Columns

A `Column` is a column of a linked table with its remote name; its `Filling` is what the local
engine puts in when a value is left to the default. `Column.accept` replaces a default, converts
the value and lets the sequence see it; when it fails on an explicit value the filling is
unchanged.
-/

namespace LinkedTables

/-- A column of a linked table. -/
structure Column where
  name : String
  type : ColumnType
  ordinal : Nat
  remoteName : String
  nullable : Bool
deriving DecidableEq, Repr, Inhabited

/-- A local default: a value, of which null is none, or a supply of values used up one by one. -/
inductive Default where
  | value (v : Value)
  | supply (vs : List Value)
deriving Inhabited

/-- What a column puts in for a default. -/
structure Filling where
  default : Option Default
  sequence : Option Sequence

namespace Filling

/-- No local default and no sequence. -/
def none : Filling := ⟨Option.none, Option.none⟩

instance : Inhabited Filling := ⟨none⟩

/-- The value put in for a default, if there is one; a sequence goes before a local default. -/
def take (f : Filling) : Except Fault (Option Value) × Filling :=
  match f.sequence, f.default with
  | some s, _ => (.ok (some (.int s.draw.1)), { f with sequence := some s.draw.2 })
  | Option.none, some (.value .null) => (.ok Option.none, f)
  | Option.none, some (.value v) => (.ok (some v), f)
  | Option.none, some (.supply (v :: vs)) => (.ok (some v), { f with default := some (.supply vs) })
  | Option.none, some (.supply []) => (.error (.outOfRange false), f)
  | Option.none, Option.none => (.ok Option.none, f)

/-- The filling after a converted value: whole numbers and truth values are seen by the sequence. -/
def observe (f : Filling) (v : Value) : Filling :=
  match v with
  | .int n => { f with sequence := f.sequence.map (·.observe n) }
  | .bool b => { f with sequence := f.sequence.map (·.observe (if b then 1 else 0)) }
  | _ => f

end Filling

namespace Column

/-- The fields of a column. -/
def toFields (c : Column) : Schema.Entries :=
  [("name", .text c.name), ("remote_name", .text c.remoteName), ("ordinal", .int c.ordinal),
    ("type", .text c.type.text), ("precision", .int c.type.precision),
    ("scale", .int c.type.scale), ("type_name", .ofText? c.type.typeName),
    ("nullable", .bool c.nullable)]

/-- The column in messages. -/
def shown (c : Column) : String :=
  "Column(" ++ Text.quoted c.name ++ ", " ++ c.type.text ++ s!", ordinal={c.ordinal})"

/-- The failure to convert a value for a column. -/
def conversionFault (c : Column) (v : Value) (cause : Fault) : LinkFault :=
  ⟨.valueConversion,
    "Data conversion error converting " ++ v.shown ++ " for column " ++ c.name ++ " ("
      ++ c.type.text ++ "): " ++ cause.text,
    none, none, some (.dict [("column", .text c.name)])⟩

/-- A fault that conversion may report: a value that cannot be read or does not fit. An overflow
is not one. -/
def reports : Fault → Bool
  | .badValue _ | .malformed | .wrongType _ | .mismatch => true
  | _ => false

/-- The fault of a value that cannot be converted for the column. A cause that conversion reports
is put into a failure that shows the value and the type, which both have to admit that. -/
def refusal (c : Column) (v : Value) (cause : Fault) : Fault :=
  if reports cause then
    if v.isShowable && c.type.isShowable then .link (c.conversionFault v cause) else .malformed
  else cause

/-- The converted value and the filling that has seen it. -/
def convertFor (c : Column) (f : Filling) (v : Value) : Except Fault Value × Filling :=
  match v with
  | .null => (.ok .null, f)
  | _ =>
    match c.type.convert v with
    | .ok w => (.ok w, f.observe w)
    | .error cause => (.error (c.refusal v cause), f)

/-- The value that goes into a row of the table for a given one. A default with nothing local to
put in is kept, so that the remote side applies its own. -/
def accept (c : Column) (f : Filling) (v : Value) : Except Fault Value × Filling :=
  match v with
  | .useDefault =>
    match f.take with
    | (.ok (some w), f') => c.convertFor f' w
    | (.ok none, f') => (.ok .useDefault, f')
    | (.error fault, f') => (.error fault, f')
  | _ => c.convertFor f v

end Column

end LinkedTables
