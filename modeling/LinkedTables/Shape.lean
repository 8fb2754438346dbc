import LinkedTables.Catalog.Probe
import LinkedTables.Index.Reconstruction
import LinkedTables.Roster

/-!
# The shape of a remote table

A `Shape` is what a link learns of its remote table: the columns under their canonical names, the
name by which the table is addressed, and the indexes, of which the first one covers all columns.
The columns come from the catalog as long as its rows agree on where the table is (`gather`), and
from a query otherwise. Precision and scale are corrected for values that stand for no limit.
-/

namespace LinkedTables

open Dialect

namespace Shape

/-! ### Corrections -/

/-- The precision of an exact kind without a limit. -/
def unlimitedPrecision : Int := 65535

/-- The scale of an exact kind without a limit. -/
def unlimitedScale : Int := 32767

/-- The precision of a column for a reported one: zero stands for no limit, and a date or a time
needs room for its text. -/
def precisionFor (kind : Kind) (precision : Int) : Int :=
  match kind with
  | .decimal | .numeric => if precision = 0 then unlimitedPrecision else precision
  | .date => max 10 precision
  | .timestamp => max 29 precision
  | .time => max 18 precision
  | _ => precision

/-- The scale of a column for a reported one: a negative one stands for no limit. -/
def scaleFor (kind : Kind) (scale : Int) : Int :=
  match kind with
  | .decimal | .numeric => if scale < 0 then unlimitedScale else scale
  | _ => scale

/-! ### Columns -/

/-- The column at a place for a reported row. -/
def columnOf (canonicalName : String → String) (ordinal : Nat) (row : ColumnRow) : Column where
  name := canonicalName row.column
  type := ⟨row.kind, precisionFor row.kind row.precision, scaleFor row.kind row.scale, row.typeName⟩
  ordinal
  remoteName := row.column
  nullable := row.nullable

/-- The columns for reported rows, in their order. -/
def columnsOf (canonicalName : String → String) (rows : List ColumnRow) : List Column :=
  rows.zipIdx.map fun (row, i) => columnOf canonicalName i row

theorem columnsOf_length (canonicalName : String → String) (rows : List ColumnRow) :
    (columnsOf canonicalName rows).length = rows.length := by
  simp [columnsOf]

/-- The column that bears a name; of several the last. -/
def column? (columns : List Column) (name : String) : Option Column :=
  columns.reverse.find? (·.name == name)

/-- Where the rows read so far put the table: the first catalog and the first schema reported. -/
structure Origin where
  catalog : Option String
  schema : Option String
deriving DecidableEq, Repr

/-- The origin after one more row. -/
def Origin.learn (origin : Origin) (row : ColumnRow) : Origin :=
  ⟨origin.catalog <|> row.catalog, origin.schema <|> row.schema⟩

/-- A row that puts the table where the others do. -/
def Origin.agrees (origin : Origin) (row : ColumnRow) : Bool :=
  row.catalog == origin.catalog && row.schema == origin.schema

/-- The rows as long as they agree on where the table is, or nothing if they do not, and the schema
that was reported. Behind the first row that disagrees none is read. -/
def gather (origin : Origin) :
    List (Except Fault ColumnRow) → Except Fault (Option (List ColumnRow) × Option String)
  | [] => .ok (some [], origin.schema)
  | .error fault :: _ => .error fault
  | .ok row :: rest =>
    let learned := origin.learn row
    if learned.agrees row then
      (gather learned rest).map fun (rows, schema) => (rows.map (row :: ·), schema)
    else .ok (none, learned.schema)

/-- The columns that the catalog reports, none if its rows disagree, and the reported schema. -/
def catalogColumns (canonicalName : String → String) (feed : Feed ColumnRow) :
    Except Fault (List Column × Option String) := do
  let (rows, schema) ← gather ⟨none, none⟩ (← feed)
  return (columnsOf canonicalName (rows.getD []), schema)

/-- The name by which the table is addressed: with the reported schema in front, unless there is
none or the name has a qualifier already. -/
def qualified (table : String) (schema : Option String) : String :=
  match schema with
  | some s => if table.contains '.' || s.isEmpty then table else s ++ "." ++ table
  | none => table

/-- The query whose result has the columns of the table and no rows. -/
def probeText (name : String) : String := "SELECT * FROM " ++ name ++ " T WHERE 1=0"

/-- The index over all columns. -/
def scanIndex (columns : List Column) : Index := ⟨.nonUnique, columns, none⟩

end Shape

/-- What a link learns of its remote table. -/
structure Shape where
  columns : List Column
  qualifiedName : String
  isQuery : Bool
  flags : Flags
  vendor : Vendor
  /-- The indexes behind the one over all columns. -/
  others : List Index
  remoteSchema : Option String
deriving DecidableEq, Repr

namespace Shape

/-- All indexes. -/
def indexes (shape : Shape) : List Index := scanIndex shape.columns :: shape.others

/-- The names of the columns. -/
def columnNames (shape : Shape) : List String := shape.columns.map (·.name)

/-- The places of the columns by name; of several columns of one name the last. -/
def places (shape : Shape) : Ledger String Nat :=
  shape.columns.foldl (fun places c => places.put c.name c.ordinal) []

/-- The fields of a shape, but for the flags. -/
def toFields (shape : Shape) : Schema.Entries :=
  [("columns", .list (shape.columns.map fun c => .dict c.toFields)),
    ("map", .dict (shape.places.map fun (name, i) => (name, .int i))),
    ("qualified_name", .text shape.qualifiedName), ("is_query", .bool shape.isQuery),
    ("vendor", .text shape.vendor.name),
    ("indexes", .list (shape.indexes.map fun index => .dict index.toFields)),
    ("remote_schema", .ofText? shape.remoteSchema),
    ("names", .list (shape.columnNames.map .text))]

/-- The failure of a name that several remote tables bear. -/
def ambiguous (table : String) (found : List TableRow) : LinkFault :=
  ⟨.ambiguousRemoteObject,
    "Schema name must match: " ++ table ++ " exists in more than one remote schema", none, none,
    some (.dict [("schemas", .list (found.map fun row => .ofText? row.schema))])⟩

/-- The failure of a table that cannot be queried. -/
def notFound (table name : String) (cause : Fault) : LinkFault :=
  let text := cause.remoteMessage
  ⟨.objectNotFound, "Table " ++ table ++ "(" ++ text ++ ") not found", some (probeText name),
    some text, some (.dict [("qualified_name", .text name)])⟩

/-- Texts as messages list them. -/
def listed (names : List String) : String := (Value.list (names.map .text)).shown

/-- What is reported about a shape that was read. -/
def notice (shape : Shape) : Notice :=
  ⟨.debug, "Linked " ++ shape.qualifiedName ++ ": columns=" ++ listed shape.columnNames
    ++ s!", indexes={shape.indexes.length}"⟩

end Shape

end LinkedTables
