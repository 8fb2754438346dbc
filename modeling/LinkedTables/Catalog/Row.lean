import LinkedTables.Column.Kind
import LinkedTables.Dialect.Identifier
import LinkedTables.Schema

/-!
# Catalog rows

Remote catalogs report flat rows: one for a table, one for each of its columns, one for each column
of its primary key, and one for each column of an index. A catalog is asked for the rows of a table
through a `Feed`: the question itself may fail, and so may the reading of each row. `Feed.toList`
reads all rows or ends with the first fault. Each kind of row can be read from named fields and
written as such.
-/

namespace LinkedTables

/-- A table that carries the name asked for. -/
structure TableRow where
  catalog : Option String
  schema : Option String
  table : String
deriving DecidableEq, Repr, Inhabited

/-- A column as the catalog reports it. -/
structure ColumnRow where
  catalog : Option String
  schema : Option String
  table : Option String
  column : String
  kind : Kind
  typeName : Option String
  precision : Int
  scale : Int
  nullable : Bool
deriving DecidableEq, Repr, Inhabited

/-- A column of a primary key and its place in the key, counted from one; some catalogs report zero
for every column. -/
structure KeyRow where
  column : String
  place : Int
  keyName : Option String
deriving DecidableEq, Repr, Inhabited

/-- The kinds of index rows. -/
inductive IndexRowKind where
  | statistic
  | clustered
  | hashed
  | other
deriving DecidableEq, Repr, Inhabited

namespace IndexRowKind

/-- The kinds in the order of their numbers. -/
def all : List IndexRowKind := [statistic, clustered, hashed, other]

/-- The kind with a number. -/
def ofNumber? (n : Int) : Option IndexRowKind := if n < 0 then none else all[n.toNat]?

/-- The number of a kind. -/
def number : IndexRowKind → Nat
  | statistic => 0
  | clustered => 1
  | hashed => 2
  | other => 3

theorem ofNumber?_number (k : IndexRowKind) : ofNumber? k.number = some k := by
  cases k <;> rfl

end IndexRowKind

/-- A column of an index; an indexed expression has no column. -/
structure IndexRow where
  index : Option String
  column : Option String
  nonUnique : Bool
  kind : IndexRowKind
  place : Int
deriving DecidableEq, Repr, Inhabited

/-! ### Reading -/

/-- Reads a table row. -/
def TableRow.ofFields (entries : Schema.Entries) : Checked TableRow :=
  open Schema in
  TableRow.mk
    <$> field entries "catalog" none (optional text)
    <*> field entries "schema_name" none (optional text)
    <*> required entries "table_name" text

/-- Reads a column row. -/
def ColumnRow.ofFields (entries : Schema.Entries) : Checked ColumnRow :=
  open Schema in
  ColumnRow.mk
    <$> field entries "catalog" none (optional text)
    <*> field entries "schema_name" none (optional text)
    <*> field entries "table_name" none (optional text)
    <*> required entries "column_name" text
    <*> field entries "kind" Kind.other (oneOf Kind.ofName?)
    <*> field entries "type_name" none (optional text)
    <*> field entries "precision" 0 whole
    <*> field entries "scale" 0 whole
    <*> field entries "nullable" true truth

/-- Reads a row of a primary key. -/
def KeyRow.ofFields (entries : Schema.Entries) : Checked KeyRow :=
  open Schema in
  KeyRow.mk
    <$> required entries "column_name" text
    <*> required entries "key_seq" whole
    <*> field entries "pk_name" none (optional text)

/-- Reads the kind of an index row by its number. -/
def IndexRowKind.read : Schema.Reader IndexRowKind := fun v =>
  match (Schema.whole v).toOption.bind ofNumber? with
  | some k => .ok k
  | none => .error "enum"

/-- Reads a row of an index. -/
def IndexRow.ofFields (entries : Schema.Entries) : Checked IndexRow :=
  open Schema in
  IndexRow.mk
    <$> field entries "index_name" none (optional text)
    <*> field entries "column_name" none (optional text)
    <*> field entries "non_unique" true truth
    <*> field entries "type" IndexRowKind.other IndexRowKind.read
    <*> field entries "ordinal_position" 0 whole

/-! ### Writing -/

/-- The fields of a table row. -/
def TableRow.toFields (r : TableRow) : Schema.Entries :=
  [("catalog", .ofText? r.catalog), ("schema_name", .ofText? r.schema),
    ("table_name", .text r.table)]

/-- The fields of a column row. -/
def ColumnRow.toFields (r : ColumnRow) : Schema.Entries :=
  [("catalog", .ofText? r.catalog), ("schema_name", .ofText? r.schema),
    ("table_name", .ofText? r.table), ("column_name", .text r.column),
    ("kind", .text r.kind.name), ("type_name", .ofText? r.typeName),
    ("precision", .int r.precision), ("scale", .int r.scale), ("nullable", .bool r.nullable)]

/-- The fields of a row of a primary key. -/
def KeyRow.toFields (r : KeyRow) : Schema.Entries :=
  [("column_name", .text r.column), ("key_seq", .int r.place), ("pk_name", .ofText? r.keyName)]

/-- The fields of a row of an index. -/
def IndexRow.toFields (r : IndexRow) : Schema.Entries :=
  [("index_name", .ofText? r.index), ("column_name", .ofText? r.column),
    ("non_unique", .bool r.nonUnique), ("type", .int r.kind.number),
    ("ordinal_position", .int r.place)]

/-! ### Feeds -/

/-- The answer to a question for rows. -/
abbrev Feed (α : Type) := Except Fault (List (Except Fault α))

/-- The rows up to the first that cannot be read, and the fault of that one. -/
def readable {α : Type} : List (Except Fault α) → List α × Option Fault
  | [] => ([], none)
  | .ok row :: rest =>
    let (rows, fault) := readable rest
    (row :: rows, fault)
  | .error fault :: _ => ([], some fault)

/-- All rows, or the first fault. -/
def Feed.toList {α : Type} (feed : Feed α) : Except Fault (List α) :=
  match feed with
  | .error fault => .error fault
  | .ok items =>
    match readable items with
    | (rows, none) => .ok rows
    | (_, some fault) => .error fault

/-- What a remote connection tells about its tables. -/
structure Catalog where
  flags : Dialect.Flags
  /-- The questions are entered in the journal. -/
  journaled : Bool
  tables : Option String → String → Feed TableRow
  columns : Option String → String → Feed ColumnRow
  primaryKeys : Option String → String → Feed KeyRow
  indexInfo : Option String → String → Feed IndexRow

end LinkedTables
