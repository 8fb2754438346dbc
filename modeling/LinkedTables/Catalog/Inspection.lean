import LinkedTables.Catalog.RemoteType
import LinkedTables.Catalog.Row

/-!
# Catalogs by inspection

An `Inspector` reports schemas, tables, columns, a primary key constraint, indexes and unique
constraints, each as a whole. `Inspector.catalog` turns its reports into catalog rows, in the order
of the reports. A question without a schema asks every schema that the inspector reports.
-/

namespace LinkedTables

/-- A column in a report. -/
structure ColumnReport where
  name : Option String
  type : RemoteType
  nullable : Bool
deriving DecidableEq, Repr

/-- A primary key constraint, an index or a unique constraint in a report; an expression among the
columns of an index is reported as nothing. -/
structure KeyReport where
  name : Option String
  columns : List (Option String)
  unique : Bool
deriving DecidableEq, Repr, Inhabited

/-- What can be asked about the tables of a connection; each question may fail. -/
structure Inspector where
  schemas : Except Fault (List String)
  hasTable : Option String → String → Except Fault Bool
  columns : Option String → Except Fault (List ColumnReport)
  primaryKey : Except Fault (Option KeyReport)
  indexes : Except Fault (List KeyReport)
  uniques : Except Fault (List KeyReport)

namespace Inspector

/-- The schemas that a question covers: the one it names, or all that are reported, and the default
one where there are none. -/
def schemasFor (inspector : Inspector) (schema : Option String) :
    Except Fault (List (Option String)) :=
  match schema with
  | some name => .ok [some name]
  | none =>
    match inspector.schemas with
    | .ok [] => .ok [none]
    | .ok names => .ok (names.map some)
    | .error fault => if fault.isUnsupported then .ok [none] else .error fault

/-- The schemas, of those that a question covers, that have the table. -/
def schemasWith (inspector : Inspector) (schema : Option String) (table : String) :
    Except Fault (List (Option String)) := do
  (← inspector.schemasFor schema).filterM fun s => inspector.hasTable s table

/-- The tables that carry a name. -/
def tables (inspector : Inspector) (schema : Option String) (table : String) : Feed TableRow :=
  (inspector.schemasWith schema table).map fun found =>
    found.map fun s => .ok ⟨none, s, table⟩

/-- The row of a reported column. -/
def columnRow (schema : Option String) (table : String) (report : ColumnReport) :
    Except Fault ColumnRow :=
  match report.name with
  | none => .error (.invalidFields [⟨[.field "column_name"], "string_type"⟩])
  | some name =>
    let type := report.type.describe
    .ok ⟨none, schema, some table, name, type.kind, type.typeName, type.precision, type.scale,
      report.nullable⟩

/-- The columns of the tables that carry a name, schema by schema. -/
def columnRows (inspector : Inspector) (schema : Option String) (table : String) :
    Feed ColumnRow :=
  (inspector.schemasWith schema table).map fun found =>
    found.flatMap fun s =>
      match inspector.columns s with
      | .ok reports => reports.map (columnRow s table)
      | .error fault => [.error fault]

/-- The row of a column of the primary key. -/
def keyRow (keyName column : Option String) (place : Nat) : Except Fault KeyRow :=
  match column with
  | some name => .ok ⟨name, place, keyName⟩
  | none => .error (.invalidFields [⟨[.field "column_name"], "string_type"⟩])

/-- The rows of the primary key. -/
def keyRows (inspector : Inspector) : Feed KeyRow :=
  inspector.primaryKey.map fun
    | none => []
    | some key => key.columns.zipIdx.map fun (column, i) => keyRow key.name column (i + 1)

/-- The rows of an index or a unique constraint. -/
def indexRows (unique : Bool) (report : KeyReport) : List IndexRow :=
  report.columns.zipIdx.map fun (column, i) => ⟨report.name, column, !unique, .other, ↑(i + 1)⟩

/-- A unique constraint that no index stands for: it has a name, and no index bears it. -/
def isApart (indexes : List KeyReport) (constraint : KeyReport) : Bool :=
  match constraint.name with
  | none => false
  | some name => !name.isEmpty && !(indexes.map (·.name)).contains (some name)

/-- The rows of all indexes, and behind them those of the unique constraints that stand apart. -/
def allIndexRows (inspector : Inspector) : Feed IndexRow :=
  inspector.indexes.map fun indexes =>
    let reported := (indexes.flatMap fun index => indexRows index.unique index).map Except.ok
    match inspector.uniques with
    | .ok constraints =>
      reported ++
        ((constraints.filter (isApart indexes)).flatMap (indexRows true)).map Except.ok
    | .error fault => if fault.isUnsupported then reported else reported ++ [.error fault]

/-- The catalog that an inspector amounts to, for a dialect. -/
def catalog (inspector : Inspector) (flags : Dialect.Flags) : Catalog where
  flags
  journaled := false
  tables := inspector.tables
  columns := inspector.columnRows
  primaryKeys _ _ := inspector.keyRows
  indexInfo _ _ := inspector.allIndexRows

end Inspector

end LinkedTables
