import LinkedTables.Column.Type

/-!
# Types as remote dialects report them

A remote dialect reports the type of a column by a name of its own together with some attributes:
digits, a length, or digits of a second. `RemoteType.describe` maps such a type to a kind with the
precision and scale that the attributes give, and `RemoteType.text` writes it as the dialect does.
-/

namespace LinkedTables

/-- The attributes of a type that count as its precision. -/
inductive Measure where
  /-- No attribute counts. -/
  | none
  /-- The number of digits, with a scale. -/
  | digits
  /-- The length. -/
  | length
  /-- The digits of the fraction of a second. -/
  | fraction
deriving DecidableEq, Repr

/-- How the text of a type shows its attributes. -/
inductive TypeForm where
  | plain
  | sized
  | scaled
deriving DecidableEq, Repr

/-- What is known about a type name of a dialect. -/
structure RemoteTypeEntry where
  name : String
  kind : Kind
  measure : Measure
  /-- The name under which the type is written. -/
  written : String
  form : TypeForm
deriving DecidableEq, Repr

namespace RemoteTypeEntry

/-- The types of SQL Server. -/
def sqlServerTypes : List RemoteTypeEntry := [
  ⟨"BIT", .boolean, .none, "BIT", .plain⟩,
  ⟨"DATETIME2", .timestamp, .fraction, "DATETIME2", .plain⟩,
  ⟨"DATETIMEOFFSET", .timestamp, .fraction, "DATETIMEOFFSET", .plain⟩,
  ⟨"DOUBLE_PRECISION", .double, .none, "DOUBLE PRECISION", .plain⟩,
  ⟨"IMAGE", .blob, .length, "IMAGE", .plain⟩,
  ⟨"MONEY", .other, .none, "MONEY", .plain⟩,
  ⟨"NTEXT", .clob, .length, "NTEXT", .plain⟩,
  ⟨"REAL", .real, .none, "REAL", .plain⟩,
  ⟨"ROWVERSION", .varbinary, .length, "ROWVERSION", .plain⟩,
  ⟨"SMALLDATETIME", .timestamp, .fraction, "SMALLDATETIME", .plain⟩,
  ⟨"SMALLMONEY", .other, .none, "SMALLMONEY", .plain⟩,
  ⟨"SQL_VARIANT", .other, .none, "SQL_VARIANT", .plain⟩,
  ⟨"TIME", .time, .fraction, "TIME", .plain⟩,
  ⟨"TINYINT", .tinyint, .none, "TINYINT", .plain⟩,
  ⟨"UNIQUEIDENTIFIER", .other, .none, "UNIQUEIDENTIFIER", .plain⟩,
  ⟨"VARBINARY", .blob, .length, "VARBINARY", .sized⟩,
  ⟨"XML", .clob, .length, "XML", .plain⟩]

/-- The types of MySQL. -/
def mysqlTypes : List RemoteTypeEntry := [
  ⟨"BIGINT", .bigint, .none, "BIGINT", .plain⟩,
  ⟨"BIT", .other, .none, "BIT", .plain⟩,
  ⟨"DATETIME", .timestamp, .fraction, "DATETIME", .plain⟩,
  ⟨"DECIMAL", .decimal, .digits, "DECIMAL", .scaled⟩,
  ⟨"DOUBLE", .double, .none, "DOUBLE", .plain⟩,
  ⟨"ENUM", .varchar, .length, "ENUM", .plain⟩,
  ⟨"FLOAT", .float, .none, "FLOAT", .plain⟩,
  ⟨"INTEGER", .integer, .none, "INTEGER", .plain⟩,
  ⟨"JSON", .json, .none, "JSON", .plain⟩,
  ⟨"LONGBLOB", .varbinary, .length, "LONGBLOB", .plain⟩,
  ⟨"LONGTEXT", .varchar, .length, "LONGTEXT", .plain⟩,
  ⟨"MEDIUMBLOB", .varbinary, .length, "MEDIUMBLOB", .plain⟩,
  ⟨"MEDIUMINT", .integer, .none, "MEDIUMINT", .plain⟩,
  ⟨"MEDIUMTEXT", .varchar, .length, "MEDIUMTEXT", .plain⟩,
  ⟨"NUMERIC", .numeric, .digits, "NUMERIC", .scaled⟩,
  ⟨"NVARCHAR", .varchar, .length, "NVARCHAR", .sized⟩,
  ⟨"REAL", .real, .none, "REAL", .plain⟩,
  ⟨"SET", .varchar, .length, "SET", .plain⟩,
  ⟨"SMALLINT", .smallint, .none, "SMALLINT", .plain⟩,
  ⟨"TIME", .time, .fraction, "TIME", .plain⟩,
  ⟨"TIMESTAMP", .timestamp, .fraction, "TIMESTAMP", .plain⟩,
  ⟨"TINYBLOB", .varbinary, .length, "TINYBLOB", .plain⟩,
  ⟨"TINYINT", .tinyint, .none, "TINYINT", .plain⟩,
  ⟨"TINYTEXT", .varchar, .length, "TINYTEXT", .plain⟩,
  ⟨"VARCHAR", .varchar, .length, "VARCHAR", .sized⟩,
  ⟨"YEAR", .other, .none, "YEAR", .plain⟩]

/-- The types of Oracle. -/
def oracleTypes : List RemoteTypeEntry := [
  ⟨"BFILE", .blob, .length, "BFILE", .plain⟩,
  ⟨"BINARY_DOUBLE", .float, .none, "BINARY_DOUBLE", .plain⟩,
  ⟨"BINARY_FLOAT", .float, .none, "BINARY_FLOAT", .plain⟩,
  ⟨"DATE", .timestamp, .fraction, "DATE", .plain⟩,
  ⟨"LONG", .clob, .length, "LONG", .plain⟩,
  ⟨"NCLOB", .clob, .length, "NCLOB", .plain⟩,
  ⟨"NUMBER", .integer, .digits, "NUMBER", .plain⟩,
  ⟨"NVARCHAR2", .varchar, .length, "NVARCHAR", .sized⟩,
  ⟨"RAW", .varbinary, .length, "RAW", .plain⟩,
  ⟨"VARCHAR2", .varchar, .length, "VARCHAR2", .plain⟩]

/-- The types of PostgreSQL. -/
def postgresqlTypes : List RemoteTypeEntry := [
  ⟨"BIT", .other, .none, "BIT", .plain⟩,
  ⟨"BYTEA", .blob, .length, "BYTEA", .plain⟩,
  ⟨"CITEXT", .clob, .length, "CITEXT", .plain⟩,
  ⟨"DOUBLE_PRECISION", .double, .none, "DOUBLE PRECISION", .plain⟩,
  ⟨"ENUM", .varchar, .length, "VARCHAR", .sized⟩,
  ⟨"INET", .other, .none, "INET", .plain⟩,
  ⟨"JSON", .json, .none, "JSON", .plain⟩,
  ⟨"JSONB", .json, .none, "JSONB", .plain⟩,
  ⟨"MONEY", .other, .none, "MONEY", .plain⟩,
  ⟨"OID", .other, .none, "OID", .plain⟩,
  ⟨"TIME", .time, .fraction, "TIME", .plain⟩,
  ⟨"TIMESTAMP", .timestamp, .fraction, "TIMESTAMP", .plain⟩,
  ⟨"TSVECTOR", .other, .none, "TSVECTOR", .plain⟩,
  ⟨"UUID", .other, .none, "UUID", .plain⟩]

/-- The types of standard SQL. -/
def standardTypes : List RemoteTypeEntry := [
  ⟨"BIGINT", .bigint, .none, "BIGINT", .plain⟩,
  ⟨"BINARY", .binary, .length, "BINARY", .sized⟩,
  ⟨"BLOB", .blob, .length, "BLOB", .plain⟩,
  ⟨"BOOLEAN", .boolean, .none, "BOOLEAN", .plain⟩,
  ⟨"BigInteger", .bigint, .none, "BIGINT", .plain⟩,
  ⟨"Boolean", .boolean, .none, "BOOLEAN", .plain⟩,
  ⟨"CHAR", .char, .length, "CHAR", .sized⟩,
  ⟨"CLOB", .clob, .length, "CLOB", .plain⟩,
  ⟨"DATE", .date, .none, "DATE", .plain⟩,
  ⟨"DATETIME", .timestamp, .fraction, "DATETIME", .plain⟩,
  ⟨"DECIMAL", .decimal, .digits, "DECIMAL", .scaled⟩,
  ⟨"DOUBLE", .double, .none, "DOUBLE", .plain⟩,
  ⟨"DOUBLE_PRECISION", .double, .none, "DOUBLE PRECISION", .plain⟩,
  ⟨"Date", .date, .none, "DATE", .plain⟩,
  ⟨"DateTime", .timestamp, .fraction, "DATETIME", .plain⟩,
  ⟨"Double", .double, .none, "DOUBLE", .plain⟩,
  ⟨"Enum", .varchar, .length, "VARCHAR", .sized⟩,
  ⟨"FLOAT", .float, .none, "FLOAT", .plain⟩,
  ⟨"Float", .float, .none, "FLOAT", .plain⟩,
  ⟨"INTEGER", .integer, .none, "INTEGER", .plain⟩,
  ⟨"Integer", .integer, .none, "INTEGER", .plain⟩,
  ⟨"Interval", .other, .none, "DATETIME", .plain⟩,
  ⟨"JSON", .json, .none, "JSON", .plain⟩,
  ⟨"LargeBinary", .blob, .length, "BLOB", .plain⟩,
  ⟨"NCHAR", .varchar, .length, "NCHAR", .sized⟩,
  ⟨"NUMERIC", .numeric, .digits, "NUMERIC", .scaled⟩,
  ⟨"NVARCHAR", .varchar, .length, "NVARCHAR", .sized⟩,
  ⟨"Numeric", .numeric, .digits, "NUMERIC", .scaled⟩,
  ⟨"REAL", .real, .none, "REAL", .plain⟩,
  ⟨"SMALLINT", .smallint, .none, "SMALLINT", .plain⟩,
  ⟨"SmallInteger", .smallint, .none, "SMALLINT", .plain⟩,
  ⟨"String", .varchar, .length, "VARCHAR", .sized⟩,
  ⟨"TEXT", .clob, .length, "TEXT", .sized⟩,
  ⟨"TIME", .time, .fraction, "TIME", .plain⟩,
  ⟨"TIMESTAMP", .timestamp, .fraction, "TIMESTAMP", .plain⟩,
  ⟨"Text", .clob, .length, "TEXT", .sized⟩,
  ⟨"Time", .time, .fraction, "TIME", .plain⟩,
  ⟨"UUID", .other, .none, "UUID", .plain⟩,
  ⟨"Unicode", .varchar, .length, "VARCHAR", .sized⟩,
  ⟨"UnicodeText", .clob, .length, "TEXT", .sized⟩,
  ⟨"Uuid", .other, .none, "CHAR(32)", .plain⟩,
  ⟨"VARBINARY", .varbinary, .length, "VARBINARY", .sized⟩,
  ⟨"VARCHAR", .varchar, .length, "VARCHAR", .sized⟩]

/-- The types of SQLite. -/
def sqliteTypes : List RemoteTypeEntry := [
  ⟨"DATE", .date, .none, "DATE", .plain⟩,
  ⟨"DATETIME", .timestamp, .fraction, "DATETIME", .plain⟩,
  ⟨"JSON", .json, .none, "JSON", .plain⟩,
  ⟨"TIME", .time, .fraction, "TIME", .plain⟩]
/-- The dialects with their types; the types of standard SQL go by the name `sql`. -/
def dialects : List (String × List RemoteTypeEntry) :=
  [("sql", standardTypes), ("mssql", sqlServerTypes), ("mysql", mysqlTypes),
    ("oracle", oracleTypes), ("postgresql", postgresqlTypes), ("sqlite", sqliteTypes)]

/-- The entry of a type of a dialect. -/
def find? (dialect name : String) : Option RemoteTypeEntry := do
  let (_, entries) ← dialects.find? (·.1 == dialect)
  entries.find? (·.name == name)

end RemoteTypeEntry

/-- A type with its attributes. -/
structure RemoteType where
  entry : RemoteTypeEntry
  precision : Option Int
  scale : Option Int
  length : Option Int
  fraction : Option Int
deriving DecidableEq, Repr

namespace RemoteType

/-- A type by its dialect and name, with its attributes by theirs; a type that lists its members is
as long as the longest of them. -/
def ofAttributes? (dialect name : String) (members : List String)
    (given : String → Option Int) : Option RemoteType := do
  let entry ← RemoteTypeEntry.find? dialect name
  let longest := members.foldl (fun n m => max n m.length) 0
  return {
    entry
    precision := given "precision"
    scale := given "scale"
    length := if members.isEmpty then given "length" else some longest
    fraction := given "fsp" }

/-- The text of a type. A length of zero is not written. -/
def text (t : RemoteType) : String :=
  match t.entry.form, t.length, t.precision, t.scale with
  | .sized, some n, _, _ => if n = 0 then t.entry.written else s!"{t.entry.written}({n})"
  | .scaled, _, some p, some s => s!"{t.entry.written}({p}, {s})"
  | .scaled, _, some p, none => s!"{t.entry.written}({p})"
  | _, _, _, _ => t.entry.written

/-- The precision that the attributes of a type give. -/
def measured (t : RemoteType) : Int :=
  match t.entry.measure with
  | .none => 0
  | .digits => t.precision.getD 0
  | .length => t.length.getD 0
  | .fraction =>
    match t.precision with
    | some p => if p = 0 then t.fraction.getD 0 else p
    | none => t.fraction.getD 0

/-- The type of a column as it is reported, before any correction. -/
def describe (t : RemoteType) : ColumnType where
  kind := t.entry.kind
  precision := t.measured
  scale := if t.entry.measure = .digits then t.scale.getD 0 else 0
  typeName := some t.text

end RemoteType

end LinkedTables
