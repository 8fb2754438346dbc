/-!
# Kinds of column

The semantic kinds of a linked column after the remote type has been mapped, and the groups of
kinds that are treated alike.
-/

namespace LinkedTables

/-- The semantic kind of a column. -/
inductive Kind where
  | boolean
  | tinyint
  | smallint
  | integer
  | bigint
  | decimal
  | numeric
  | real
  | double
  | float
  | char
  | varchar
  | clob
  | binary
  | varbinary
  | blob
  | date
  | time
  | timestamp
  | json
  | other
deriving DecidableEq, Repr, Inhabited

/-- The group a kind belongs to: the kinds of a group hold values of one type. -/
inductive KindGroup where
  | truth
  | whole
  | exact
  | approximate
  | string
  | binary
  | date
  | time
  | timestamp
  | untyped
deriving DecidableEq, Repr

namespace Kind

/-- All kinds. -/
def all : List Kind :=
  [boolean, tinyint, smallint, integer, bigint, decimal, numeric, real, double, float, char,
    varchar, clob, binary, varbinary, blob, date, time, timestamp, json, other]

/-- The name of a kind. -/
def name : Kind → String
  | boolean => "BOOLEAN"
  | tinyint => "TINYINT"
  | smallint => "SMALLINT"
  | integer => "INTEGER"
  | bigint => "BIGINT"
  | decimal => "DECIMAL"
  | numeric => "NUMERIC"
  | real => "REAL"
  | double => "DOUBLE"
  | float => "FLOAT"
  | char => "CHAR"
  | varchar => "VARCHAR"
  | clob => "CLOB"
  | binary => "BINARY"
  | varbinary => "VARBINARY"
  | blob => "BLOB"
  | date => "DATE"
  | time => "TIME"
  | timestamp => "TIMESTAMP"
  | json => "JSON"
  | other => "OTHER"

/-- The kind with a name. -/
def ofName? (s : String) : Option Kind := all.find? (·.name == s)

theorem ofName?_name (k : Kind) : ofName? k.name = some k := by
  cases k <;> rfl

/-- The group of a kind. -/
def group : Kind → KindGroup
  | boolean => .truth
  | tinyint | smallint | integer | bigint => .whole
  | decimal | numeric => .exact
  | real | double | float => .approximate
  | char | varchar | clob => .string
  | binary | varbinary | blob => .binary
  | date => .date
  | time => .time
  | timestamp => .timestamp
  | json | other => .untyped

/-- Large objects, which cannot be compared on most remote sides. -/
def isLarge : Kind → Bool
  | clob | blob => true
  | _ => false

end Kind

end LinkedTables
