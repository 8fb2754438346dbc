import LinkedTables.Fault
import LinkedTables.Notice
import LinkedTables.Roster

/-!
# The registry of tables

The local engine knows its tables by schema and name, in the order in which they were registered,
each with its kind. What can be done with a table is told by its capabilities.
-/

namespace LinkedTables

/-- What can be done with a table. -/
inductive Capability where
  | delete
  | insert
  | rowCount
  | scan
  | update
deriving DecidableEq, Repr, Inhabited

namespace Capability

/-- All capabilities, sorted by name. -/
def all : List Capability := [delete, insert, rowCount, scan, update]

/-- The name of a capability. -/
def name : Capability → String
  | delete => "delete"
  | insert => "insert"
  | rowCount => "row_count"
  | scan => "scan"
  | update => "update"

/-- Whether a table that must not be changed has the capability. -/
def isReading : Capability → Bool
  | rowCount | scan => true
  | _ => false

/-- The capabilities of a linked table. -/
def ofLinked (readOnly : Bool) : List Capability :=
  if readOnly then all.filter isReading else all

end Capability

/-- The kinds of table. -/
inductive TableKind where
  | regular
  | view
  | linked
deriving DecidableEq, Repr, Inhabited

namespace TableKind

/-- All kinds. -/
def all : List TableKind := [regular, view, linked]

/-- The name of a kind. -/
def name : TableKind → String
  | regular => "regular"
  | view => "view"
  | linked => "linked"

/-- The kind with a name. -/
def ofName? (s : String) : Option TableKind := all.find? (·.name == s)

end TableKind

/-- A table under its name, with its kind. -/
structure Variant (α : Type) where
  kind : TableKind
  name : String
  table : α

/-- Tables by schema and name. -/
abbrev Registry (α : Type) := Ledger (String × String) (Variant α)

namespace Registry

variable {α : Type}

/-- What is reported about a table. -/
def notice (what schema : String) (variant : Variant α) : Notice :=
  ⟨.info, what ++ " " ++ variant.kind.name ++ " table " ++ schema ++ "." ++ variant.name⟩

/-- The registry with one more table; its schema must not have one of that name yet. -/
def register (registry : Registry α) (schema : String) (variant : Variant α) :
    Except Fault (Registry α × Notice) :=
  match registry.value? (schema, variant.name) with
  | some _ => .error (.badValue ("Table already registered: " ++ schema ++ "." ++ variant.name))
  | none => .ok (registry.put (schema, variant.name) variant, notice "Registered" schema variant)

/-- The table with a name. -/
def get? (registry : Registry α) (schema name : String) : Option (Variant α) :=
  registry.value? (schema, name)

/-- The tables in the order in which they were registered. -/
def toList (registry : Registry α) : List (Variant α) := registry.map (·.2)

/-- The registry without a table, and that table. -/
def remove (registry : Registry α) (schema name : String) :
    Except Fault (Registry α × Variant α) :=
  match registry.value? (schema, name) with
  | some variant => .ok (registry.drop (schema, name), variant)
  | none => .error (.badValue ("Unknown table: " ++ schema ++ "." ++ name))

end Registry

end LinkedTables
