import LinkedTables.Column.Basic
import LinkedTables.Notice

/-!
# Indexes

An `Index` is a list of columns by which a linked table can be searched. A `Binding` is an index as
the catalog reports it, some of whose columns may not be known; `Binding.index?` keeps the leading
columns that are known, and there is no index if the first one is not.
-/

namespace LinkedTables

/-- The kinds of index. -/
inductive IndexKind where
  | primaryKey
  | unique
  | nonUnique
deriving DecidableEq, Repr, Inhabited

namespace IndexKind

/-- All kinds. -/
def all : List IndexKind := [primaryKey, unique, nonUnique]

/-- The name of a kind. -/
def name : IndexKind → String
  | primaryKey => "PRIMARY_KEY"
  | unique => "UNIQUE"
  | nonUnique => "NON_UNIQUE"

/-- The kind with a name. -/
def ofName? (s : String) : Option IndexKind := all.find? (·.name == s)

/-- The kind of an index that is unique or not. -/
def ofUnique (b : Bool) : IndexKind := if b then unique else nonUnique

end IndexKind

/-- An index of a linked table. -/
structure Index where
  kind : IndexKind
  columns : List Column
  name : Option String
deriving DecidableEq, Repr, Inhabited

namespace Index

/-- Whether the index admits each key once. -/
def isUnique (index : Index) : Bool := index.kind != .nonUnique

/-- The names of the columns. -/
def columnNames (index : Index) : List String := index.columns.map (·.name)

/-- The fields of an index. -/
def toFields (index : Index) : Schema.Entries :=
  [("name", .ofText? index.name), ("kind", .text index.kind.name),
    ("unique", .bool index.isUnique), ("columns", .list (index.columnNames.map .text))]

/-- The index in messages. -/
def shown (index : Index) : String :=
  "LinkedIndex(" ++ (Value.ofText? index.name).shown ++ ", " ++ index.kind.name ++ ", "
    ++ (Value.list (index.columnNames.map .text)).shown ++ ")"

end Index

/-- The known columns before the first unknown one. -/
def leading {α : Type} : List (Option α) → List α
  | some a :: rest => a :: leading rest
  | _ => []

/-- An index whose columns may not all be known. -/
structure Binding where
  kind : IndexKind
  columns : List (Option Column)
  name : Option String
deriving DecidableEq, Repr, Inhabited

namespace Binding

/-- The index over the leading known columns. -/
def index? (b : Binding) : Option Index :=
  match b.columns with
  | none :: _ => none
  | columns => some ⟨b.kind, leading columns, b.name⟩

/-- What is reported about a binding that loses columns. -/
def notice? (b : Binding) : Option Notice :=
  let known := (leading b.columns).length
  if known = b.columns.length then none
  else if known = 0 then some ⟨.info, "Omitting linked index - no recognized columns."⟩
  else some ⟨.info,
    "Unrecognized columns in linked index. Registering the index against the leading "
      ++ s!"{known} recognized columns of {b.columns.length} total columns."⟩

end Binding

end LinkedTables
