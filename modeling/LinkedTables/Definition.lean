import LinkedTables.Schema

/-!
# Link definitions

A `Definition` says which remote table a linked table stands for and with which options.
`Definition.ofFields` reads one from named fields, `Definition.toFields` writes it as such, and
`Definition.key` is the target by which remote sessions are pooled.
-/

namespace LinkedTables

/-- The remote target of a link; sessions are pooled by it. -/
structure LinkKey where
  driver : Option String
  url : String
  user : Option String
  password : Option String
deriving DecidableEq, Repr, Inhabited

/-- What a linked table is made from. -/
structure Definition where
  driver : Option String
  url : String
  user : Option String
  password : Option String
  /-- The remote schema; all schemas are searched when there is none. -/
  remoteSchema : Option String
  /-- The remote table, or a query in parentheses. -/
  remoteTable : String
  emitUpdates : Bool
  force : Bool
  readOnly : Bool
  fetchSize : Nat
  temporary : Bool
  globalTemporary : Bool
  comment : Option String
deriving DecidableEq, Repr, Inhabited

namespace Definition

/-- Reads a definition; fields that it does not know are passed over. -/
def ofFields (entries : Schema.Entries) : Checked Definition :=
  open Schema in
  Definition.mk
    <$> field entries "driver" none (optional text)
    <*> required entries "url" text
    <*> field entries "user" none (optional text)
    <*> field entries "password" none (optional secret)
    <*> field entries "remote_schema" none (optional text)
    <*> required entries "remote_table" text
    <*> field entries "emit_updates" false truth
    <*> field entries "force" false truth
    <*> field entries "read_only" false truth
    <*> field entries "fetch_size" 0 (wholeFrom 0)
    <*> field entries "temporary" false truth
    <*> field entries "global_temporary" false truth
    <*> field entries "comment" none (optional text)

/-- The fields of a definition. -/
def toFields (d : Definition) : Schema.Entries :=
  [("driver", .ofText? d.driver), ("url", .text d.url), ("user", .ofText? d.user),
    ("password", .ofSecret? d.password), ("remote_schema", .ofText? d.remoteSchema),
    ("remote_table", .text d.remoteTable), ("emit_updates", .bool d.emitUpdates),
    ("force", .bool d.force), ("read_only", .bool d.readOnly), ("fetch_size", .int d.fetchSize),
    ("temporary", .bool d.temporary), ("global_temporary", .bool d.globalTemporary),
    ("comment", .ofText? d.comment)]

/-- The remote target. -/
def key (d : Definition) : LinkKey := ⟨d.driver, d.url, d.user, d.password⟩

/-- The link names a query and no table. -/
def isQuery (d : Definition) : Bool := d.remoteTable.toList.head? == some '('

end Definition

end LinkedTables
