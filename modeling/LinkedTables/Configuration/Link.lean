import LinkedTables.Definition

/-!
# Declared links

A `LinkConfig` declares a linked table in a configuration file, and a `LinkFile` holds all links of
such a file. Of a link no unknown field is accepted; the local schema may be given under either of
its two names.
-/

namespace LinkedTables.Configuration

open Schema

/-- The declaration of a linked table. -/
structure LinkConfig where
  name : String
  schema : String
  description : Option String
  driver : Option String
  url : String
  user : Option String
  password : Option String
  remoteSchema : Option String
  remoteTable : String
  emitUpdates : Bool
  force : Bool
  readOnly : Bool
  fetchSize : Nat
  temporary : Bool
  globalTemporary : Bool
deriving DecidableEq, Repr, Inhabited

namespace LinkConfig

/-- The local schema of a link that names none. -/
def standardSchema : String := "PUBLIC"

/-- The fields other than the local schema. -/
def fieldNames : List String :=
  ["name", "description", "driver", "url", "user", "password", "remote_schema", "remote_table",
    "emit_updates", "force", "read_only", "fetch_size", "temporary", "global_temporary"]

/-- The two names of the local schema; the first goes before the second. -/
def schemaNames : List String := ["schema", "schema_name"]

/-- The name under which the local schema is given, if it is. -/
def schemaName? (entries : Entries) : Option String :=
  schemaNames.find? fun name => (find? entries name).isSome

/-- Reads the local schema. -/
def readSchema (entries : Entries) : Checked String :=
  match (schemaName? entries).bind (find? entries) with
  | some v => (check text v).under (.field "schema")
  | none => .good standardSchema

/-- Reads a declaration from named fields. -/
def ofFields (entries : Entries) : Checked LinkConfig :=
  let config := LinkConfig.mk
    <$> required entries "name" text
    <*> readSchema entries
    <*> field entries "description" none (optional text)
    <*> field entries "driver" none (optional text)
    <*> required entries "url" text
    <*> field entries "user" none (optional text)
    <*> field entries "password" none (optional secret)
    <*> field entries "remote_schema" none (optional text)
    <*> required entries "remote_table" text
    <*> field entries "emit_updates" false truth
    <*> field entries "force" false truth
    <*> field entries "read_only" false truth
    <*> field entries "fetch_size" 0 (wholeFrom 0)
    <*> field entries "temporary" false truth
    <*> field entries "global_temporary" false truth
  config.withFaults (strangers entries (fieldNames ++ (schemaName? entries).toList))

/-- The fields of a declaration. -/
def toFields (c : LinkConfig) : Entries :=
  [("name", .text c.name), ("schema_name", .text c.schema), ("description", .ofText? c.description),
    ("driver", .ofText? c.driver), ("url", .text c.url), ("user", .ofText? c.user),
    ("password", .ofSecret? c.password), ("remote_schema", .ofText? c.remoteSchema),
    ("remote_table", .text c.remoteTable), ("emit_updates", .bool c.emitUpdates),
    ("force", .bool c.force), ("read_only", .bool c.readOnly), ("fetch_size", .int c.fetchSize),
    ("temporary", .bool c.temporary), ("global_temporary", .bool c.globalTemporary)]

/-- The definition of the declared table. -/
def definition (c : LinkConfig) : Definition where
  driver := c.driver
  url := c.url
  user := c.user
  password := c.password
  remoteSchema := c.remoteSchema
  remoteTable := c.remoteTable
  emitUpdates := c.emitUpdates
  force := c.force
  readOnly := c.readOnly
  fetchSize := c.fetchSize
  temporary := c.temporary
  globalTemporary := c.globalTemporary
  comment := c.description

/-- Reads a declaration from a value. -/
def ofValue (v : Value) : Checked LinkConfig :=
  match v with
  | .dict entries => ofFields entries
  | _ => .bad [⟨[], "model_type"⟩]

end LinkConfig

/-- The links of a configuration file. -/
structure LinkFile where
  version : Int
  links : List LinkConfig
deriving DecidableEq, Repr, Inhabited

namespace LinkFile

/-- Reads the list of links. -/
def readLinks (entries : Entries) : Checked (List LinkConfig) :=
  (match find? entries "links" with
    | some (.list vs) => items LinkConfig.ofValue vs
    | some _ => .bad [⟨[], "list_type"⟩]
    | none => .bad [⟨[], "missing"⟩]).under (.field "links")

/-- Reads a file; an empty one has no fields. -/
def ofValue (v : Value) : Checked LinkFile :=
  match if v.isTruthy then v else .dict [] with
  | .dict entries => LinkFile.mk <$> field entries "version" 1 whole <*> readLinks entries
  | _ => .bad [⟨[], "model_type"⟩]

end LinkFile

end LinkedTables.Configuration
