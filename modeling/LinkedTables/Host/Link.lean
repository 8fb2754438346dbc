import LinkedTables.Host.Pool

/-!
# The link of a table to its session

A table holds one remote session. Every connect reads the shape of the remote table before the
session is handed to anyone, and is attempted `maxRetry` times more when it fails; the last failure
is remembered and raised by every use of the link until it connects again. A table takes its
columns and indexes from the first shape that it reads and keeps them.
-/

namespace LinkedTables.Action

open Dialect

/-- How often an attempt that failed is repeated. -/
def maxRetry : Nat := 2

/-! ### Reading the shape -/

/-- Enters a question to a catalog in the journal, if the catalog wants it. -/
def ask (catalog : Catalog) (question : CatalogQuestion) (schema : Option String) (table : String) :
    Action Unit :=
  if catalog.journaled then note (.asked question schema table) else pure ()

/-- The columns that the result of a query without rows describes. -/
def probe (s : Nat) (name table : String) : Action (List ColumnRow) := do
  let n := ((← get).session s).connection
  note (.probed n (Shape.probeText name))
  match ← fromScript Remote.Script.probe with
  | .error fault =>
    throw (if fault.isRemote then .link (Shape.notFound table name fault) else fault)
  | .ok description =>
    note (.resultClosed n none)
    ofExcept (Probe.rows (← get).script.typeObjects description)

/-- The columns that the catalog reports and the schema in which it reports them; a table that
several schemas have is refused. -/
def readCatalogColumns (catalog : Catalog) (canonicalName : String → String)
    (schema : Option String) (table : String) : Action (List Column × Option String) := do
  ask catalog .tables schema table
  let found ← ofExcept (catalog.tables schema table).toList
  if 1 < found.length then throw (.link (Shape.ambiguous table found))
  ask catalog .columns schema table
  ofExcept (Shape.catalogColumns canonicalName (catalog.columns schema table))

/-- The primary key and the other indexes that the catalog reports. -/
def readCatalogIndexes (catalog : Catalog) (resolve : Reconstruction.Resolver)
    (schema : Option String) (table : String) : Action (List Index) := do
  ask catalog .primaryKeys schema table
  let (r, notices) := Reconstruction.readKey resolve table (catalog.primaryKeys schema table)
  reportAll notices
  let (primary, key) ← ofExcept r
  ask catalog .indexInfo schema table
  let (r, notices) := Reconstruction.readOthers resolve table key (catalog.indexInfo schema table)
  reportAll notices
  return primary.toList ++ (← ofExcept r)

/-- Reads the shape of the remote table over a session. A query is always asked once, which shows
that the table can be read. -/
def readShape (d : Definition) (catalog : Catalog) (s : Nat) : Action Shape := do
  -- The flags say how names are made canonical, so they come first.
  reviseSession s fun session => { session with flags := catalog.flags }
  let vendor := ((← get).session s).vendor
  let canonicalName := canonical catalog.flags vendor
  let (reported, schema) ←
    if d.isQuery then pure ([], none)
    else readCatalogColumns catalog canonicalName d.remoteSchema d.remoteTable
  let name := Shape.qualified d.remoteTable schema
  let probed ← probe s name d.remoteTable
  let columns := if reported.isEmpty then Shape.columnsOf canonicalName probed else reported
  let resolve : Reconstruction.Resolver := fun reported =>
    Shape.column? columns (canonicalName reported)
  let others ←
    if d.isQuery then pure []
    else readCatalogIndexes catalog resolve d.remoteSchema d.remoteTable
  let shape : Shape := ⟨columns, name, d.isQuery, catalog.flags, vendor, others, schema⟩
  report shape.notice
  return shape

/-! ### Taking the shape over -/

/-- The table with the columns and indexes of a shape. -/
def adopted (shape : Shape) (table : LinkedTable) : LinkedTable :=
  { table with
    columns := shape.columns
    fillings := shape.columns.map fun _ => Filling.none
    qualifiedName := shape.qualifiedName
    indexes := shape.indexes }

/-- What is reported when the remote table has other columns than before. -/
def changedNotice (shape : Shape) (table : LinkedTable) : Notice :=
  ⟨.warning, "Remote table " ++ shape.qualifiedName
    ++ " changed shape since it was linked; keeping columns "
    ++ Shape.listed (table.columns.map (·.name))⟩

/-- The catalog of the next connect of a table. -/
def nextCatalog (t : Nat) : Action Catalog := do
  match ((← get).table t).catalogs with
  | [] => throw (.internal "no catalog")
  | [catalog] => return catalog
  | catalog :: rest =>
    reviseTable t fun table => { table with catalogs := rest }
    return catalog

/-- Reads the shape over a new session. The first one is taken over; of a later one only the flags
are, and other columns are reported. -/
def handshake (t s : Nat) : Action Unit := do
  let shape ← readShape ((← get).table t).definition (← nextCatalog t) s
  reviseTable t fun table => { table with flags := shape.flags }
  let table := (← get).table t
  -- Every shape has an index, so a table without one has not taken any over.
  if table.indexes.isEmpty then reviseTable t (adopted shape)
  else if shape.columnNames ≠ table.columns.map (·.name) then report (changedNotice shape table)

/-! ### Connecting -/

/-- The failure of a call on the way to a connected table. -/
def connectFault (what name : String) (cause : Fault) : LinkFault :=
  let text := cause.remoteMessage
  ⟨.connectFailure, "Error " ++ what ++ " for linked table " ++ name ++ ", cause: " ++ text, none,
    some text, none⟩

/-- The faults of acquiring a session after which another attempt is made. -/
def isConnectFault : Fault → Bool
  | .remote _ | .breaker _ => true
  | _ => false

/-- One attempt to connect: a session that has been through the handshake, or the failure. -/
def attemptConnect (t : Nat) : Action (Except LinkFault Nat) := do
  let table := (← get).table t
  match ← outcome (acquire table.definition.key) with
  | .error fault =>
    if isConnectFault fault then return .error (connectFault "opening connection" table.name fault)
    else throw fault
  | .ok s =>
    match ← outcome (handshake t s) with
    | .ok () => return .ok s
    | .error fault =>
      -- A session whose shape cannot be read is closed, also if other tables share it.
      release s true
      match fault with
      | .link failure => return .error failure
      | fault => return .error (connectFault "reading metadata" table.name fault)

/-- Remembers a failure and raises it. -/
def giveUp (t : Nat) (failure : LinkFault) : Action Nat := do
  reviseTable t fun table => { table with failure := some failure }
  throw (.link failure)

/-- What is reported before another attempt. -/
def retryNotice (attempt : Nat) (name : String) (failure : LinkFault) : Notice :=
  ⟨.warning,
    s!"Connect attempt {attempt} for linked table " ++ name ++ " failed, retrying: "
      ++ failure.message⟩

/-- Makes a session that of the table. -/
def hold (t s : Nat) : Action Nat := do
  reviseTable t fun table => { table with session := some s }
  return s

/-- Attempts to connect, from an attempt with a number on, with so many left behind it. -/
def connectFrom (t : Nat) : Nat → Nat → Action Nat
  | _, 0 => do
    match ← attemptConnect t with
    | .ok s => hold t s
    | .error failure => giveUp t failure
  | attempt, left + 1 => do
    match ← attemptConnect t with
    | .ok s => hold t s
    | .error failure =>
      if failure.kind.isFinal then giveUp t failure
      else
        report (retryNotice attempt ((← get).table t).name failure)
        connectFrom t (attempt + 1) left

/-- Connects a table, with a fresh count of attempts; a failure from before is forgotten. -/
def connect (t : Nat) : Action Nat := do
  reviseTable t fun table => { table with failure := none }
  connectFrom t 1 maxRetry

/-- Gives the session of a table up by force. -/
def giveUpSession (t : Nat) : Action Unit := do
  let held := ((← get).table t).session
  reviseTable t fun table => { table with session := none }
  match held with
  | some s => release s true
  | none => pure ()

/-- The session that has replaced a failed one already: an open one that is another. -/
def replacement? (h : Host) (t : Nat) (failed : Option Nat) : Option Nat :=
  match failed, (h.table t).session with
  | some old, some s => if s ≠ old && !(h.session s).closed then some s else none
  | _, _ => none

/-- Connects a table anew. If the session that failed has been replaced already, the replacement
stays. -/
def reconnect (t : Nat) (failed : Option Nat) : Action Nat := do
  match replacement? (← get) t failed with
  | some s => return s
  | none =>
    giveUpSession t
    connect t

/-- The session of a table, or what keeps it from having one. -/
def readySession (table : LinkedTable) : Except Fault Nat :=
  match table.failure, table.session with
  | some failure, _ => .error (.link failure)
  | none, some s => .ok s
  | none, none =>
    .error (.link (.plain .connectFailure ("Linked table " ++ table.name ++ " is not connected")))

/-- The session of a table. -/
def requireSession (t : Nat) : Action Nat := do ofExcept (readySession ((← get).table t))

/-- Releases the session of a table. -/
def closeLink (t : Nat) : Action Unit := do
  let held := ((← get).table t).session
  reviseTable t fun table => { table with session := none }
  match held with
  | some s => release s false
  | none => pure ()

end LinkedTables.Action
