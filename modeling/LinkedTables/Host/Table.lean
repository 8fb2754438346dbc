import LinkedTables.Cancellation
import LinkedTables.Host.Execution
import LinkedTables.Replacement
import LinkedTables.Sql.Recreation

/-!
# Linked tables

Creating a linked table connects it and takes its columns over; a table that is created by force
exists without columns if that fails. Rows are added, removed and updated by statements on the
remote side, and every change that an update made is kept in the undo log of its client. A table
that has been removed refuses everything.
-/

namespace LinkedTables

namespace LinkedTable

/-- A table that has not been connected yet. -/
def unconnected (schema : String) (id : Int) (name : String) (d : Definition)
    (defaultFetchSize : Nat) (catalogs : List Catalog) : LinkedTable where
  schema
  id
  name
  definition := d
  readOnly := d.readOnly
  fetchSize := d.fetchSize
  defaultFetchSize
  globalTemporary := d.globalTemporary
  vendor := Dialect.Vendor.ofUrl d.url
  flags := Dialect.Flags.none
  columns := []
  fillings := []
  qualifiedName := d.remoteTable
  indexes := []
  valid := true
  catalogs
  session := none
  failure := none

/-- The table in messages. -/
def shown (table : LinkedTable) : String :=
  "LinkedTable(" ++ table.schema ++ "." ++ table.name ++ " -> " ++ table.qualifiedName ++ ")"

/-- The name of the table in the undo log; a table without a name is shown. -/
def label (table : LinkedTable) : String := if table.name.isEmpty then table.shown else table.name

/-- The fault of a table that has been removed. -/
def checkValid (table : LinkedTable) : Except Fault Unit :=
  if table.valid then .ok ()
  else .error (.link (.plain .tableClosed ("Linked table " ++ table.name ++ " has been removed")))

/-- The fault of a table that must not be changed. -/
def checkWritable (table : LinkedTable) : Except Fault Unit :=
  if table.readOnly then
    .error (.link (.plain .readOnlyViolation ("Linked table " ++ table.name ++ " is read only")))
  else .ok ()

/-- The comment of a table that has not been removed. -/
def comment (table : LinkedTable) : Option String :=
  if table.valid then table.definition.comment else none

/-- The index that covers all columns. -/
def scanIndex (table : LinkedTable) : Except Fault Index := do
  table.checkValid
  return table.indexes.headD (Shape.scanIndex table.columns)

/-- The first index that admits each key once. -/
def uniqueIndex (table : LinkedTable) : Option Index := table.indexes.find? (·.isUnique)

/-- The column with a name. -/
def column? (table : LinkedTable) (name : String) : Option Column := Shape.column? table.columns name

/-- The definition with the options that the table has now. -/
def currentDefinition (table : LinkedTable) : Definition :=
  { table.definition with
    readOnly := table.readOnly
    fetchSize := table.fetchSize
    globalTemporary := table.globalTemporary }

/-- The statement that creates the table anew. -/
def creation (table : LinkedTable) : Except Fault String := do
  table.checkValid
  return Sql.creation table.schema table.name table.currentDefinition

/-- The table with another number of rows to fetch at a time. -/
def withFetchSize (table : LinkedTable) (n : Int) : Except Fault LinkedTable :=
  if n < 0 then .error (.badValue s!"Fetch size must not be negative: {n}")
  else .ok { table with fetchSize := n.toNat }

/-- The table with the filling of a column changed. -/
def withFilling (table : LinkedTable) (c : Column) (f : Filling → Filling) : LinkedTable :=
  { table with fillings := table.fillings.modify c.ordinal f }

/-- The table under its name. -/
def variant (table : LinkedTable) (t : Nat) : Variant Nat := ⟨.linked, table.name, t⟩

/-- The statement that drops the table. -/
def dropping (table : LinkedTable) : String := Sql.dropping table.schema table.name

/-- The refusal of an operation that no linked table supports. -/
def refusal (table : LinkedTable) (what : String) : Fault :=
  .link (.plain .unsupportedOperation (what ++ " is not supported on linked table " ++ table.name))

/-! ### Converting rows -/

/-- What remains to be done for the columns of a row: the row so far, the fillings of the columns,
and the fault that ended the work. -/
structure Conversion where
  row : List Value
  fillings : List Filling
  fault : Option Fault

/-- Converts the value of one column, unless it is null or an earlier one has failed. -/
def convertColumn (state : Conversion) (c : Column) : Conversion :=
  match state.fault with
  | some _ => state
  | none =>
    match state.row[c.ordinal]? with
    | none => { state with fault := some (.outOfRange false) }
    | some .null => state
    | some v =>
      match c.accept (state.fillings.getD c.ordinal Filling.none) v with
      | (.ok w, filling) =>
        ⟨state.row.set c.ordinal w, state.fillings.set c.ordinal filling, none⟩
      | (.error fault, filling) =>
        ⟨state.row, state.fillings.set c.ordinal filling, some fault⟩

/-- Converts a row for the table, column by column. -/
def convertRow (columns : List Column) (fillings : List Filling) (row : List Value) : Conversion :=
  columns.foldl convertColumn ⟨row, fillings, none⟩

end LinkedTable

/-- The number of rows, read from the value that the remote side reports for it: a fraction is
cut off, and a text has to be that of an integer. -/
def wholeCount : Value → Except Fault Int
  | .float x =>
    match Number.FinitePart.of? x with
    | some p => .ok p.truncated
    | none => .error (if x.isNaN then .malformed else .overflow)
  | v => ColumnType.toWhole v

namespace Action

/-! ### Creating and removing -/

/-- What is reported about a table that was created by force and could not be connected. -/
def forcedNotice (name : String) (failure : LinkFault) : Notice :=
  ⟨.warning, "Linked table " ++ name ++ " created without a connection: " ++ failure.message⟩

/-- The table without columns, with the index over all of them. -/
def withoutColumns (table : LinkedTable) : LinkedTable :=
  { table with columns := [], fillings := [], indexes := [Shape.scanIndex []] }

/-- Connects a new table; one created by force does without if the link fails. -/
def connectNew (t : Nat) : Action Unit := do
  match ← outcome (connect t) with
  | .ok _ => pure ()
  | .error (.link failure) =>
    let table := (← get).table t
    if table.definition.force then
      report (forcedNotice table.name failure)
      reviseTable t withoutColumns
    else throw (.link failure)
  | .error fault => throw fault

/-- Creates a linked table and connects it. -/
def createTable (table : LinkedTable) : Action Nat := do
  let t := (← get).tables.next
  modify fun h => { h with tables := h.tables.join table }
  inLink table.name (connectNew t)
  return t

/-- Removes a table for good. -/
def removeTable (t : Nat) : Action Unit := do
  closeLink t
  reviseTable t fun table => { table with indexes := [], valid := false }
  let table := (← get).table t
  report ⟨.debug, "Removed linked table " ++ table.schema ++ "." ++ table.name⟩

/-! ### The registry -/

/-- Registers a table in a schema. -/
def registerTable (schema : String) (t : Nat) : Action Unit := do
  let h ← get
  let (registry, notice) ← ofExcept (h.registry.register schema ((h.table t).variant t))
  modify fun h => { h with registry }
  report notice

/-- Drops a registered table for good. -/
def dropTable (schema name : String) : Action Unit := do
  let (registry, variant) ← ofExcept ((← get).registry.remove schema name)
  modify fun h => { h with registry }
  removeTable variant.table
  report (Registry.notice "Dropped" schema variant)

/-! ### Statements -/

/-- How the names of columns are written on the session of a table. -/
def quoteFor (h : Host) (t : Nat) : String → String :=
  match (h.table t).session with
  | some s => (Dialect.Style.ofDialect (h.session s).dialect).quote
  | none => Dialect.Style.standard.quote

/-- The name of a column as it is written on the remote side. -/
def columnText (t : Nat) (c : Column) : Action String := do
  let s ← requireSession t
  return (Dialect.Style.ofDialect ((← get).session s).dialect).quote c.remoteName

/-- Whether the link of a table is ready for use. -/
def readiness (table : LinkedTable) : Except Fault Unit := (readySession table).map fun _ => ()

/-- Executes a statement in the name of a table that has not been removed. -/
def executeNamed {α : Type} (t : Nat) (work : Action α) : Action α := do
  let table := (← get).table t
  ofExcept table.checkValid
  inLink table.name work

/-- Executes a statement about rows and hands it back. -/
def runRows (t : Nat) (client : Option Nat) (statement : Except Fault Sql.RowStatement) :
    Action Unit := do
  let statement ← ofExcept statement
  let h ← get
  executeNamed t
    (run t (statement.text (quoteFor h t) (h.table t).qualifiedName) statement.params client)

/-- Refuses the change of a table that must not be changed or has been removed. -/
def checkChange (t : Nat) : Action Unit := do
  let table := (← get).table t
  ofExcept table.checkWritable
  ofExcept table.checkValid

/-- Inserts a row on the remote side. -/
def insertRow (t : Nat) (client : Option Nat) (row : List Value) : Action Unit := do
  let table := (← get).table t
  runRows t client (Sql.insertRow (readiness table) table.columns row)

/-- Deletes a row on the remote side. -/
def deleteRow (t : Nat) (client : Option Nat) (row : List Value) : Action Unit := do
  let table := (← get).table t
  runRows t client (Sql.deleteRow (readiness table) table.name table.columns row)

/-- Turns a row into another on the remote side. -/
def updateRow (t : Nat) (client : Option Nat) (old new : List Value) : Action Unit := do
  let table := (← get).table t
  runRows t client (Sql.updateRow (readiness table) table.name table.columns old new)

/-- Adds a row to a table. -/
def addRow (t : Nat) (client : Option Nat) (row : List Value) : Action Unit := do
  checkChange t
  insertRow t client row

/-- Removes a row from a table. -/
def removeRow (t : Nat) (client : Option Nat) (row : List Value) : Action Unit := do
  checkChange t
  deleteRow t client row

/-! ### Updates -/

/-- Keeps a change in the undo log of a client. -/
def recordChange (client : Nat) (record : UndoRecord) : Action Unit :=
  modify fun h => { h with
    clients := h.clients.revise client fun c => { c with undo := c.undo ++ [record] } }

/-- Ends the work of a command that has been cancelled. -/
def checkCancelled : Action Unit := do ofExcept (Cancellation.check (← get).cancelled)

/-- Updates rows one by one on the remote side. -/
def emitUpdates (t client : Nat) (pairs : List (List Value × List Value)) : Action Unit :=
  pairs.forM fun (old, new) => do
    checkCancelled
    updateRow t (some client) old new
    let label := ((← get).table t).label
    recordChange client ⟨label, .delete, old⟩
    recordChange client ⟨label, .insert, new⟩

/-- A table as the generic replacement of rows sees it. -/
def rowStore (t client : Nat) : RowStore Action (List Value) where
  proceed := checkCancelled
  remove := removeRow t (some client)
  add := addRow t (some client)
  recordRemoved row := do recordChange client ⟨((← get).table t).label, .delete, row⟩
  recordAdded row := do recordChange client ⟨((← get).table t).label, .insert, row⟩

/-- Updates rows, given as pairs of the old and the new one: one by one on the remote side if the
link is defined so, and otherwise by removing all old rows before all new ones are added. -/
def updateRows (t client : Nat) (pairs : List (List Value × List Value)) : Action Unit := do
  checkChange t
  let table := (← get).table t
  inLink table.name
    (if table.definition.emitUpdates then emitUpdates t client pairs
    else (rowStore t client).replace pairs)

/-! ### Counting -/

/-- The query for the number of rows. -/
def countText (name : String) : String := "SELECT COUNT(*) FROM " ++ name ++ " AS T"

/-- Puts a fault of the remote side into the failure of a statement. -/
def wrapping {α : Type} (sql : String) (x : Action α) : Action α := do
  match ← outcome x with
  | .ok a => return a
  | .error fault => throw (if fault.isRemote then .link (wrapped sql fault) else fault)

/-- The number of rows of the remote table. -/
def rowCount (t : Nat) (client : Option Nat) : Action Int := do
  let sql := countText ((← get).table t).qualifiedName
  executeNamed t (wrapping sql (reading t sql [] client fun st => do
    ofExcept (wholeCount (← readSingle st))))

/-- The number of rows that is assumed without asking. -/
def assumedRowCount : Nat := 100000

/-! ### Local conversion -/

/-- Converts a row for a table; the row as far as it was converted comes back also with a fault. -/
def convertRow (t : Nat) (row : List Value) : Action (List Value × Option Fault) := do
  let table := (← get).table t
  -- What was drawn from sequences stays drawn, also when a later column fails.
  let conversion := LinkedTable.convertRow table.columns table.fillings row
  reviseTable t fun table => { table with fillings := conversion.fillings }
  return (conversion.row, conversion.fault)

end Action

end LinkedTables
