import LinkedTables.Host.Cursor

/-!
# Operations on the host

An `Operation` is what a user of the host can ask for, and a `Reply` what comes back. `Host.perform`
does one operation, with its fault if it ends in one, and `Host.after` is the host behind a run of
operations, each of which may have failed.
-/

namespace LinkedTables

/-- What can be asked of a host. Tables, sessions, statements, results, cursors and clients go by
their numbers. -/
inductive Operation where
  /-- A client joins, with its way to convert the values that are bound. -/
  | join (convert : Value → Except Fault Value)
  | clearUndo (client : Nat)
  | createTable (table : LinkedTable)
  | addRow (t : Nat) (client : Option Nat) (row : List Value)
  | removeRow (t : Nat) (client : Option Nat) (row : List Value)
  /-- Pairs of the old and the new row; the command may be cancelled from the start. -/
  | updateRows (t client : Nat) (cancelled : Bool) (pairs : List (List Value × List Value))
  | rowCount (t : Nat) (client : Option Nat)
  | openScan (t : Nat) (client : Option Nat)
  | openFind (t : Nat) (index : Index) (client : Option Nat) (first last : Option (List Value))
  | next (c : Nat)
  | drain (c : Nat)
  | closeCursor (c : Nat)
  /-- The statement is kept for the caller, or handed back at once. -/
  | execute (t : Nat) (client : Option Nat) (sql : String) (params : List Value) (keep : Bool)
  /-- All rows of a query; the reader may fail before it reads them. -/
  | query (t : Nat) (client : Option Nat) (sql : String) (params : List Value)
      (failure : Option Fault)
  | handBack (t st : Nat) (sql : String)
  | convertRow (t : Nat) (row : List Value)
  | setReadOnly (t : Nat) (b : Bool)
  | setGlobalTemporary (t : Nat) (b : Bool)
  | setFetchSize (t : Nat) (n : Int)
  | setDefault (t : Nat) (c : Column) (default : Option Default)
  | setSequence (t : Nat) (c : Column) (sequence : Option Sequence)
  | connect (t : Nat)
  | reconnect (t : Nat) (failed : Option Nat)
  | giveUpSession (t : Nat)
  | closeLink (t : Nat)
  | removeTable (t : Nat)
  | registerTable (schema : String) (t : Nat)
  | dropTable (schema name : String)
  | acquire (key : LinkKey)
  | release (s : Nat) (force : Bool)
  | closePool
  | prepare (s : Nat) (sql : String) (fetchSize : Int)
  | executeStatement (st : Nat) (params : List Value)
  | fetchAll (r : Nat)
  | closeStatement (st : Nat)
  | putStatement (s : Nat) (sql : String) (st : Nat)
  | takeStatement (s : Nat) (sql : String)
  | clearStatements (s : Nat)
  | discard (s : Nat) (force : Bool)

/-- What an operation comes back with. -/
inductive Reply where
  | done
  | client (c : Nat)
  | table (t : Nat)
  | session (s : Nat)
  | statement (st : Option Nat)
  | result (r : Nat)
  | cursor (c : Nat)
  | number (n : Int)
  | row (row : Option (List Value))
  | rows (rows : List (List Value))
  /-- A row as far as it was converted, and what ended the conversion early. -/
  | converted (row : List Value) (fault : Option Fault)
deriving Inhabited

namespace Action

/-- An action whose result does not matter. -/
def silently (x : Action Unit) : Action Reply := do
  x
  return .done

/-- A client joins the host. -/
def joinClient (convert : Value → Except Fault Value) : Action Nat := do
  let c := (← get).clients.next
  modify fun h => { h with clients := h.clients.join ⟨convert, []⟩ }
  return c

/-- Forgets the changes that a client has recorded. -/
def clearUndo (client : Nat) : Action Unit :=
  modify fun h => { h with clients := h.clients.revise client fun c => { c with undo := [] } }

/-- Begins a command. -/
def beginCommand (cancelled : Bool) : Action Unit := modify fun h => { h with cancelled }

/-- Executes a statement in the name of a table, to be kept or handed back. -/
def executeFor (t : Nat) (client : Option Nat) (sql : String) (params : List Value) (keep : Bool) :
    Action (Option Nat) :=
  executeNamed t do
    if keep then return some (← execute t sql params client)
    else
      run t sql params client
      return none

/-- Reads all rows of a query, unless the reader fails before. -/
def query (t : Nat) (client : Option Nat) (sql : String) (params : List Value)
    (failure : Option Fault) : Action (List (List Value)) :=
  reading t sql params client fun st => do
    match failure with
    | some fault => throw fault
    | none => readRows st

/-- Changes the number of rows that a table fetches at a time. -/
def setFetchSize (t : Nat) (n : Int) : Action Unit := do
  let table ← ofExcept (((← get).table t).withFetchSize n)
  reviseTable t fun _ => table

end Action

/-- Does an operation. -/
def Operation.perform : Operation → Action Reply
  | join convert => return .client (← Action.joinClient convert)
  | clearUndo client => Action.silently (Action.clearUndo client)
  | createTable table => return .table (← Action.createTable table)
  | addRow t client row => Action.silently (Action.addRow t client row)
  | removeRow t client row => Action.silently (Action.removeRow t client row)
  | updateRows t client cancelled pairs => Action.silently do
    Action.beginCommand cancelled
    Action.updateRows t client pairs
  | rowCount t client => return .number (← Action.rowCount t client)
  | openScan t client => return .cursor (← Action.openScan t client)
  | openFind t index client first last =>
    return .cursor (← Action.openFind t index client first last)
  | next c => return .row (← Action.next c)
  | drain c => return .rows (← Action.drain c)
  | closeCursor c => Action.silently (Action.closeCursor c)
  | execute t client sql params keep =>
    return .statement (← Action.executeFor t client sql params keep)
  | query t client sql params failure =>
    return .rows (← Action.query t client sql params failure)
  | handBack t st sql => Action.silently (Action.handBack t st sql)
  | convertRow t row => return (fun (row, fault) => .converted row fault) (← Action.convertRow t row)
  | setReadOnly t b =>
    Action.silently (Action.reviseTable t fun table => { table with readOnly := b })
  | setGlobalTemporary t b =>
    Action.silently (Action.reviseTable t fun table => { table with globalTemporary := b })
  | setFetchSize t n => Action.silently (Action.setFetchSize t n)
  | setDefault t c default => Action.silently (Action.reviseTable t fun table =>
    table.withFilling c fun filling => { filling with default })
  | setSequence t c sequence => Action.silently (Action.reviseTable t fun table =>
    table.withFilling c fun filling => { filling with sequence })
  | connect t => return .session (← Action.connect t)
  | reconnect t failed => return .session (← Action.reconnect t failed)
  | giveUpSession t => Action.silently (Action.giveUpSession t)
  | closeLink t => Action.silently (Action.closeLink t)
  | removeTable t => Action.silently (Action.removeTable t)
  | registerTable schema t => Action.silently (Action.registerTable schema t)
  | dropTable schema name => Action.silently (Action.dropTable schema name)
  | acquire key => return .session (← Action.acquire key)
  | release s force => Action.silently (Action.release s force)
  | closePool => Action.silently Action.closePool
  | prepare s sql fetchSize => return .statement (some (← Action.prepare s sql fetchSize))
  | executeStatement st params => return .result (← Action.executeStatement st params)
  | fetchAll r => return .rows (← Action.fetchAll r)
  | closeStatement st => Action.silently (Action.closeStatement st)
  | putStatement s sql st => Action.silently (Action.putStatement s sql st)
  | takeStatement s sql => return .statement (← Action.takeStatement s sql)
  | clearStatements s => Action.silently (Action.clearStatements s)
  | discard s force => Action.silently (Action.discard s force)

/-- Does an action on a host: its outcome, and the host behind it. -/
def Host.act {α : Type} (h : Host) (x : Action α) : Except Fault α × Host := (ExceptT.run x).run h

/-- Does an operation on a host. -/
def Host.perform (h : Host) (operation : Operation) : Except Fault Reply × Host :=
  h.act operation.perform

/-- The host behind a run of operations. -/
def Host.after (h : Host) (operations : List Operation) : Host :=
  operations.foldl (fun h operation => (h.perform operation).2) h

end LinkedTables
