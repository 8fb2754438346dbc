import LinkedTables.Host.Operation

/-!
# Executors

What a linked table does with statements rests on two actions: one attempt to execute a statement,
and handing a statement back. An `Executor` is a choice of these two, and every operation can be
done with any executor (`Executor.perform`). With the `cached` one the operations are those of the
host (`perform_cached`); the `fresh` one keeps no statements: each attempt prepares a new one, and
a statement that is handed back is closed.
-/

namespace LinkedTables

/-- How statements are executed and handed back. -/
structure Executor where
  /-- One attempt to execute a statement: the statement with its result open, or the fault of the
  remote side. -/
  attempt (t s : Nat) (sql : String) (params : List Value) (client : Option Nat) :
    Action (Except Fault Nat)
  handBack (t st : Nat) (sql : String) : Action Unit

namespace Executor

open LinkedTables.Action hiding attemptExecute handBack

/-- Executes a statement and closes it if the remote side refuses it. -/
def tryStatement (st : Nat) (values : List Value) : Action (Except Fault Nat) := do
  match ← outcome (executeStatement st values) with
  | .ok _ => return .ok st
  | .error fault =>
    if fault.isRemote then
      closeStatement st
      return .error fault
    else throw fault

/-- The executor that keeps idle statements on their session. -/
def cached : Executor := ⟨Action.attemptExecute, Action.handBack⟩

/-- One attempt with a statement prepared for it. -/
def attemptFresh (t s : Nat) (sql : String) (params : List Value) (client : Option Nat) :
    Action (Except Fault Nat) := do
  let values ← params.mapM (convertFor client)
  let table := (← get).table t
  let st ← prepare s sql (effectiveFetchSize table)
  report ⟨.debug, Sql.trace table.name sql params⟩
  tryStatement st values

/-- The executor that keeps no statements. -/
def fresh : Executor := ⟨attemptFresh, fun _ st _ => closeStatement st⟩

variable (e : Executor)

/-! ### Statements -/

/-- Executes a statement on a session, with so many attempts left behind the first. -/
def executeFrom (t : Nat) (sql : String) (params : List Value) (client : Option Nat) :
    Nat → Nat → Action Nat
  | s, 0 => do
    match ← e.attempt t s sql params client with
    | .ok st => return st
    | .error fault => throw (.link (wrapped sql fault))
  | s, left + 1 => do
    match ← e.attempt t s sql params client with
    | .ok st => return st
    | .error fault =>
      report (failedNotice ((← get).table t).name fault)
      executeFrom t sql params client (← reconnect t (some s)) left

/-- Executes a statement, whose result is left open for the caller to hand back or close. -/
def execute (t : Nat) (sql : String) (params : List Value) (client : Option Nat) : Action Nat := do
  e.executeFrom t sql params client (← requireSession t) maxRetry

/-- Executes a statement and hands it back at once. -/
def run (t : Nat) (sql : String) (params : List Value) (client : Option Nat) : Action Unit := do
  let st ← e.execute t sql params client
  e.handBack t st sql

/-- Executes a statement, reads its result and hands the statement back; if the reading fails the
statement is closed. -/
def reading {α : Type} (t : Nat) (sql : String) (params : List Value) (client : Option Nat)
    (read : Nat → Action α) : Action α := do
  let st ← e.execute t sql params client
  match ← outcome (read st) with
  | .ok a =>
    e.handBack t st sql
    return a
  | .error fault =>
    closeStatement st
    throw fault

/-! ### Rows -/

/-- Executes a statement about rows and hands it back. -/
def runRows (t : Nat) (client : Option Nat) (statement : Except Fault Sql.RowStatement) :
    Action Unit := do
  let statement ← Action.ofExcept statement
  let h ← get
  executeNamed t
    (e.run t (statement.text (quoteFor h t) (h.table t).qualifiedName) statement.params client)

/-- Adds a row to a table. -/
def addRow (t : Nat) (client : Option Nat) (row : List Value) : Action Unit := do
  checkChange t
  let table := (← get).table t
  e.runRows t client (Sql.insertRow (readiness table) table.columns row)

/-- Removes a row from a table. -/
def removeRow (t : Nat) (client : Option Nat) (row : List Value) : Action Unit := do
  checkChange t
  let table := (← get).table t
  e.runRows t client (Sql.deleteRow (readiness table) table.name table.columns row)

/-- Turns a row into another on the remote side. -/
def updateRow (t : Nat) (client : Option Nat) (old new : List Value) : Action Unit := do
  let table := (← get).table t
  e.runRows t client (Sql.updateRow (readiness table) table.name table.columns old new)

/-- Updates rows one by one on the remote side. -/
def emitUpdates (t client : Nat) (pairs : List (List Value × List Value)) : Action Unit :=
  pairs.forM fun (old, new) => do
    checkCancelled
    e.updateRow t (some client) old new
    let label := ((← get).table t).label
    recordChange client ⟨label, .delete, old⟩
    recordChange client ⟨label, .insert, new⟩

/-- A table as the generic replacement of rows sees it. -/
def rowStore (t client : Nat) : RowStore Action (List Value) where
  proceed := checkCancelled
  remove := e.removeRow t (some client)
  add := e.addRow t (some client)
  recordRemoved row := do recordChange client ⟨((← get).table t).label, .delete, row⟩
  recordAdded row := do recordChange client ⟨((← get).table t).label, .insert, row⟩

/-- Updates rows, given as pairs of the old and the new one. -/
def updateRows (t client : Nat) (pairs : List (List Value × List Value)) : Action Unit := do
  checkChange t
  let table := (← get).table t
  inLink table.name
    (if table.definition.emitUpdates then e.emitUpdates t client pairs
    else (e.rowStore t client).replace pairs)

/-- The number of rows of the remote table. -/
def rowCount (t : Nat) (client : Option Nat) : Action Int := do
  let sql := countText ((← get).table t).qualifiedName
  executeNamed t (wrapping sql (e.reading t sql [] client fun st => do
    Action.ofExcept (wholeCount (← readSingle st))))

/-! ### Cursors and queries -/

/-- The next row of a result, where the cursor ends behind the last row and with a fault. -/
def readNext (c : Nat) (cursor : Cursor) (st r : Nat) : Action (Option (List Value)) := do
  match ← outcome (fetch r) with
  | .ok (some row) => return some row
  | .ok none =>
    endCursor c
    e.handBack cursor.table st cursor.sql
    return none
  | .error fault =>
    endCursor c
    closeStatement st
    throw fault

/-- The first row of a cursor, for which its query runs. -/
def readFirst (c : Nat) (cursor : Cursor) : Action (Option (List Value)) := do
  match ← outcome (e.execute cursor.table cursor.sql cursor.params cursor.client) with
  | .error fault =>
    endCursor c
    throw fault
  | .ok st =>
    match ((← get).statement st).result with
    | none =>
      endCursor c
      return none
    | some r =>
      reviseCursor c fun cursor => { cursor with phase := .reading st r }
      e.readNext c cursor st r

/-- The next row of a cursor, if there is one. -/
def next (c : Nat) : Action (Option (List Value)) := do
  let cursor := (← get).cursor c
  match cursor.phase with
  | .ended => return none
  | .reading st r => e.readNext c cursor st r
  | .fresh => e.readFirst c cursor

/-- All rows still to come; `fuel` bounds their number. -/
def drainFrom (c : Nat) : Nat → Action (List (List Value))
  | 0 => return []
  | fuel + 1 => do
    match ← e.next c with
    | none => return []
    | some row => return row :: (← drainFrom c fuel)

/-- All rows still to come from a cursor. -/
def drain (c : Nat) : Action (List (List Value)) := do
  match ← e.next c with
  | none => return []
  | some row => return row :: (← e.drainFrom c (remaining (← get) c + 1))

/-- Executes a statement in the name of a table, to be kept or handed back. -/
def executeFor (t : Nat) (client : Option Nat) (sql : String) (params : List Value) (keep : Bool) :
    Action (Option Nat) :=
  executeNamed t do
    if keep then return some (← e.execute t sql params client)
    else
      e.run t sql params client
      return none

/-- Reads all rows of a query, unless the reader fails before. -/
def query (t : Nat) (client : Option Nat) (sql : String) (params : List Value)
    (failure : Option Fault) : Action (List (List Value)) :=
  e.reading t sql params client fun st => do
    match failure with
    | some fault => throw fault
    | none => readRows st

/-! ### Operations -/

/-- Does an operation with an executor. -/
def perform : Operation → Action Reply
  | .addRow t client row => silently (e.addRow t client row)
  | .removeRow t client row => silently (e.removeRow t client row)
  | .updateRows t client cancelled pairs => silently do
    beginCommand cancelled
    e.updateRows t client pairs
  | .rowCount t client => return .number (← e.rowCount t client)
  | .next c => return .row (← e.next c)
  | .drain c => return .rows (← e.drain c)
  | .execute t client sql params keep =>
    return .statement (← e.executeFor t client sql params keep)
  | .query t client sql params failure => return .rows (← e.query t client sql params failure)
  | .handBack t st sql => silently (e.handBack t st sql)
  | operation => operation.perform

/-! ### The executor of the host -/

theorem executeFrom_cached : cached.executeFrom = Action.executeFrom := by
  funext t sql params client s left
  induction left generalizing s with
  | zero => rfl
  | succ left ih =>
    have e : (fun s => cached.executeFrom t sql params client s left)
        = fun s => Action.executeFrom t sql params client s left := funext ih
    unfold executeFrom Action.executeFrom
    simp only [ih]
    rfl

theorem execute_cached : cached.execute = Action.execute := by
  funext t sql params client
  rw [execute, executeFrom_cached]
  rfl

theorem run_cached : cached.run = Action.run := by
  funext t sql params client
  rw [run, execute_cached]
  rfl

theorem reading_cached {α : Type} : cached.reading (α := α) = Action.reading := by
  funext t sql params client read
  rw [reading, execute_cached]
  rfl

theorem addRow_cached : cached.addRow = Action.addRow := by
  funext t client row
  simp only [addRow, runRows, run_cached]
  rfl

theorem removeRow_cached : cached.removeRow = Action.removeRow := by
  funext t client row
  simp only [removeRow, runRows, run_cached]
  rfl

theorem updateRows_cached : cached.updateRows = Action.updateRows := by
  funext t client pairs
  simp only [updateRows, emitUpdates, updateRow, runRows, run_cached, rowStore, addRow_cached,
    removeRow_cached]
  rfl

theorem rowCount_cached : cached.rowCount = Action.rowCount := by
  funext t client
  simp only [rowCount, reading_cached]
  rfl

theorem next_cached : cached.next = Action.next := by
  funext c
  simp only [next, readFirst, execute_cached]
  rfl

theorem drainFrom_cached : cached.drainFrom = Action.drainFrom := by
  funext c fuel
  induction fuel with
  | zero => rfl
  | succ fuel ih =>
    simp only [drainFrom, next_cached, ih]
    rfl

theorem drain_cached : cached.drain = Action.drain := by
  funext c
  simp only [drain, next_cached, drainFrom_cached]
  rfl

/-- The operations of the host are those of the executor that keeps idle statements. -/
theorem perform_cached (operation : Operation) :
    cached.perform operation = operation.perform := by
  cases operation <;>
    simp only [perform, addRow_cached, removeRow_cached, updateRows_cached, rowCount_cached,
      next_cached, drain_cached, executeFor, execute_cached, run_cached, query, reading_cached] <;>
    rfl

end Executor

end LinkedTables
