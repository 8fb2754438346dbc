import LinkedTables.Dialect.Quoting
import LinkedTables.Host.Link
import LinkedTables.Sql.Literal
import LinkedTables.Sql.RowStatement

/-!
# Executing statements on a linked table

A statement runs on the session of its table. When the remote side refuses it, the table connects
anew and the statement is tried again, `maxRetry` times at most. Statements are kept for the next
execution of the same text; one that is in use is out of the cache.
-/

namespace LinkedTables.Action

/-- The value converted for the remote side, on behalf of a client if there is one. -/
def convertFor (client : Option Nat) (v : Value) : Action Value := do
  match client with
  | none => return v
  | some c => ofExcept ((((← get).clients.at? c).getD default).convert v)

/-- The rows that a table fetches at a time: its own number, or the configured one where that is
zero. -/
def effectiveFetchSize (table : LinkedTable) : Nat :=
  if table.fetchSize = 0 then table.defaultFetchSize else table.fetchSize

/-- One attempt to execute a statement: the statement with its result open, or the fault of the
remote side. -/
def attemptExecute (t s : Nat) (sql : String) (params : List Value) (client : Option Nat) :
    Action (Except Fault Nat) := do
  -- Converted before a statement is taken, so that a value that cannot be bound leaves the cache
  -- alone.
  let values ← params.mapM (convertFor client)
  let table := (← get).table t
  let st ←
    match ← takeStatement s sql with
    | some st => pure st
    | none => prepare s sql (effectiveFetchSize table)
  report ⟨.debug, Sql.trace table.name sql params⟩
  match ← outcome (executeStatement st values) with
  | .ok _ => return .ok st
  | .error fault =>
    if fault.isRemote then
      closeStatement st
      return .error fault
    else throw fault

/-- What is reported before a statement is tried again. -/
def failedNotice (name : String) (fault : Fault) : Notice :=
  ⟨.warning, "Statement on linked table " ++ name ++ " failed, reconnecting: " ++ fault.text⟩

/-- Executes a statement on a session, with so many attempts left behind the first. -/
def executeFrom (t : Nat) (sql : String) (params : List Value) (client : Option Nat) :
    Nat → Nat → Action Nat
  | s, 0 => do
    match ← attemptExecute t s sql params client with
    | .ok st => return st
    | .error fault => throw (.link (wrapped sql fault))
  | s, left + 1 => do
    match ← attemptExecute t s sql params client with
    | .ok st => return st
    | .error fault =>
      report (failedNotice ((← get).table t).name fault)
      executeFrom t sql params client (← reconnect t (some s)) left

/-- Executes a statement, whose result is left open for the caller to hand back or close. -/
def execute (t : Nat) (sql : String) (params : List Value) (client : Option Nat) : Action Nat := do
  executeFrom t sql params client (← requireSession t) maxRetry

/-- Hands a statement back for the next execution of its text. One whose session is no longer that
of the table is closed. -/
def handBack (t st : Nat) (sql : String) : Action Unit := do
  let h ← get
  match (h.table t).session with
  | none => closeStatement st
  | some s =>
    if (h.session s).closed || (h.statement st).session ≠ s then closeStatement st
    else
      closeResult st
      putStatement s sql st

/-- Executes a statement and hands it back at once. -/
def run (t : Nat) (sql : String) (params : List Value) (client : Option Nat) : Action Unit := do
  let st ← execute t sql params client
  handBack t st sql

/-- Executes a statement, reads its result and hands the statement back; if the reading fails the
statement is closed. -/
def reading {α : Type} (t : Nat) (sql : String) (params : List Value) (client : Option Nat)
    (read : Nat → Action α) : Action α := do
  let st ← execute t sql params client
  match ← outcome (read st) with
  | .ok a =>
    handBack t st sql
    return a
  | .error fault =>
    closeStatement st
    throw fault

/-! ### Reading results -/

/-- All rows still to be fetched from a result; `fuel` bounds their number. -/
def fetchFrom (r : Nat) : Nat → Action (List (List Value))
  | 0 => return []
  | fuel + 1 => do
    match ← fetch r with
    | none => return []
    | some row => return row :: (← fetchFrom r fuel)

/-- All rows still to be fetched from a result. -/
def fetchAll (r : Nat) : Action (List (List Value)) := do
  fetchFrom r ((((← get).result r).rows).length + 1)

/-- All rows of the open result of a statement. -/
def readRows (st : Nat) : Action (List (List Value)) := do
  match ((← get).statement st).result with
  | some r => fetchAll r
  | none => return []

/-- The fault of a result that does not have a single row. -/
def notSingle (kind : RemoteFaultKind) (text : String) : Fault := .remote ⟨kind, text, none⟩

/-- The first value of the single row of a result. -/
def readSingle (st : Nat) : Action Value := do
  match ((← get).statement st).result with
  | none => throw (.internal "no result")
  | some r =>
    match ← fetch r with
    | none => throw (notSingle .noRow "No row was found when one was required")
    | some row =>
      match ← fetch r with
      | some _ =>
        throw (notSingle .manyRows "Multiple rows were found when exactly one was required")
      | none =>
        match row with
        | v :: _ => return v
        | [] => throw (.outOfRange false)

end LinkedTables.Action
