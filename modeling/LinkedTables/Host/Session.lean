import LinkedTables.Host.State
import LinkedTables.Sql.Marker

/-!
# Remote sessions and their statements

A statement is prepared on a session and executed with parameters by place. A session keeps idle
statements under their text; one that is taken out is in the cache no longer, so that it has a
single user. Discarding a session closes its connection and every statement that it keeps.
-/

namespace LinkedTables.Action

/-! ### Statements -/

/-- Prepares a statement on a session. -/
def prepare (s : Nat) (sql : String) (fetchSize : Int) : Action Nat := do
  let st := (← get).statements.next
  modify fun h =>
    { h with statements := h.statements.join ⟨s, sql, fetchSize, none, false⟩ }
  return st

/-- Closes the open result of a statement, if there is one. -/
def closeResult (st : Nat) : Action Unit := do
  let h ← get
  match (h.statement st).result with
  | none => pure ()
  | some r =>
    note (.resultClosed (h.result r).connection (some r))
    reviseResult r fun result => { result with closed := true }
    reviseStatement st fun statement => { statement with result := none }

/-- Closes a statement and its open result. -/
def closeStatement (st : Nat) : Action Unit := do
  closeResult st
  reviseStatement st fun statement => { statement with closed := true }

/-- The fault of a resource that is closed. -/
def closedResource (text : String) : Fault := .remote ⟨.closedResource, text, none⟩

/-- Executes a statement with its parameters by place and opens its result. A result that is still
open is closed first. -/
def executeStatement (st : Nat) (params : List Value) : Action Nat := do
  closeResult st
  let h ← get
  let statement := h.statement st
  let session := h.session statement.session
  let (sent, _) := Sql.numberMarkers statement.sql
  note (.executed session.connection sent params statement.fetchSize)
  -- The statement counts as sent, though a session that is closed refuses it.
  if session.closed then throw (closedResource "This Connection is closed")
  let answer ← ofExcept (← fromScript Remote.Script.execute)
  let r := (← get).results.next
  modify fun h =>
    { h with
      cancelled := h.cancelled || answer.cancels
      results := h.results.join ⟨session.connection, answer.rows, false⟩ }
  reviseStatement st fun statement => { statement with result := some r }
  return r

/-- Fetches the next row of a result, or nothing behind the last one. -/
def fetch (r : Nat) : Action (Option (List Value)) := do
  let result := (← get).result r
  match result.rows with
  | [] => return none
  | row :: rest =>
    -- Behind the last row nothing is asked of the result, so that it may be closed then.
    if result.closed then throw (closedResource "This result object is closed.")
    reviseResult r fun result => { result with rows := rest }
    match row with
    | .ok values => return some values
    | .error fault => throw fault

/-! ### The cache of a session -/

/-- Takes the idle statement with a text out of the cache. -/
def takeStatement (s : Nat) (sql : String) : Action (Option Nat) := do
  let found := (← get).session s |>.cache.value? sql
  reviseSession s fun session => { session with cache := session.cache.drop sql }
  return found

/-- Keeps an idle statement under a text; the one that was there is closed. A statement of another
session, or of one that is closed, is closed instead. -/
def putStatement (s : Nat) (sql : String) (st : Nat) : Action Unit := do
  let h ← get
  let session := h.session s
  if session.closed || (h.statement st).session ≠ s then
    closeStatement st
  else
    reviseSession s fun session => { session with cache := session.cache.put sql st }
    match session.cache.value? sql with
    | some previous => if previous ≠ st then closeStatement previous
    | none => pure ()

/-- Closes all idle statements. -/
def clearStatements (s : Nat) : Action Unit := do
  let idle := ((← get).session s).cache
  reviseSession s fun session => { session with cache := [] }
  idle.forM fun (_, st) => closeStatement st

/-- Closes a session with its idle statements and its connection, which is invalidated first if the
session is given up by force. -/
def discard (s : Nat) (force : Bool) : Action Unit := do
  let session := (← get).session s
  if session.closed then return
  -- Marked first, so that it is closed once, whatever the rest comes to.
  reviseSession s fun session => { session with closed := true }
  clearStatements s
  if force then
    note (.invalidated session.connection)
    let r ← fromScript Remote.Script.invalidate
    note (.closed session.connection)
    ofExcept r
  else
    note (.closed session.connection)

end LinkedTables.Action
