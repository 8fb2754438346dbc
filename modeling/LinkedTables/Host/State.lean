import LinkedTables.Registry
import LinkedTables.Remote.Breaker
import LinkedTables.Remote.Script
import LinkedTables.Remote.Url
import LinkedTables.Roster
import LinkedTables.Shape

/-!
# The host of linked tables

A `Host` is the local engine as far as its linked tables go: the pool of remote sessions, the
statements prepared on them, the results still to be read, the tables, and a journal of everything
that was sent to the remote side. An `Action` changes the host and may end in a fault; what it did
to the host before the fault stays.
-/

namespace LinkedTables

open Dialect

/-! ### The journal and the log -/

/-- The questions to a catalog. -/
inductive CatalogQuestion where
  | tables
  | columns
  | primaryKeys
  | indexInfo
deriving DecidableEq, Repr, Inhabited

/-- What happens between the host and the remote side; connections are known by their number. -/
inductive Event where
  | connectorMade (url : Remote.Url) (prePing : Bool)
  | connected (connection : Nat) (succeeded : Bool)
  | setToCommit (connection : Nat)
  | asked (question : CatalogQuestion) (schema : Option String) (table : String)
  | probed (connection : Nat) (sql : String)
  | executed (connection : Nat) (sql : String) (params : List Value) (fetchSize : Int)
  /-- A result is closed; that of a probe has no number. -/
  | resultClosed (connection : Nat) (result : Option Nat)
  | invalidated (connection : Nat)
  | closed (connection : Nat)
  | disposed (url : Remote.Url)
deriving Inhabited

/-- The name of a question. -/
def CatalogQuestion.name : CatalogQuestion → String
  | tables => "tables"
  | columns => "columns"
  | primaryKeys => "primary_keys"
  | indexInfo => "index_info"

/-- Parameters under their names, which are counted from one. -/
def boundFields (params : List Value) : Schema.Entries :=
  params.zipIdx.map fun (v, i) => (s!"p{i + 1}", v)

/-- The options of an execution that fetches so many rows at a time. -/
def streamOptions (fetchSize : Int) : List Value :=
  if fetchSize = 0 then []
  else [.dict [("stream_results", .bool true), ("max_row_buffer", .int fetchSize)]]

/-- An event as a list of its name and what belongs to it. -/
def Event.toValue : Event → Value
  | connectorMade url prePing => .list [.text "engine", .text (url.text false), .bool prePing]
  | connected n succeeded =>
    .list [.text "connect", .int n, .text (if succeeded then "ok" else "fail")]
  | setToCommit n =>
    .list [.text "options", .int n, .dict [("isolation_level", .text "AUTOCOMMIT")]]
  | asked question schema table =>
    .list [.text "catalog", .text question.name, .ofText? schema, .text table]
  | probed n sql => .list [.text "probe", .int n, .text sql]
  | executed n sql params fetchSize =>
    .list ([.text "exec", .int n, .text sql, .dict (boundFields params)]
      ++ streamOptions fetchSize)
  | resultClosed n _ => .list [.text "rclose", .int n]
  | invalidated n => .list [.text "invalidate", .int n]
  | closed n => .list [.text "close", .int n]
  | disposed url => .list [.text "dispose", .text (url.text true)]

/-- A notice with the link in whose name it was logged. -/
structure LogEntry where
  notice : Notice
  link : Option String
deriving DecidableEq, Repr, Inhabited

/-- An entry as a list of its level, its link and the first line of its text. -/
def LogEntry.toValue (e : LogEntry) : Value :=
  .list [.text e.notice.level.name, .ofText? e.link,
    .text (String.ofList (e.notice.text.toList.takeWhile (· != '\n')))]

/-! ### What the host holds -/

/-- A remote session: one connection to a target, shared by the tables that use it. -/
structure Session where
  key : LinkKey
  connection : Nat
  dialect : String
  vendor : Vendor
  flags : Flags
  /-- The number of tables that use the session. -/
  useCount : Int
  closed : Bool
  /-- The idle statements by their text. -/
  cache : Ledger String Nat
deriving Inhabited

/-- The session in messages. -/
def Session.shown (session : Session) : String :=
  "RemoteSession(" ++ (Value.text session.key.url).shown ++ ", "
    ++ (if session.closed then "closed)" else "open)")

/-- A statement prepared on a session. -/
structure Statement where
  session : Nat
  sql : String
  /-- The rows to fetch at a time; zero leaves it to the remote side. -/
  fetchSize : Int
  /-- The result that is open. -/
  result : Option Nat
  closed : Bool
deriving DecidableEq, Repr, Inhabited

/-- The statement in messages. -/
def Statement.shown (statement : Statement) : String :=
  "PreparedStatement(" ++ (Value.text statement.sql).shown ++ ")"

/-- A result and the rows that are still to be fetched from it. -/
structure ResultSet where
  connection : Nat
  rows : List (Except Fault (List Value))
  closed : Bool
deriving Inhabited

/-- The remote sessions that are shared, and what guards connecting, by target. -/
structure Pool where
  shares : Bool
  failMax : Int
  resetTimeout : Int
  prePing : Bool
  connectors : Ledger LinkKey Remote.Url
  breakers : Ledger LinkKey Remote.Breaker
  shared : Ledger LinkKey Nat
deriving Inhabited

/-- A linked table. -/
structure LinkedTable where
  schema : String
  id : Int
  name : String
  definition : Definition
  readOnly : Bool
  fetchSize : Nat
  defaultFetchSize : Nat
  globalTemporary : Bool
  vendor : Vendor
  flags : Flags
  columns : List Column
  /-- What each column puts in for a default, in the order of the columns. -/
  fillings : List Filling
  qualifiedName : String
  /-- The indexes, of which the first covers all columns; none before the first connect. -/
  indexes : List Index
  /-- The table has not been removed. -/
  valid : Bool
  /-- What the remote catalog reports at each connect to come; the last one stays. -/
  catalogs : List Catalog
  /-- The session that the table holds. -/
  session : Option Nat
  /-- The failure of the last attempt to connect. -/
  failure : Option LinkFault
deriving Inhabited

/-- The changes of rows that can be undone. -/
inductive Change where
  | insert
  | delete
deriving DecidableEq, Repr, Inhabited

/-- The name of a change. -/
def Change.name : Change → String
  | insert => "INSERT"
  | delete => "DELETE"

/-- The change with a name. -/
def Change.ofName? (s : String) : Option Change := [insert, delete].find? (·.name == s)

/-- A change of a row, as the undo log keeps it. -/
structure UndoRecord where
  table : String
  change : Change
  row : List Value
deriving Inhabited

/-- A local session, on behalf of which statements run: it converts the values that are bound and
keeps the undo log. -/
structure Client where
  convert : Value → Except Fault Value
  undo : List UndoRecord

instance : Inhabited Client := ⟨⟨.ok, []⟩⟩

/-- How far the rows of a query have been read. -/
inductive CursorPhase where
  | fresh
  | reading (statement result : Nat)
  | ended
deriving DecidableEq, Repr, Inhabited

/-- The rows of a query, which runs when the first of them is asked for. -/
structure Cursor where
  table : Nat
  sql : String
  params : List Value
  client : Option Nat
  phase : CursorPhase

/-- A cursor that nobody opened has no rows. -/
instance : Inhabited Cursor := ⟨⟨0, "", [], none, .ended⟩⟩

/-- The local engine as far as its linked tables go. -/
structure Host where
  script : Remote.Script
  /-- What was sent to the remote side, the latest first. -/
  journal : List Event
  /-- What was logged, the latest first. -/
  log : List LogEntry
  /-- The least level that is logged. -/
  level : Level
  /-- The link in whose name work is done. -/
  link : Option String
  /-- The command that is running has been cancelled. -/
  cancelled : Bool
  /-- The number of attempts to connect. -/
  connects : Nat
  pool : Pool
  sessions : Roster Session
  statements : Roster Statement
  results : Roster ResultSet
  tables : Roster LinkedTable
  clients : Roster Client
  cursors : Roster Cursor
  /-- The tables under their names, by number. -/
  registry : Registry Nat
deriving Inhabited

namespace Host

/-- A host at work on nothing yet. -/
def start (script : Remote.Script) (pool : Pool) (level : Level) : Host where
  script
  journal := []
  log := []
  level
  link := none
  cancelled := false
  connects := 0
  pool
  sessions := []
  statements := []
  results := []
  tables := []
  clients := []
  cursors := []
  registry := []

/-- The session with a number. -/
def session (h : Host) (s : Nat) : Session := (h.sessions.at? s).getD default

/-- The statement with a number. -/
def statement (h : Host) (st : Nat) : Statement := (h.statements.at? st).getD default

/-- The result with a number. -/
def result (h : Host) (r : Nat) : ResultSet := (h.results.at? r).getD default

/-- The table with a number. -/
def table (h : Host) (t : Nat) : LinkedTable := (h.tables.at? t).getD default

/-- The cursor with a number. -/
def cursor (h : Host) (c : Nat) : Cursor := (h.cursors.at? c).getD default

end Host

/-! ### Actions -/

/-- A change of the host that may end in a fault. -/
abbrev Action (α : Type) := ExceptT Fault (StateM Host) α

namespace Action

/-- What an action comes to, as a value. -/
def outcome {α : Type} (x : Action α) : Action (Except Fault α) := ExceptT.lift x.run

/-- Goes on with a value or ends in a fault. -/
def ofExcept {α : Type} : Except Fault α → Action α
  | .ok a => pure a
  | .error fault => throw fault

/-- Enters an event in the journal. -/
def note (event : Event) : Action Unit := modify fun h => { h with journal := event :: h.journal }

/-- Logs a notice in the name of the current link, if its level counts. -/
def report (notice : Notice) : Action Unit := modify fun h =>
  if h.level.number ≤ notice.level.number then { h with log := ⟨notice, h.link⟩ :: h.log } else h

/-- Logs notices in their order. -/
def reportAll (notices : List Notice) : Action Unit := notices.forM report

/-- Works in the name of a link, and afterwards in the name under which it was called. -/
def inLink {α : Type} (name : String) (x : Action α) : Action α := do
  let before := (← get).link
  modify fun h => { h with link := some name }
  let r ← outcome x
  modify fun h => { h with link := before }
  ofExcept r

/-- Changes a session. -/
def reviseSession (s : Nat) (f : Session → Session) : Action Unit :=
  modify fun h => { h with sessions := h.sessions.revise s f }

/-- Changes a statement. -/
def reviseStatement (st : Nat) (f : Statement → Statement) : Action Unit :=
  modify fun h => { h with statements := h.statements.revise st f }

/-- Changes a result. -/
def reviseResult (r : Nat) (f : ResultSet → ResultSet) : Action Unit :=
  modify fun h => { h with results := h.results.revise r f }

/-- Changes a table. -/
def reviseTable (t : Nat) (f : LinkedTable → LinkedTable) : Action Unit :=
  modify fun h => { h with tables := h.tables.revise t f }

/-- Changes a cursor. -/
def reviseCursor (c : Nat) (f : Cursor → Cursor) : Action Unit :=
  modify fun h => { h with cursors := h.cursors.revise c f }

/-- Changes the pool. -/
def revisePool (f : Pool → Pool) : Action Unit := modify fun h => { h with pool := f h.pool }

/-- Takes the next outcome of a remote call. -/
def fromScript {α : Type} (call : Remote.Script → α × Remote.Script) : Action α := do
  let (a, script) := call (← get).script
  modify fun h => { h with script }
  return a

end Action

end LinkedTables
