import LinkedTables.Proofs.Coupling

/-!
# What can be told of a host

The `outline` of a host is what its users and the remote side can tell of it: everything except
which statements are prepared, which of them wait in a cache, and how many rows they fetch at a
time. Its `lines` are what the pool counts: the sessions with their users, the tables that hold
them, and the connections that were opened and closed. Its `shelves` are what the statements
depend on: the caches, the statements, the cursors that read, and the results that were opened and
closed.

A relation of hosts is `Quiet` if related hosts have one outline and if it survives every change
that touches neither lines nor shelves. Most of the work on a host is made of such changes
(`Harmless`), and is steady under every quiet relation.
-/

namespace LinkedTables

/-! ### The outline -/

/-- An event without the number of rows that are fetched at a time. -/
def Event.outline : Event → Event
  | executed n sql params _ => executed n sql params 0
  | event => event

/-- A session without its cache. -/
def Session.outline (session : Session) : Session := { session with cache := [] }

/-- A cursor without the number of its statement. -/
def Cursor.outline (cursor : Cursor) : Cursor :=
  { cursor with
    phase := match cursor.phase with
      | .reading _ r => .reading 0 r
      | phase => phase }

/-- Cursors of one outline have come equally far. -/
theorem Cursor.phases_of_outline {cursor cursor' : Cursor}
    (same : cursor.outline = cursor'.outline) :
    (cursor.phase = .fresh ∧ cursor'.phase = .fresh) ∨
    (cursor.phase = .ended ∧ cursor'.phase = .ended) ∨
    ∃ r st st', cursor.phase = .reading st r ∧ cursor'.phase = .reading st' r := by
  have e := congrArg Cursor.phase same
  simp only [Cursor.outline] at e
  cases hp : cursor.phase <;> cases hp' : cursor'.phase <;> simp [hp, hp'] at e ⊢
  exact e.symm

/-- A host without what only its statements differ in. -/
def Host.outline (h : Host) : Host :=
  { h with
    journal := h.journal.map Event.outline
    sessions := h.sessions.map Session.outline
    statements := []
    cursors := h.cursors.map Cursor.outline }

/-! ### The lines -/

/-- A session as the pool counts it. -/
structure Line where
  key : LinkKey
  connection : Nat
  useCount : Int
  closed : Bool

/-- A session as the pool counts it. -/
def Session.line (session : Session) : Line :=
  ⟨session.key, session.connection, session.useCount, session.closed⟩

/-- The opening or the closing of a connection. -/
inductive Move where
  | opened (connection : Nat)
  | closed (connection : Nat)
deriving DecidableEq

/-- The opening or closing that an event stands for. -/
def Event.move? : Event → Option Move
  | connected n true => some (.opened n)
  | closed n => some (.closed n)
  | _ => none

/-- What the pool counts. -/
structure Lines where
  sessions : Roster Line
  /-- The session that each table holds. -/
  held : Roster (Option Nat)
  shares : Bool
  shared : Ledger LinkKey Nat
  connects : Nat
  /-- The openings and closings of connections, the latest first. -/
  moves : List Move

/-- What the pool counts. -/
def Host.lines (h : Host) : Lines where
  sessions := h.sessions.map Session.line
  held := h.tables.map LinkedTable.session
  shares := h.pool.shares
  shared := h.pool.shared
  connects := h.connects
  moves := h.journal.filterMap Event.move?

/-! ### The shelves -/

/-- The result that an event closes, if it has a number. -/
def Event.closed? : Event → Option Nat
  | resultClosed _ r => r
  | _ => none

/-- A session as its statements see it. -/
structure Shelf where
  closed : Bool
  idle : Ledger String Nat

/-- A session as its statements see it. -/
def Session.shelf (session : Session) : Shelf := ⟨session.closed, session.cache⟩

/-- What the statements depend on. -/
structure Shelves where
  sessions : Roster Shelf
  statements : Roster Statement
  cursors : Roster Cursor
  /-- The number of results that were opened. -/
  opened : Nat
  /-- The results that were closed, the latest first. -/
  closed : List Nat

/-- What the statements depend on. -/
def Host.shelves (h : Host) : Shelves where
  sessions := h.sessions.map Session.shelf
  statements := h.statements
  cursors := h.cursors
  opened := h.results.next
  closed := h.journal.filterMap Event.closed?

/-- The shelves behind an event that closes no result. -/
theorem Host.shelves_note (h : Host) {event : Event} (silent : event.closed? = none) :
    { h with journal := event :: h.journal }.shelves = h.shelves := by
  simp only [shelves, List.filterMap_cons, silent]

/-! ### Reading from an outline -/

section Agree

variable {h g : Host} (agree : h.outline = g.outline)
include agree

/-- What does not look beyond the outline finds the same in hosts of one outline. -/
theorem read_agree {β : Type} (f : Host → β) (hf : ∀ h, f h.outline = f h) : f h = f g := by
  rw [← hf h, ← hf g, agree]

theorem script_agree : h.script = g.script := read_agree agree Host.script fun _ => rfl

theorem link_agree : h.link = g.link := read_agree agree Host.link fun _ => rfl

theorem pool_agree : h.pool = g.pool := read_agree agree Host.pool fun _ => rfl

theorem results_agree : h.results = g.results := read_agree agree Host.results fun _ => rfl

theorem result_agree (r : Nat) : h.result r = g.result r :=
  read_agree agree (·.result r) fun _ => rfl

theorem tables_agree : h.tables = g.tables := read_agree agree Host.tables fun _ => rfl

theorem table_agree (t : Nat) : h.table t = g.table t := read_agree agree (·.table t) fun _ => rfl

theorem clients_agree : h.clients = g.clients := read_agree agree Host.clients fun _ => rfl

theorem registry_agree : h.registry = g.registry := read_agree agree Host.registry fun _ => rfl

/-- The number that an open cursor gets does not depend on the statements. -/
theorem next_cursor_agree : h.cursors.next = g.cursors.next :=
  read_agree agree (fun h => h.cursors.next) fun _ => List.length_map _

theorem next_session_agree : h.sessions.next = g.sessions.next :=
  read_agree agree (fun h => h.sessions.next) fun _ => List.length_map _

theorem session_agree (s : Nat) : (h.session s).outline = (g.session s).outline := by
  refine read_agree agree (fun h => (h.session s).outline) fun h => ?_
  simp only [Host.session, Host.outline, Roster.at?_map]
  cases h.sessions.at? s <;> rfl

theorem cursor_agree (c : Nat) : (h.cursor c).outline = (g.cursor c).outline := by
  refine read_agree agree (fun h => (h.cursor c).outline) fun h => ?_
  simp only [Host.cursor, Host.outline, Roster.at?_map]
  cases hc : h.cursors.at? c with
  | none => rfl
  | some cursor => cases hp : cursor.phase <;> simp [Cursor.outline, hp]

/-- Whether a session is closed is told by the outline. -/
theorem session_closed_agree (s : Nat) : (h.session s).closed = (g.session s).closed := by
  have e := congrArg Session.closed (session_agree agree s)
  exact e

theorem session_connection_agree (s : Nat) :
    (h.session s).connection = (g.session s).connection := by
  have e := congrArg Session.connection (session_agree agree s)
  exact e

end Agree

end LinkedTables
