import LinkedTables.Proofs.LinkWorkKeepsColumns
import LinkedTables.Proofs.OperationLogic

/-!
# Work that sends nothing

Most of the work on a host prepares no statement and executes none (`Unsent`), and whatever it logs
it logs in the name of the link in whose name it is done (`Signed`). The work on sessions and links,
where statements are only taken out of caches and closed, leaves in place besides what tables
execute with and what cursors read (`Chore`). All operations but the few that execute statements for
a table, or work in its name, are so (`minor_perform`).
-/

namespace LinkedTables

/-! ### What is sent and what is logged -/

/-- The event is the execution of a statement. -/
def Event.isExecution : Event → Bool
  | executed .. => true
  | _ => false

/-- The executions of statements, the latest first. -/
def Host.dispatches (h : Host) : List Event := h.journal.filter Event.isExecution

/-- What a statement is from the time when it was prepared. -/
def Statement.origin (statement : Statement) : Nat × String × Int :=
  (statement.session, statement.sql, statement.fetchSize)

/-- What a table executes statements with. -/
def LinkedTable.terms (table : LinkedTable) : String × Nat × Nat :=
  (table.name, table.fetchSize, table.defaultFetchSize)

/-- What has been logged was logged in the name of one link, and tables keep their names. -/
structure Signed (h h' : Host) : Prop where
  link : h'.link = h.link
  log : ∃ new, h'.log = new ++ h.log ∧ ∀ e ∈ new, e.link = h.link
  names : ∀ u, (h'.table u).name = (h.table u).name

/-- No statement has been prepared, and none executed. -/
structure Unsent (h h' : Host) : Prop where
  dispatches : h'.dispatches = h.dispatches
  statements : h'.statements.map Statement.origin = h.statements.map Statement.origin

/-- Nothing has been sent, and what was logged was logged in one name. -/
structure Minor (h h' : Host) : Prop extends Signed h h', Unsent h h'

/-- Tables execute with what they did, cursors have not been read, and sessions keep no more
statements than before. -/
structure Chore (h h' : Host) : Prop extends Minor h h' where
  terms : ∀ u, (h'.table u).terms = (h.table u).terms
  cursors : h'.cursors = h.cursors
  cache : ∀ s sql st, (h'.session s).cache.value? sql = some st →
    (h.session s).cache.value? sql = some st

theorem signed : Frame Signed where
  refl _ := ⟨rfl, ⟨[], rfl, nofun⟩, fun _ => rfl⟩
  trans := by
    rintro h h' h'' ⟨link, ⟨new, log, own⟩, names⟩ ⟨link', ⟨new', log', own'⟩, names'⟩
    refine ⟨link'.trans link, ⟨new' ++ new, ?_, fun e among => ?_⟩,
      fun u => (names' u).trans (names u)⟩
    · rw [log', log, List.append_assoc]
    · exact (List.mem_append.mp among).elim (fun there => (own' e there).trans link) (own e)

theorem unsent : Frame Unsent where
  refl _ := ⟨rfl, rfl⟩
  trans a b := ⟨b.dispatches.trans a.dispatches, b.statements.trans a.statements⟩

theorem minor : Frame Minor where
  refl h := ⟨signed.refl h, unsent.refl h⟩
  trans a b := ⟨signed.trans a.toSigned b.toSigned, unsent.trans a.toUnsent b.toUnsent⟩

theorem chore : Frame Chore where
  refl h := ⟨minor.refl h, fun _ => rfl, rfl, fun _ _ _ => id⟩
  trans a b := ⟨minor.trans a.toMinor b.toMinor, fun u => (b.terms u).trans (a.terms u),
    b.cursors.trans a.cursors, fun s sql st found => a.cache s sql st (b.cache s sql st found)⟩

theorem Signed.of_same {h h' : Host} (link : h'.link = h.link) (log : h'.log = h.log)
    (tables : h'.tables = h.tables) : Signed h h' :=
  ⟨link, ⟨[], log, nofun⟩, fun u => by rw [Host.table, tables]; rfl⟩

/-- The statements are the same ones from the time when they were prepared. -/
theorem Unsent.next {h h' : Host} (u : Unsent h h') : h'.statements.next = h.statements.next := by
  have lengths := congrArg List.length u.statements
  rwa [List.length_map, List.length_map] at lengths

theorem Unsent.origin {h h' : Host} (u : Unsent h h') (st : Nat) :
    (h'.statement st).origin = (h.statement st).origin := by
  have members := congrArg (Roster.at? · st) u.statements
  simp only [Roster.at?_map] at members
  rw [Host.statement, Host.statement]
  cases here : h.statements.at? st <;> cases there : h'.statements.at? st <;>
    rw [here, there] at members
  · cases members
  · cases members
  · exact Option.some.inj members

namespace Chore

variable {h : Host}

/-- What neither logs nor executions depend on. -/
theorem of_others {script : Remote.Script} {connects : Nat} {cancelled : Bool} {pool : Pool}
    {results : Roster ResultSet} {clients : Roster Client} {registry : Registry Nat} :
    Chore h { h with script, connects, cancelled, pool, results, clients, registry } :=
  ⟨⟨.of_same rfl rfl rfl, rfl, rfl⟩, fun _ => rfl, rfl, fun _ _ _ => id⟩

/-- An event that is no execution. -/
theorem of_event {event : Event} (other : event.isExecution = false) :
    Chore h { h with journal := event :: h.journal } := by
  refine ⟨⟨.of_same rfl rfl rfl, ?_, rfl⟩, fun _ => rfl, rfl, fun _ _ _ => id⟩
  rw [Host.dispatches, List.filter_cons, other]
  rfl

/-- A table goes on executing with what it did. -/
theorem of_table {u : Nat} {f : LinkedTable → LinkedTable}
    (terms : ∀ table, (f table).terms = table.terms) :
    Chore h { h with tables := h.tables.revise u f } := by
  have same (t : Nat) : (({ h with tables := h.tables.revise u f } : Host).table t).terms
      = (h.table t).terms := by
    obtain e | ⟨-, e⟩ := h.table_of_revise u t f
    · rw [e]
    · rw [e, terms]
  exact ⟨⟨⟨rfl, ⟨[], rfl, nofun⟩, fun t => congrArg Prod.fst (same t)⟩, rfl, rfl⟩, same, rfl,
    fun _ _ _ => id⟩

/-- A statement stays what it was from the time when it was prepared. -/
theorem of_statement {st : Nat} {f : Statement → Statement}
    (origin : ∀ statement, (f statement).origin = statement.origin) :
    Chore h { h with statements := h.statements.revise st f } :=
  ⟨⟨.of_same rfl rfl rfl, rfl, Roster.map_revise_same origin _ st⟩, fun _ => rfl, rfl,
    fun _ _ _ => id⟩

/-- A session keeps no more statements than before. -/
theorem of_session {s : Nat} {f : Session → Session}
    (fewer : ∀ session sql st, (f session).cache.value? sql = some st →
      session.cache.value? sql = some st) :
    Chore h { h with sessions := h.sessions.revise s f } := by
  refine ⟨⟨.of_same rfl rfl rfl, rfl, rfl⟩, fun _ => rfl, rfl, fun s' sql st found => ?_⟩
  simp only [Host.session, Roster.at?_revise] at found ⊢
  split at found
  next =>
    cases here : h.sessions.at? s' with
    | none =>
      rw [here] at found
      cases found
    | some session =>
      rw [here] at found
      exact fewer session sql st found
  next => exact found

/-- A session that is opened keeps nothing yet. -/
theorem of_open {session : Session} (bare : session.cache = []) :
    Chore h { h with sessions := h.sessions.join session } := by
  refine ⟨⟨.of_same rfl rfl rfl, rfl, rfl⟩, fun _ => rfl, rfl, fun s sql st found => ?_⟩
  simp only [Host.session, Roster.at?_join] at found ⊢
  split at found
  · rw [Option.getD_some, bare] at found
    cases found
  · exact found

end Chore

namespace Action

open Keeps

variable {α : Type}

/-! ### Single changes -/

theorem chore_note {event : Event} (other : event.isExecution = false) :
    Keeps Chore (note event) :=
  of_modify fun _ => .of_event other

theorem chore_report (notice : Notice) : Keeps Chore (report notice) := by
  refine of_modify fun h => ?_
  split
  · refine ⟨⟨⟨rfl, ⟨[⟨notice, h.link⟩], rfl, ?_⟩, fun _ => rfl⟩, rfl, rfl⟩, fun _ => rfl, rfl,
      fun _ _ _ => id⟩
    simp
  · exact chore.refl h

theorem chore_reportAll (notices : List Notice) : Keeps Chore (reportAll notices) :=
  of_forM chore notices chore_report

theorem chore_fromScript (call : Remote.Script → α × Remote.Script) :
    Keeps Chore (fromScript call) :=
  of_fromScript chore (fun _ _ => .of_others) call

theorem chore_revisePool (f : Pool → Pool) : Keeps Chore (revisePool f) :=
  of_modify fun _ => .of_others

theorem chore_reviseTable (u : Nat) {f : LinkedTable → LinkedTable}
    (terms : ∀ table, (f table).terms = table.terms) : Keeps Chore (reviseTable u f) :=
  of_modify fun _ => .of_table terms

theorem chore_reviseStatement (st : Nat) {f : Statement → Statement}
    (origin : ∀ statement, (f statement).origin = statement.origin) :
    Keeps Chore (reviseStatement st f) :=
  of_modify fun _ => .of_statement origin

theorem chore_reviseSession (s : Nat) {f : Session → Session}
    (fewer : ∀ session sql st, (f session).cache.value? sql = some st →
      session.cache.value? sql = some st) : Keeps Chore (reviseSession s f) :=
  of_modify fun _ => .of_session fewer

/-! ### Statements and results -/

theorem chore_closeResult (st : Nat) : Keeps Chore (closeResult st) := by
  refine get_bind fun h => ?_
  split
  · exact of_pure chore ()
  · refine bind chore (chore_note rfl) fun _ => ?_
    refine bind chore (of_modify fun _ => .of_others) fun _ => ?_
    exact chore_reviseStatement _ fun _ => rfl

theorem chore_closeStatement (st : Nat) : Keeps Chore (closeStatement st) :=
  bind chore (chore_closeResult st) fun _ => chore_reviseStatement _ fun _ => rfl

theorem chore_takeStatement (s : Nat) (sql : String) : Keeps Chore (takeStatement s sql) := by
  refine get_bind fun _ => bind chore ?_ fun _ => of_pure chore _
  exact chore_reviseSession s fun _ _ _ => fewer_of_drop

theorem chore_clearStatements (s : Nat) : Keeps Chore (clearStatements s) := by
  refine get_bind fun _ => bind chore ?_ fun _ => of_forM chore _ fun _ => chore_closeStatement _
  exact chore_reviseSession s fun _ _ _ found => by cases found

theorem chore_fetch (r : Nat) : Keeps Chore (fetch r) := by
  refine get_bind fun h => ?_
  dsimp only
  split
  · exact of_pure chore none
  next row rest _ =>
    have taken : Keeps Chore (reviseResult r fun result => { result with rows := rest }) :=
      of_modify fun _ => .of_others
    refine of_ite (of_throw chore _) (bind chore taken fun _ => ?_)
    cases row with
    | ok values => exact of_pure chore _
    | error fault => exact of_throw chore fault

theorem chore_fetchFrom (r fuel : Nat) : Keeps Chore (fetchFrom r fuel) := by
  induction fuel with
  | zero => exact of_pure chore []
  | succ fuel ih =>
    refine bind chore (chore_fetch r) fun row => ?_
    cases row with
    | none => exact of_pure chore []
    | some row => exact bind chore ih fun _ => of_pure chore _

theorem chore_fetchAll (r : Nat) : Keeps Chore (fetchAll r) :=
  get_bind fun _ => chore_fetchFrom r _

theorem chore_convertFor (client : Option Nat) (v : Value) : Keeps Chore (convertFor client v) := by
  cases client with
  | none => exact of_pure chore v
  | some c => exact get_bind fun _ => of_ofExcept chore _

/-! ### Sessions -/

theorem chore_discard (s : Nat) (force : Bool) : Keeps Chore (discard s force) := by
  refine get_bind fun h => ?_
  dsimp only
  have closing : Keeps Chore (do
      reviseSession s fun session => { session with closed := true }
      clearStatements s
      if force then
        note (.invalidated (h.session s).connection)
        let r ← fromScript Remote.Script.invalidate
        note (.closed (h.session s).connection)
        Action.ofExcept r
      else
        note (.closed (h.session s).connection)) := by
    refine bind chore (chore_reviseSession s fun _ _ _ => id) fun _ => ?_
    refine bind chore (chore_clearStatements s) fun _ => of_ite ?_ (chore_note rfl)
    refine bind chore (chore_note rfl) fun _ => bind chore (chore_fromScript _) fun r => ?_
    exact bind chore (chore_note rfl) fun _ => of_ofExcept chore r
  exact of_ite (of_pure chore ()) closing

theorem chore_connectorFor (key : LinkKey) : Keeps Chore (connectorFor key) := by
  refine get_bind fun h => ?_
  dsimp only
  split
  · exact of_pure chore _
  · refine bind chore (of_ofExcept chore _) fun url => bind chore (chore_note rfl) fun _ => ?_
    refine bind chore (chore_fromScript _) fun r => bind chore (of_ofExcept chore r) fun _ => ?_
    exact bind chore (chore_revisePool _) fun _ => of_pure chore url

theorem chore_breakerFor (key : LinkKey) : Keeps Chore (breakerFor key) := by
  refine get_bind fun h => ?_
  dsimp only
  split
  · exact of_pure chore _
  · refine bind chore (of_ofExcept chore _) fun url => ?_
    exact bind chore (chore_revisePool _) fun _ => of_pure chore _

theorem chore_connectOnce : Keeps Chore connectOnce := by
  refine get_bind fun h => bind chore (chore_fromScript _) fun r => ?_
  refine bind chore (of_modify fun _ => .of_others) fun _ => ?_
  exact bind chore (chore_note rfl) fun _ => of_pure chore _

theorem chore_connectGuarded (key : LinkKey) : Keeps Chore (connectGuarded key) := by
  refine bind chore (chore_breakerFor key) fun breaker => bind chore (of_ofExcept chore _) ?_
  rintro ⟨breaker, notices⟩
  refine bind chore (chore_revisePool _) fun _ => bind chore (chore_reportAll _) fun _ => ?_
  refine bind chore chore_connectOnce fun r => bind chore (chore_revisePool _) fun _ => ?_
  exact bind chore (chore_reportAll _) fun _ => of_ofExcept chore _

theorem chore_openSession (key : LinkKey) : Keeps Chore (openSession key) := by
  refine bind chore (chore_connectorFor key) fun url => ?_
  refine bind chore (chore_connectGuarded key) fun n => bind chore (chore_note rfl) fun _ => ?_
  refine get_bind fun h => bind chore (of_modify fun _ => .of_open rfl) fun _ => ?_
  refine bind chore (chore_revisePool _) fun _ => ?_
  exact bind chore (chore_report _) fun _ => of_pure chore _

theorem chore_acquire (key : LinkKey) : Keeps Chore (acquire key) := by
  refine get_bind fun h => ?_
  split
  · exact bind chore (chore_reviseSession _ fun _ _ _ => id) fun _ => of_pure chore _
  · exact chore_openSession key

theorem chore_release (s : Nat) (force : Bool) : Keeps Chore (release s force) := by
  refine bind chore (chore_reviseSession s fun _ _ _ => id) fun _ => get_bind fun h => ?_
  dsimp only
  have giving : Keeps Chore (do
      revisePool fun pool =>
        if pool.shared.value? (h.session s).key = some s then
          { pool with shared := pool.shared.drop (h.session s).key }
        else pool
      discard s force) :=
    bind chore (chore_revisePool _) fun _ => chore_discard s force
  exact of_ite (of_pure chore ()) giving

theorem chore_closePool : Keeps Chore closePool := by
  refine get_bind fun h => bind chore (chore_revisePool _) fun _ => ?_
  refine bind chore (of_forM chore _ fun _ => chore_discard _ _) fun _ => ?_
  exact of_forM chore _ fun _ => chore_note rfl

/-! ### Shapes -/

theorem chore_ask (catalog : Catalog) (question : CatalogQuestion) (schema : Option String)
    (table : String) : Keeps Chore (ask catalog question schema table) :=
  of_ite (chore_note rfl) (of_pure chore ())

theorem chore_probe (s : Nat) (name table : String) : Keeps Chore (probe s name table) := by
  refine get_bind fun h => bind chore (chore_note rfl) fun _ => ?_
  refine bind chore (chore_fromScript _) fun r => ?_
  cases r with
  | error fault => exact of_throw chore _
  | ok description =>
    exact bind chore (chore_note rfl) fun _ => get_bind fun _ => of_ofExcept chore _

theorem chore_readCatalogColumns (catalog : Catalog) (canonicalName : String → String)
    (schema : Option String) (table : String) :
    Keeps Chore (readCatalogColumns catalog canonicalName schema table) := by
  refine bind chore (chore_ask _ _ _ _) fun _ => bind chore (of_ofExcept chore _) fun found => ?_
  have read : Keeps Chore (do
      ask catalog .columns schema table
      ofExcept (Shape.catalogColumns canonicalName (catalog.columns schema table))) :=
    bind chore (chore_ask _ _ _ _) fun _ => of_ofExcept chore _
  exact of_ite (bind chore (of_throw chore _) fun _ => read) read

theorem chore_readCatalogIndexes (catalog : Catalog) (resolve : Reconstruction.Resolver)
    (schema : Option String) (table : String) :
    Keeps Chore (readCatalogIndexes catalog resolve schema table) := by
  refine bind chore (chore_ask _ _ _ _) fun _ => bind chore (chore_reportAll _) fun _ => ?_
  refine bind chore (of_ofExcept chore _) ?_
  rintro ⟨primary, key⟩
  refine bind chore (chore_ask _ _ _ _) fun _ => bind chore (chore_reportAll _) fun _ => ?_
  exact bind chore (of_ofExcept chore _) fun others => of_pure chore _

theorem chore_readShape (d : Definition) (catalog : Catalog) (s : Nat) :
    Keeps Chore (readShape d catalog s) := by
  refine bind chore (chore_reviseSession s fun _ _ _ => id) fun _ => get_bind fun h => ?_
  refine of_either chore (of_pure chore _) (chore_readCatalogColumns _ _ _ _) ?_
  rintro ⟨reported, schema⟩
  refine bind chore (chore_probe _ _ _) fun probed => ?_
  refine of_either chore (of_pure chore _) (chore_readCatalogIndexes _ _ _ _) fun others => ?_
  exact bind chore (chore_report _) fun _ => of_pure chore _

/-! ### Links -/

theorem chore_handshake (u s : Nat) : Keeps Chore (handshake u s) := by
  have catalog : Keeps Chore (nextCatalog u) := by
    refine get_bind fun h => ?_
    split
    · exact of_throw chore _
    · exact of_pure chore _
    · exact bind chore (chore_reviseTable u fun _ => rfl) fun _ => of_pure chore _
  refine get_bind fun h => bind chore catalog fun catalog => ?_
  refine bind chore (chore_readShape _ _ _) fun shape => ?_
  refine bind chore (chore_reviseTable u fun _ => rfl) fun _ => get_bind fun h => ?_
  dsimp only
  exact of_ite (chore_reviseTable u fun _ => rfl) (of_ite (chore_report _) (of_pure chore ()))

theorem chore_attemptConnect (u : Nat) : Keeps Chore (attemptConnect u) := by
  refine get_bind fun h => outcome_bind chore (chore_acquire _) fun r => ?_
  cases r with
  | error fault => exact of_ite (of_pure chore _) (of_throw chore _)
  | ok s =>
    refine outcome_bind chore (chore_handshake u s) fun r => ?_
    cases r with
    | ok _ => exact of_pure chore _
    | error fault =>
      refine bind chore (chore_release s true) fun _ => ?_
      split <;> exact of_pure chore _

theorem chore_connectFrom (u attempt left : Nat) : Keeps Chore (connectFrom u attempt left) := by
  have hold (s : Nat) : Keeps Chore (hold u s) :=
    bind chore (chore_reviseTable u fun _ => rfl) fun _ => of_pure chore s
  have giveUp (failure : LinkFault) : Keeps Chore (giveUp u failure) :=
    bind chore (chore_reviseTable u fun _ => rfl) fun _ => of_throw chore _
  induction left generalizing attempt with
  | zero =>
    refine bind chore (chore_attemptConnect u) fun r => ?_
    cases r with
    | ok s => exact hold s
    | error failure => exact giveUp failure
  | succ left ih =>
    refine bind chore (chore_attemptConnect u) fun r => ?_
    cases r with
    | ok s => exact hold s
    | error failure =>
      refine of_ite (giveUp failure) (get_bind fun h => ?_)
      exact bind chore (chore_report _) fun _ => ih (attempt + 1)

theorem chore_connect (u : Nat) : Keeps Chore (connect u) :=
  bind chore (chore_reviseTable u fun _ => rfl) fun _ => chore_connectFrom u 1 maxRetry

theorem chore_giveUpSession (u : Nat) : Keeps Chore (giveUpSession u) := by
  refine get_bind fun h => bind chore (chore_reviseTable u fun _ => rfl) fun _ => ?_
  split
  · exact chore_release _ true
  · exact of_pure chore ()

theorem chore_reconnect (u : Nat) (failed : Option Nat) : Keeps Chore (reconnect u failed) := by
  refine get_bind fun h => ?_
  split
  · exact of_pure chore _
  · exact bind chore (chore_giveUpSession u) fun _ => chore_connect u

theorem chore_closeLink (u : Nat) : Keeps Chore (closeLink u) := by
  refine get_bind fun h => bind chore (chore_reviseTable u fun _ => rfl) fun _ => ?_
  split
  · exact chore_release _ false
  · exact of_pure chore ()

/-! ### Tables -/

theorem chore_connectNew (u : Nat) : Keeps Chore (connectNew u) := by
  refine outcome_bind chore (chore_connect u) fun r => ?_
  split
  · exact of_pure chore ()
  · refine get_bind fun h => of_ite ?_ (of_throw chore _)
    exact bind chore (chore_report _) fun _ => chore_reviseTable u fun _ => rfl
  · exact of_throw chore _

theorem chore_removeTable (u : Nat) : Keeps Chore (removeTable u) :=
  bind chore (chore_closeLink u) fun _ => bind chore (chore_reviseTable u fun _ => rfl) fun _ =>
    get_bind fun _ => chore_report _

theorem chore_registerTable (schema : String) (u : Nat) : Keeps Chore (registerTable schema u) := by
  refine get_bind fun h => bind chore (of_ofExcept chore _) ?_
  rintro ⟨registry, notice⟩
  exact bind chore (of_modify fun _ => .of_others) fun _ => chore_report _

theorem chore_dropTable (schema name : String) : Keeps Chore (dropTable schema name) := by
  refine get_bind fun h => bind chore (of_ofExcept chore _) ?_
  rintro ⟨registry, variant⟩
  refine bind chore (of_modify fun _ => .of_others) fun _ => ?_
  exact bind chore (chore_removeTable _) fun _ => chore_report _

theorem chore_checkCancelled : Keeps Chore checkCancelled := get_bind fun _ => of_ofExcept chore _

theorem chore_recordChange (client : Nat) (record : UndoRecord) :
    Keeps Chore (recordChange client record) :=
  of_modify fun _ => .of_others

end Action

/-! ### Operations -/

namespace Minor

variable {h : Host}

/-- What sessions keep and cursors read is not sent. -/
theorem of_others {sessions : Roster Session} {cursors : Roster Cursor} :
    Minor h { h with sessions, cursors } :=
  ⟨.of_same rfl rfl rfl, rfl, rfl⟩

/-- A table keeps its name. -/
theorem of_table {u : Nat} {f : LinkedTable → LinkedTable}
    (name : (f (h.table u)).name = (h.table u).name) :
    Minor h { h with tables := h.tables.revise u f } := by
  refine ⟨⟨rfl, ⟨[], rfl, nofun⟩, fun t => ?_⟩, rfl, rfl⟩
  obtain e | ⟨rfl, e⟩ := h.table_of_revise u t f
  · rw [e]
  · rw [e, name]

end Minor

namespace Action

open Keeps

variable {α : Type}

theorem minor_of_chore {x : Action α} (hx : Keeps Chore x) : Keeps Minor x :=
  hx.mono fun _ _ c => c.toMinor

theorem minor_putStatement (s : Nat) (sql : String) (st : Nat) :
    Keeps Minor (putStatement s sql st) := by
  have closed (st : Nat) := minor_of_chore (chore_closeStatement st)
  refine get_bind fun h => ?_
  dsimp only
  refine of_ite (closed st) (bind minor (of_modify fun _ => .of_others) fun _ => ?_)
  split
  · exact of_ite (closed _) (of_pure minor ())
  · exact of_pure minor ()

theorem minor_handBack (u st : Nat) (sql : String) : Keeps Minor (handBack u st sql) := by
  have closed := minor_of_chore (chore_closeStatement st)
  refine get_bind fun h => ?_
  split
  · exact closed
  · exact of_ite closed (bind minor (minor_of_chore (chore_closeResult st)) fun _ =>
      minor_putStatement _ sql st)

theorem minor_closeCursor (c : Nat) : Keeps Minor (closeCursor c) := by
  refine get_bind fun h => bind minor (of_modify fun _ => .of_others) fun _ => ?_
  split
  · exact minor_of_chore (chore_closeStatement _)
  · exact of_pure minor ()

theorem minor_openCursor (cursor : Cursor) : Keeps Minor (openCursor cursor) :=
  get_bind fun _ => bind minor (of_modify fun _ => .of_others) fun _ => of_pure minor _

theorem minor_setFetchSize (u : Nat) (n : Int) : Keeps Minor (setFetchSize u n) := by
  refine get_bind_at fun h => ?_
  rw [LinkedTable.withFetchSize]
  split
  · exact minor.refl h
  · exact .of_table rfl

end Action

/-- The operation may prepare or execute statements, or works in the name of its table. -/
def Operation.Speaks : Operation → Prop
  | createTable _ | addRow .. | removeRow .. | updateRows .. | rowCount .. | next _ | drain _
  | execute .. | query .. | prepare .. | executeStatement .. => True
  | _ => False

open LinkedTables.Action Keeps in
/-- All other operations send nothing. -/
theorem minor_perform {o : Operation} (silent : ¬ o.Speaks) : Keeps Minor o.perform := by
  -- A chore is minor, and so is a chore behind which a reply is made.
  have reply {α : Type} {x : Action α} (f : α → Reply) (hx : Keeps Minor x) :
      Keeps Minor (do return f (← x)) :=
    bind minor hx fun a => of_pure minor (f a)
  have usual {α : Type} {x : Action α} (f : α → Reply) (hx : Keeps Chore x) :
      Keeps Minor (do return f (← x)) := reply f (minor_of_chore hx)
  have done {x : Action Unit} (hx : Keeps Minor x) : Keeps Minor (silently x) :=
    bind minor hx fun _ => of_pure minor Reply.done
  have chores {x : Action Unit} (hx : Keeps Chore x) : Keeps Minor (silently x) :=
    done (minor_of_chore hx)
  cases o with
  | join convert =>
    exact usual .client (get_bind fun _ => bind chore (of_modify fun _ => .of_others) fun _ =>
      of_pure chore _)
  | clearUndo client => exact chores (of_modify fun _ => .of_others)
  | openScan u client => exact reply .cursor (get_bind fun _ => minor_openCursor _)
  | openFind u index client first last =>
    refine reply .cursor (get_bind fun _ => ?_)
    exact bind minor (of_ofExcept minor _) fun _ => minor_openCursor _
  | closeCursor c => exact done (minor_closeCursor c)
  | handBack u st sql => exact done (minor_handBack u st sql)
  | convertRow u row =>
    refine usual (fun p : List Value × Option Fault => .converted p.1 p.2) (get_bind fun _ => ?_)
    exact bind chore (chore_reviseTable u fun _ => rfl) fun _ => of_pure chore _
  | setReadOnly u b => exact chores (chore_reviseTable u fun _ => rfl)
  | setGlobalTemporary u b => exact chores (chore_reviseTable u fun _ => rfl)
  | setFetchSize u n => exact done (minor_setFetchSize u n)
  | setDefault u c default => exact chores (chore_reviseTable u fun _ => rfl)
  | setSequence u c sequence => exact chores (chore_reviseTable u fun _ => rfl)
  | connect u => exact usual .session (chore_connect u)
  | reconnect u failed => exact usual .session (chore_reconnect u failed)
  | giveUpSession u => exact chores (chore_giveUpSession u)
  | closeLink u => exact chores (chore_closeLink u)
  | removeTable u => exact chores (chore_removeTable u)
  | registerTable schema u => exact chores (chore_registerTable schema u)
  | dropTable schema name => exact chores (chore_dropTable schema name)
  | acquire key => exact usual .session (chore_acquire key)
  | release s force => exact chores (chore_release s force)
  | closePool => exact chores chore_closePool
  | fetchAll r => exact usual .rows (chore_fetchAll r)
  | closeStatement st => exact chores (chore_closeStatement st)
  | putStatement s sql st => exact done (minor_putStatement s sql st)
  | takeStatement s sql => exact usual .statement (chore_takeStatement s sql)
  | clearStatements s => exact chores (chore_clearStatements s)
  | discard s force => exact chores (chore_discard s force)
  | createTable | addRow | removeRow | updateRows | rowCount | next | drain | execute | query
  | prepare | executeStatement => exact (silent trivial).elim

end LinkedTables
