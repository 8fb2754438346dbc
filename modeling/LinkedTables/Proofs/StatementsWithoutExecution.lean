import LinkedTables.Proofs.ActionLogic

/-!
# Work on statements that sends nothing

Statements are prepared, taken out of the cache, handed back and closed without anything being
executed: the tables, the script, the clients and what has been executed so far stay, no result is
opened, and no session is opened or closed (`Calm`). Statements keep their sessions and texts, and
the caches of sessions stay `Truthful` as long as no statement is put under a text that is not its
own (`Shelved`).
-/

namespace LinkedTables

/-! ### What has been executed -/

/-- A statement as it was sent, with its parameters. -/
structure Sent where
  sql : String
  params : List Value
deriving Inhabited

/-- The statement that an event has sent for execution. -/
def Event.sent? : Event → Option Sent
  | executed _ sql params _ => some ⟨sql, params⟩
  | _ => none

/-- The statements sent for execution, the latest first. -/
def Host.sent (h : Host) : List Sent := h.journal.filterMap Event.sent?

/-! ### What is kept in caches -/

/-- Sessions keep statements that were prepared by them for the text under which they are kept. -/
def Host.Truthful (h : Host) : Prop :=
  ∀ s sql st, (h.session s).cache.value? sql = some st →
    st < h.statements.next ∧ (h.statement st).session = s ∧ (h.statement st).sql = sql

/-- Statements are the same, with new ones behind them, and caches are as truthful as before. -/
structure Shelved (h h' : Host) : Prop where
  next : h.statements.next ≤ h'.statements.next
  session : ∀ st, st < h.statements.next → (h'.statement st).session = (h.statement st).session
  sql : ∀ st, st < h.statements.next → (h'.statement st).sql = (h.statement st).sql
  truthful : h.Truthful → h'.Truthful

/-- A statement that a session has prepared for a text. -/
def Host.Prepared (h : Host) (s : Nat) (sql : String) (st : Nat) : Prop :=
  st < h.statements.next ∧ (h.statement st).session = s ∧ (h.statement st).sql = sql

theorem Shelved.prepared {h h' : Host} (a : Shelved h h') {s : Nat} {sql : String} {st : Nat}
    (p : h.Prepared s sql st) : h'.Prepared s sql st :=
  ⟨Nat.lt_of_lt_of_le p.1 a.next, (a.session st p.1).trans p.2.1, (a.sql st p.1).trans p.2.2⟩

theorem shelved : Frame Shelved where
  refl _ := ⟨Nat.le_refl _, fun _ _ => rfl, fun _ _ => rfl, id⟩
  trans := by
    intro h h' h'' a b
    have later {st : Nat} (known : st < h.statements.next) : st < h'.statements.next :=
      Nat.lt_of_lt_of_le known a.next
    exact ⟨Nat.le_trans a.next b.next,
      fun st known => (b.session st (later known)).trans (a.session st known),
      fun st known => (b.sql st (later known)).trans (a.sql st known),
      fun truthful => b.truthful (a.truthful truthful)⟩

theorem Shelved.of_same {h h' : Host} (sessions : h'.sessions = h.sessions)
    (statements : h'.statements = h.statements) : Shelved h h' := by
  have session (s : Nat) : h'.session s = h.session s := by rw [Host.session, sessions]; rfl
  have statement (st : Nat) : h'.statement st = h.statement st := by
    rw [Host.statement, statements]
    rfl
  refine ⟨statements ▸ Nat.le_refl _, fun st _ => by rw [statement], fun st _ => by rw [statement],
    fun truthful s sql st found => ?_⟩
  rw [statements, statement]
  rw [session] at found
  exact truthful s sql st found

/-- Statements that change in neither session nor text. -/
theorem Shelved.of_statements {h : Host} {st : Nat} {f : Statement → Statement}
    (session : ∀ statement, (f statement).session = statement.session)
    (sql : ∀ statement, (f statement).sql = statement.sql) :
    Shelved h { h with statements := h.statements.revise st f } := by
  have at_st (st' : Nat) :
      (({ h with statements := h.statements.revise st f } : Host).statement st').session
          = (h.statement st').session
        ∧ (({ h with statements := h.statements.revise st f } : Host).statement st').sql
          = (h.statement st').sql := by
    simp only [Host.statement, Roster.at?_revise]
    split
    · cases h.statements.at? st' with
      | none => exact ⟨rfl, rfl⟩
      | some statement => exact ⟨session statement, sql statement⟩
    · exact ⟨rfl, rfl⟩
  have next := Roster.next_revise h.statements st f
  refine ⟨next ▸ Nat.le_refl _, fun st' _ => (at_st st').1, fun st' _ => (at_st st').2,
    fun truthful s sql st' found => ?_⟩
  obtain ⟨known, its_session, its_sql⟩ := truthful s sql st' found
  exact ⟨next.symm ▸ known, (at_st st').1.trans its_session, (at_st st').2.trans its_sql⟩

/-- A session that keeps nothing but what it kept before, and what is under its own text. -/
theorem Shelved.of_session {h : Host} {s : Nat} {f : Session → Session}
    (keeps : ∀ session sql st, (f session).cache.value? sql = some st →
      session.cache.value? sql = some st
        ∨ st < h.statements.next ∧ (h.statement st).session = s ∧ (h.statement st).sql = sql) :
    Shelved h { h with sessions := h.sessions.revise s f } := by
  refine ⟨Nat.le_refl _, fun _ _ => rfl, fun _ _ => rfl, fun truthful s' sql st found => ?_⟩
  have before := truthful s' sql st
  simp only [Host.session, Roster.at?_revise] at found before
  split at found
  next same =>
    cases e : h.sessions.at? s' with
    | none =>
      rw [e] at found
      cases found
    | some session =>
      rw [e] at found before
      rcases keeps session sql st found with kept | own
      · exact before kept
      · exact same ▸ own
  next => exact before found

/-- A session that is opened keeps nothing yet. -/
theorem Shelved.of_open {h : Host} {session : Session} (bare : session.cache = []) :
    Shelved h { h with sessions := h.sessions.join session } := by
  refine ⟨Nat.le_refl _, fun _ _ => rfl, fun _ _ => rfl, fun truthful s sql st found => ?_⟩
  have before := truthful s sql st
  simp only [Host.session, Roster.at?_join] at found before
  split at found
  · rw [Option.getD_some, bare] at found
    cases found
  · exact before found

/-- A statement that is prepared comes behind all others. -/
theorem Shelved.of_prepare (h : Host) (statement : Statement) :
    Shelved h { h with statements := h.statements.join statement } := by
  have same {st : Nat} (known : st < h.statements.next) :
      ({ h with statements := h.statements.join statement } : Host).statement st
        = h.statement st :=
    congrArg (·.getD default) (Roster.at?_join_of_lt known)
  have next := Roster.next_join h.statements statement
  refine ⟨by rw [next]; omega, fun st known => by rw [same known],
    fun st known => by rw [same known], fun truthful s sql st found => ?_⟩
  obtain ⟨known, own⟩ := truthful s sql st found
  rw [same known]
  exact ⟨by rw [next]; omega, own⟩

/-! ### The relation -/

/-- What matters of a session to those who write statements for it and execute them. -/
def Session.face (session : Session) : Bool × String := (session.closed, session.dialect)

theorem closed_of_face {session session' : Session} (face : session'.face = session.face) :
    session'.closed = session.closed :=
  congrArg Prod.fst face

theorem dialect_of_face {session session' : Session} (face : session'.face = session.face) :
    session'.dialect = session.dialect :=
  congrArg Prod.snd face

/-- Nothing has been executed, and nothing that is executed from has changed but for the caches of
sessions. Of a result there are at most fewer rows to come. -/
structure Still (h h' : Host) : Prop where
  tables : h'.tables = h.tables
  script : h'.script = h.script
  clients : h'.clients = h.clients
  cancelled : h'.cancelled = h.cancelled
  answered : h'.results.next = h.results.next
  rows : ∀ r, (h'.result r).rows <:+ (h.result r).rows
  sent : h'.sent = h.sent
  face : ∀ s, (h'.session s).face = (h.session s).face

/-- Nothing that a statement could be executed for or with has changed. -/
structure Calm (h h' : Host) : Prop extends Still h h' where
  shelved : Shelved h h'

theorem still : Frame Still where
  refl _ := ⟨rfl, rfl, rfl, rfl, rfl, fun _ => List.suffix_rfl, rfl, fun _ => rfl⟩
  trans := fun a b => ⟨b.tables.trans a.tables, b.script.trans a.script, b.clients.trans a.clients,
    b.cancelled.trans a.cancelled, b.answered.trans a.answered,
    fun r => (b.rows r).trans (a.rows r), b.sent.trans a.sent,
    fun s => (b.face s).trans (a.face s)⟩

theorem calm : Frame Calm where
  refl h := ⟨still.refl h, shelved.refl h⟩
  trans := fun a b => ⟨still.trans a.toStill b.toStill, shelved.trans a.shelved b.shelved⟩

/-- What does not matter for the execution of statements. -/
theorem Still.of_others {h : Host} {log : List LogEntry} {level : Level} {link : Option String}
    {connects : Nat} {pool : Pool} {statements : Roster Statement} {cursors : Roster Cursor}
    {registry : Registry Nat} :
    Still h { h with log, level, link, connects, pool, statements, cursors, registry } :=
  ⟨rfl, rfl, rfl, rfl, rfl, fun _ => List.suffix_rfl, rfl, fun _ => rfl⟩

theorem Calm.log (h : Host) (log : List LogEntry) : Calm h { h with log } :=
  ⟨.of_others, .of_same rfl rfl⟩

theorem Calm.link (h : Host) (link : Option String) : Calm h { h with link } :=
  ⟨.of_others, .of_same rfl rfl⟩

/-- A change of sessions that is not seen by those who write statements for them. -/
theorem Still.of_sessions {h : Host} {sessions : Roster Session}
    (face : ∀ s, (({ h with sessions } : Host).session s).face = (h.session s).face) :
    Still h { h with sessions } :=
  ⟨rfl, rfl, rfl, rfl, rfl, fun _ => List.suffix_rfl, rfl, face⟩

/-- A change of a result of which there are at most fewer rows to come. -/
theorem Calm.of_result {h : Host} {r : Nat} {f : ResultSet → ResultSet}
    (fewer : (f (h.result r)).rows <:+ (h.result r).rows) :
    Calm h { h with results := h.results.revise r f } := by
  refine ⟨⟨rfl, rfl, rfl, rfl, Roster.next_revise .., fun r' => ?_, rfl, fun _ => rfl⟩,
    .of_same rfl rfl⟩
  simp only [Host.result, Roster.at?_revise] at fewer ⊢
  split
  next same =>
    subst same
    cases e : h.results.at? r with
    | none => exact List.suffix_rfl
    | some result => rwa [e] at fewer
  next => exact List.suffix_rfl

theorem Host.statement_of_revise_self {h : Host} {st : Nat} (known : st < h.statements.next)
    (f : Statement → Statement) :
    ({ h with statements := h.statements.revise st f } : Host).statement st
      = f (h.statement st) := by
  obtain ⟨member, e⟩ : ∃ member, h.statements.at? st = some member :=
    ⟨_, List.getElem?_eq_getElem known⟩
  simp only [Host.statement, Roster.at?_revise_self, e]
  rfl

/-- A change of a session that is not seen by those who write statements for it. -/
theorem Host.face_of_revise (h : Host) (s : Nat) {f : Session → Session}
    (face : ∀ session, (f session).face = session.face) (s' : Nat) :
    (({ h with sessions := h.sessions.revise s f } : Host).session s').face
      = (h.session s').face := by
  simp only [Host.session, Roster.at?_revise]
  split
  · cases h.sessions.at? s' with
    | none => rfl
    | some session => exact face session
  · rfl

namespace Action

open Keeps

/-! ### Single changes -/

theorem calm_note {event : Event} (silent : event.sent? = none) : Keeps Calm (note event) := by
  refine of_modify fun h => ⟨⟨rfl, rfl, rfl, rfl, rfl, fun _ => List.suffix_rfl, ?_, fun _ => rfl⟩,
    .of_same rfl rfl⟩
  rw [Host.sent, List.filterMap_cons, silent]
  rfl

theorem calm_report (notice : Notice) : Keeps Calm (report notice) := of_report calm Calm.log notice

theorem calm_reportAll (notices : List Notice) : Keeps Calm (reportAll notices) :=
  of_forM calm notices calm_report

theorem calm_reviseStatement (st : Nat) {f : Statement → Statement}
    (session : ∀ statement, (f statement).session = statement.session)
    (sql : ∀ statement, (f statement).sql = statement.sql) : Keeps Calm (reviseStatement st f) :=
  of_modify fun _ => ⟨.of_others, .of_statements session sql⟩

theorem calm_reviseResult (r : Nat) {f : ResultSet → ResultSet}
    (rows : ∀ result, (f result).rows = result.rows) : Keeps Calm (reviseResult r f) :=
  of_modify fun _ => .of_result ((rows _).symm ▸ List.suffix_rfl)

theorem calm_revisePool (f : Pool → Pool) : Keeps Calm (revisePool f) :=
  of_modify fun _ => ⟨.of_others, .of_same rfl rfl⟩

theorem calm_reviseCursor (c : Nat) (f : Cursor → Cursor) : Keeps Calm (reviseCursor c f) :=
  of_modify fun _ => ⟨.of_others, .of_same rfl rfl⟩

/-- A change of a session that stays as it is, with fewer statements at most. -/
theorem calm_reviseSession (s : Nat) {f : Session → Session}
    (face : ∀ session, (f session).face = session.face)
    (fewer : ∀ session sql st, (f session).cache.value? sql = some st →
      session.cache.value? sql = some st) : Keeps Calm (reviseSession s f) :=
  of_modify fun h => ⟨.of_sessions (Host.face_of_revise h s face),
    .of_session fun session sql st found => .inl (fewer session sql st found)⟩

theorem fewer_of_drop {cache : Ledger String Nat} {dropped sql : String} {st : Nat}
    (found : (cache.drop dropped).value? sql = some st) : cache.value? sql = some st := by
  by_cases same : dropped = sql
  · subst same
    rw [Ledger.value?_drop_self] at found
    cases found
  · rwa [Ledger.value?_drop_of_ne cache same] at found

/-! ### Statements -/

theorem calm_prepare (s : Nat) (sql : String) (fetchSize : Int) :
    Keeps Calm (prepare s sql fetchSize) := by
  refine get_bind fun _ => Keeps.bind calm (of_modify fun h => ?_) fun _ => of_pure calm _
  exact ⟨.of_others, .of_prepare h _⟩

theorem calm_closeResult (st : Nat) : Keeps Calm (closeResult st) := by
  refine get_bind fun h => ?_
  split
  · exact of_pure calm ()
  · exact bind calm (calm_note rfl) fun _ => bind calm (calm_reviseResult _ fun _ => rfl) fun _ =>
      calm_reviseStatement _ (fun _ => rfl) fun _ => rfl

theorem calm_closeStatement (st : Nat) : Keeps Calm (closeStatement st) :=
  bind calm (calm_closeResult st) fun _ => calm_reviseStatement _ (fun _ => rfl) fun _ => rfl

theorem calm_takeStatement (s : Nat) (sql : String) : Keeps Calm (takeStatement s sql) := by
  refine get_bind fun _ => bind calm ?_ fun _ => of_pure calm _
  exact calm_reviseSession s (fun _ => rfl) fun _ _ _ => fewer_of_drop

theorem calm_clearStatements (s : Nat) : Keeps Calm (clearStatements s) := by
  refine get_bind fun _ => bind calm ?_ fun _ => of_forM calm _ fun _ => calm_closeStatement _
  exact calm_reviseSession s (fun _ => rfl) fun _ _ _ found => by cases found

/-- A statement is put under the text for which it was prepared. -/
theorem calm_putStatement {h : Host} {s st : Nat} {sql : String} (known : st < h.statements.next)
    (own : (h.statement st).sql = sql) : Calm h (h.act (putStatement s sql st)).2 := by
  rw [putStatement, Host.act_get_bind]
  dsimp only
  split
  next => exact calm_closeStatement st h
  next fits =>
    simp only [Bool.or_eq_true, decide_eq_true_eq, not_or, ne_eq, Decidable.not_not] at fits
    have kept : Calm h { h with sessions := h.sessions.revise s fun session =>
        { session with cache := session.cache.put sql st } } := by
      refine ⟨.of_sessions (Host.face_of_revise h s fun _ => rfl),
        .of_session fun session sql' st' found => ?_⟩
      by_cases same : sql = sql'
      · subst same
        rw [Ledger.value?_put_self] at found
        cases found
        exact .inr ⟨known, fits.2, own⟩
      · rw [Ledger.value?_put_of_ne _ _ same] at found
        exact .inl found
    refine calm.trans kept ?_
    split
    · exact of_ite (calm_closeStatement _) (of_pure calm ()) _
    · exact of_pure calm () _

/-- A statement that was prepared for a text is handed back under it. -/
theorem calm_handBack {h : Host} {t st : Nat} {sql : String} (known : st < h.statements.next)
    (own : (h.statement st).sql = sql) : Calm h (h.act (handBack t st sql)).2 := by
  rw [handBack, Host.act_get_bind]
  split
  · exact calm_closeStatement st h
  · split
    · exact calm_closeStatement st h
    · rw [Host.act_bind]
      have closed := calm_closeResult st h
      generalize h.act (closeResult st) = p at closed ⊢
      obtain ⟨fault | _, h'⟩ := p
      · exact closed
      · exact calm.trans closed (calm_putStatement (Nat.lt_of_lt_of_le known closed.shelved.next)
          ((closed.shelved.sql st known).trans own))

/-! ### Work that succeeds -/

theorem report_succeeds (notice : Notice) : Succeeds (report notice) := .of_modify _

theorem prepare_succeeds (s : Nat) (sql : String) (n : Int) : Succeeds (prepare s sql n) :=
  .get_bind fun _ => .bind (.of_modify _) fun _ => .of_pure _

theorem takeStatement_succeeds (s : Nat) (sql : String) : Succeeds (takeStatement s sql) :=
  .get_bind fun _ => .bind (.of_modify _) fun _ => .of_pure _

theorem closeResult_succeeds (st : Nat) : Succeeds (closeResult st) := by
  refine .get_bind fun h => ?_
  split
  · exact .of_pure ()
  · exact .bind (.of_modify _) fun _ => .bind (.of_modify _) fun _ => .of_modify _

theorem closeStatement_succeeds (st : Nat) : Succeeds (closeStatement st) :=
  .bind (closeResult_succeeds st) fun _ => .of_modify _

theorem clearStatements_succeeds (s : Nat) : Succeeds (clearStatements s) :=
  .get_bind fun _ => .bind (.of_modify _) fun _ => .of_forM _ fun _ => closeStatement_succeeds _

theorem putStatement_succeeds (s : Nat) (sql : String) (st : Nat) :
    Succeeds (putStatement s sql st) := by
  refine .get_bind fun h => .of_ite (closeStatement_succeeds st) (.bind (.of_modify _) fun _ => ?_)
  split
  · exact .of_ite (closeStatement_succeeds _) (.of_pure ())
  · exact .of_pure ()

theorem handBack_succeeds (t st : Nat) (sql : String) : Succeeds (handBack t st sql) := by
  refine .get_bind fun h => ?_
  split
  · exact closeStatement_succeeds st
  · exact .of_ite (closeStatement_succeeds st)
      (.bind (closeResult_succeeds st) fun _ => putStatement_succeeds _ sql st)

/-! ### Reading -/

theorem calm_convertFor (client : Option Nat) (v : Value) : Keeps Calm (convertFor client v) := by
  cases client with
  | none => exact of_pure calm v
  | some c => exact get_bind fun _ => of_ofExcept calm _

theorem calm_fetch (r : Nat) : Keeps Calm (fetch r) := by
  refine get_bind_at fun h => ?_
  dsimp only
  split
  · exact calm.refl h
  next row rest here =>
    have taken : Calm h { h with results := h.results.revise r fun result =>
        { result with rows := rest } } :=
      .of_result (here ▸ List.suffix_cons row rest)
    split
    · exact calm.refl h
    · cases row with
      | ok values => exact taken
      | error fault => exact taken

theorem calm_fetchFrom (r fuel : Nat) : Keeps Calm (fetchFrom r fuel) := by
  induction fuel with
  | zero => exact of_pure calm []
  | succ fuel ih =>
    refine bind calm (calm_fetch r) fun row => ?_
    cases row with
    | none => exact of_pure calm []
    | some row => exact bind calm ih fun _ => of_pure calm _

theorem calm_fetchAll (r : Nat) : Keeps Calm (fetchAll r) := get_bind fun _ => calm_fetchFrom _ _

theorem calm_readRows (st : Nat) : Keeps Calm (readRows st) := by
  refine get_bind fun h => ?_
  split
  · exact calm_fetchAll _
  · exact of_pure calm []

theorem calm_readSingle (st : Nat) : Keeps Calm (readSingle st) := by
  refine get_bind fun h => ?_
  split
  · exact of_throw calm _
  next r _ =>
    refine bind calm (calm_fetch r) fun row => ?_
    cases row with
    | none => exact of_throw calm _
    | some row =>
      refine bind calm (calm_fetch r) fun other => ?_
      cases other with
      | some _ => exact of_throw calm _
      | none =>
        cases row with
        | nil => exact of_throw calm _
        | cons v _ => exact of_pure calm v

/-! ### Attempts -/

/-- What comes of a statement that has been found for an attempt: it is executed, or closed if the
remote side refuses it. -/
def settle (st : Nat) (values : List Value) : Action (Except Fault Nat) := do
  match ← outcome (executeStatement st values) with
  | .ok _ => return .ok st
  | .error fault =>
    if fault.isRemote then
      closeStatement st
      return .error fault
    else throw fault

end Action

end LinkedTables
