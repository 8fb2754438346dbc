import LinkedTables.Proofs.StatementAttempts
import LinkedTables.Proofs.UseFrame

/-!
# Work on sessions that leaves them open

Statements are executed on a session, and shapes are read over it, without any session being opened,
closed, taken or given back: the pool, and the sessions but for their flags and the statements that
they keep, stay as they are (`Firm`). What a session keeps stays its own (`Host.Owns`), as long as
no statement is handed back that was never prepared.
-/

namespace LinkedTables

/-- The statements that a session keeps were prepared on it. -/
def Host.Owns (h : Host) (s : Nat) : Prop :=
  ∀ sql st, (h.session s).cache.value? sql = some st →
    st < h.statements.next ∧ (h.statement st).session = s

/-- The pool is the same, its sessions are the same but for their flags and caches, and of the
outcomes to come only the last are left. -/
structure Firm (h h' : Host) : Prop where
  script : h.script.Later h'.script
  pool : h'.pool = h.pool
  cursors : h'.cursors = h.cursors
  sessions : h'.sessions.next = h.sessions.next
  line : ∀ s, (h'.session s).line = (h.session s).line
  vendor : ∀ s, (h'.session s).vendor = (h.session s).vendor
  statements : h.statements.next ≤ h'.statements.next
  owns : ∀ s, h.Owns s → h'.Owns s

theorem firm : Frame Firm where
  refl _ := ⟨.refl _, rfl, rfl, rfl, fun _ => rfl, fun _ => rfl, Nat.le_refl _, fun _ => id⟩
  trans a b := ⟨a.script.trans b.script, b.pool.trans a.pool, b.cursors.trans a.cursors,
    b.sessions.trans a.sessions, fun s => (b.line s).trans (a.line s),
    fun s => (b.vendor s).trans (a.vendor s), Nat.le_trans a.statements b.statements,
    fun s owns => b.owns s (a.owns s owns)⟩

namespace Firm

variable {h h' : Host}

theorem closed (f : Firm h h') (s : Nat) : (h'.session s).closed = (h.session s).closed :=
  congrArg Line.closed (f.line s)

theorem key (f : Firm h h') (s : Nat) : (h'.session s).key = (h.session s).key :=
  congrArg Line.key (f.line s)

/-- The shared session of a target is the same. -/
theorem sharedSession? (f : Firm h h') (key : LinkKey) :
    Action.sharedSession? h' key = Action.sharedSession? h key := by
  simp only [Action.sharedSession?, f.pool, f.closed]

/-- A change of what neither sessions nor statements depend on. -/
theorem of_others (script : h.script.Later h'.script) (pool : h'.pool = h.pool)
    (cursors : h'.cursors = h.cursors) (sessions : h'.sessions = h.sessions)
    (statements : h'.statements = h.statements) : Firm h h' := by
  have session (s : Nat) : h'.session s = h.session s := by rw [Host.session, sessions]; rfl
  refine ⟨script, pool, cursors, congrArg Roster.next sessions, fun s => by rw [session],
    fun s => by rw [session], Nat.le_of_eq (congrArg Roster.next statements).symm,
    fun s owns sql st found => ?_⟩
  rw [session] at found
  rw [Host.statement, statements]
  exact owns sql st found

/-- A change of a session that is not seen by the pool, and adds no statement but its own. -/
theorem of_session {s : Nat} {f : Session → Session}
    (line : ∀ session, (f session).line = session.line)
    (vendor : ∀ session, (f session).vendor = session.vendor)
    (own : ∀ session sql st, (f session).cache.value? sql = some st →
      session.cache.value? sql = some st
        ∨ st < h.statements.next ∧ (h.statement st).session = s) :
    Firm h { h with sessions := h.sessions.revise s f } := by
  have session (s' : Nat) :
      ({ h with sessions := h.sessions.revise s f } : Host).session s' = h.session s'
        ∨ s' = s ∧ ({ h with sessions := h.sessions.revise s f } : Host).session s'
          = f (h.session s') := by
    simp only [Host.session, Roster.at?_revise]
    split
    next same =>
      subst same
      cases h.sessions.at? s with
      | none => exact .inl rfl
      | some _ => exact .inr ⟨rfl, rfl⟩
    next => exact .inl rfl
  refine ⟨.refl _, rfl, rfl, Roster.next_revise .., fun s' => ?_, fun s' => ?_, Nat.le_refl _,
    fun s' owns sql st found => ?_⟩
  · rcases session s' with e | ⟨-, e⟩
    · rw [e]
    · rw [e, line]
  · rcases session s' with e | ⟨-, e⟩
    · rw [e]
    · rw [e, vendor]
  · rcases session s' with e | ⟨rfl, e⟩
    · rw [e] at found
      exact owns sql st found
    · rw [e] at found
      exact (own _ sql st found).elim (owns sql st) id

/-- A change of a statement that stays with its session. -/
theorem of_statement {st : Nat} {f : Statement → Statement}
    (session : ∀ statement, (f statement).session = statement.session) :
    Firm h { h with statements := h.statements.revise st f } := by
  refine ⟨.refl _, rfl, rfl, rfl, fun _ => rfl, fun _ => rfl,
    Nat.le_of_eq (Roster.next_revise h.statements st f).symm, fun s owns sql st' found => ?_⟩
  obtain ⟨known, own⟩ := owns sql st' found
  refine ⟨(Roster.next_revise h.statements st f).symm ▸ known, Eq.trans ?_ own⟩
  simp only [Host.statement, Roster.at?_revise]
  split
  · cases h.statements.at? st' with
    | none => rfl
    | some statement => exact session statement
  · rfl

/-- A statement is prepared. -/
theorem of_prepare (statement : Statement) :
    Firm h { h with statements := h.statements.join statement } := by
  have next := Roster.next_join h.statements statement
  refine ⟨.refl _, rfl, rfl, rfl, fun _ => rfl, fun _ => rfl, by rw [next]; omega,
    fun s owns sql st found => ?_⟩
  obtain ⟨known, own⟩ := owns sql st found
  refine ⟨by rw [next]; omega, Eq.trans ?_ own⟩
  exact congrArg (fun found : Option Statement => (found.getD default).session)
    (Roster.at?_join_of_lt known)

end Firm

namespace Action

open Keeps

/-! ### Single changes -/

/-- A change of what neither sessions nor statements depend on. -/
theorem firm_modify {f : Host → Host} (script : ∀ h, (f h).script = h.script)
    (pool : ∀ h, (f h).pool = h.pool) (cursors : ∀ h, (f h).cursors = h.cursors)
    (sessions : ∀ h, (f h).sessions = h.sessions)
    (statements : ∀ h, (f h).statements = h.statements) : Keeps Firm (modify f) :=
  of_modify fun h => .of_others (script h ▸ .refl _) (pool h) (cursors h) (sessions h)
    (statements h)

theorem firm_note (event : Event) : Keeps Firm (note event) :=
  firm_modify (fun _ => rfl) (fun _ => rfl) (fun _ => rfl) (fun _ => rfl) fun _ => rfl

theorem firm_report (notice : Notice) : Keeps Firm (report notice) :=
  of_report firm (fun _ _ => .of_others (.refl _) rfl rfl rfl rfl) notice

theorem firm_reportAll (notices : List Notice) : Keeps Firm (reportAll notices) :=
  of_forM firm notices firm_report

theorem firm_reviseResult (r : Nat) (f : ResultSet → ResultSet) : Keeps Firm (reviseResult r f) :=
  firm_modify (fun _ => rfl) (fun _ => rfl) (fun _ => rfl) (fun _ => rfl) fun _ => rfl

theorem firm_reviseTable (t : Nat) (f : LinkedTable → LinkedTable) : Keeps Firm (reviseTable t f) :=
  firm_modify (fun _ => rfl) (fun _ => rfl) (fun _ => rfl) (fun _ => rfl) fun _ => rfl

theorem firm_reviseStatement (st : Nat) {f : Statement → Statement}
    (session : ∀ statement, (f statement).session = statement.session) :
    Keeps Firm (reviseStatement st f) :=
  of_modify fun _ => .of_statement session

theorem firm_call {α : Type} {call : Remote.Script → α × Remote.Script}
    (later : ∀ s : Remote.Script, s.Later (call s).2) : Keeps Firm (fromScript call) :=
  fun h => .of_others (later h.script) rfl rfl rfl rfl

/-! ### Statements -/

theorem firm_closeResult (st : Nat) : Keeps Firm (closeResult st) := by
  refine get_bind fun h => ?_
  split
  · exact of_pure firm ()
  · exact bind firm (firm_note _) fun _ => bind firm (firm_reviseResult _ _) fun _ =>
      firm_reviseStatement _ fun _ => rfl

theorem firm_closeStatement (st : Nat) : Keeps Firm (closeStatement st) :=
  bind firm (firm_closeResult st) fun _ => firm_reviseStatement _ fun _ => rfl

theorem firm_prepare (s : Nat) (sql : String) (fetchSize : Int) :
    Keeps Firm (prepare s sql fetchSize) :=
  get_bind fun _ => bind firm (of_modify fun _ => .of_prepare _) fun _ => of_pure firm _

theorem firm_takeStatement (s : Nat) (sql : String) : Keeps Firm (takeStatement s sql) := by
  refine get_bind fun _ => bind firm ?_ fun _ => of_pure firm _
  exact of_modify fun _ => .of_session (fun _ => rfl) (fun _ => rfl) fun _ _ _ found =>
    .inl (fewer_of_drop found)

/-- A statement that has been prepared is put into the cache of its own session only. -/
theorem firm_putStatement {h : Host} {st : Nat} (known : st < h.statements.next) (s : Nat)
    (sql : String) : Firm h (h.act (putStatement s sql st)).2 := by
  rw [putStatement, Host.act_get_bind]
  dsimp only
  split
  next => exact firm_closeStatement st h
  next fits =>
    simp only [Bool.or_eq_true, decide_eq_true_eq, not_or, ne_eq, Decidable.not_not] at fits
    have kept : Firm h { h with sessions := h.sessions.revise s fun session =>
        { session with cache := session.cache.put sql st } } := by
      refine .of_session (fun _ => rfl) (fun _ => rfl) fun session sql' st' found => ?_
      by_cases same : sql = sql'
      · subst same
        rw [Ledger.value?_put_self] at found
        cases found
        exact .inr ⟨known, fits.2⟩
      · rw [Ledger.value?_put_of_ne _ _ same] at found
        exact .inl found
    refine firm.trans kept ?_
    split
    · exact of_ite (firm_closeStatement _) (of_pure firm ()) _
    · exact of_pure firm () _

theorem firm_handBack {h : Host} {st : Nat} (known : st < h.statements.next) (t : Nat)
    (sql : String) : Firm h (h.act (handBack t st sql)).2 := by
  rw [handBack, Host.act_get_bind]
  split
  · exact firm_closeStatement st h
  · split
    · exact firm_closeStatement st h
    · rw [Host.act_bind]
      have closed := firm_closeResult st h
      generalize h.act (closeResult st) = p at closed ⊢
      obtain ⟨fault | _, h'⟩ := p
      · exact closed
      · exact firm.trans closed (firm_putStatement (Nat.lt_of_lt_of_le known closed.statements) _ _)

theorem firm_executeStatement (st : Nat) (params : List Value) :
    Keeps Firm (executeStatement st params) := by
  refine bind firm (firm_closeResult st) fun _ => get_bind fun h => ?_
  dsimp only
  refine bind firm (firm_note _) fun _ => of_ite (of_throw firm _) ?_
  refine bind firm (firm_call Remote.Script.later_execute) fun answer => ?_
  refine bind firm (of_ofExcept firm _) fun answer => get_bind fun h => ?_
  refine bind firm ?_ fun _ => bind firm (firm_reviseStatement _ fun _ => rfl) fun _ =>
    of_pure firm _
  exact firm_modify (fun _ => rfl) (fun _ => rfl) (fun _ => rfl) (fun _ => rfl) fun _ => rfl

theorem firm_settle (st : Nat) (values : List Value) : Keeps Firm (settle st values) := by
  refine outcome_bind firm (firm_executeStatement st values) fun r => ?_
  cases r with
  | ok _ => exact of_pure firm _
  | error fault =>
    exact of_ite (bind firm (firm_closeStatement st) fun _ => of_pure firm _) (of_throw firm _)

theorem firm_convertFor (client : Option Nat) (v : Value) : Keeps Firm (convertFor client v) := by
  cases client with
  | none => exact of_pure firm v
  | some c => exact get_bind fun _ => of_ofExcept firm _

/-- An attempt at a statement changes nothing but statements. -/
theorem firm_attemptExecute (u s : Nat) (sql : String) (params : List Value)
    (client : Option Nat) : Keeps Firm (attemptExecute u s sql params client) := by
  refine bind firm (of_mapM firm params (firm_convertFor client)) fun values => get_bind fun h => ?_
  refine bind firm (firm_takeStatement s sql) fun found => ?_
  have executed (st : Nat) : Keeps Firm (do
      report ⟨.debug, Sql.trace (h.table u).name sql params⟩
      settle st values) :=
    bind firm (firm_report _) fun _ => firm_settle st values
  cases found with
  | some st => exact executed st
  | none => exact bind firm (firm_prepare s sql _) executed

/-! ### Reading results -/

theorem firm_fetch (r : Nat) : Keeps Firm (fetch r) := by
  refine get_bind fun h => ?_
  dsimp only
  split
  · exact of_pure firm none
  next row rest _ =>
    refine of_ite (bind firm (of_throw firm _) fun _ => ?_) ?_
    all_goals
      refine bind firm (firm_reviseResult _ _) fun _ => ?_
      cases row with
      | ok values => exact of_pure firm _
      | error fault => exact of_throw firm _

theorem firm_fetchFrom (r fuel : Nat) : Keeps Firm (fetchFrom r fuel) := by
  induction fuel with
  | zero => exact of_pure firm []
  | succ fuel ih =>
    refine bind firm (firm_fetch r) fun row => ?_
    cases row with
    | none => exact of_pure firm []
    | some row => exact bind firm ih fun _ => of_pure firm _

theorem firm_fetchAll (r : Nat) : Keeps Firm (fetchAll r) := get_bind fun _ => firm_fetchFrom _ _

theorem firm_readRows (st : Nat) : Keeps Firm (readRows st) := by
  refine get_bind fun h => ?_
  split
  · exact firm_fetchAll _
  · exact of_pure firm []

theorem firm_readSingle (st : Nat) : Keeps Firm (readSingle st) := by
  refine get_bind fun h => ?_
  split
  · exact of_throw firm _
  next r _ =>
    refine bind firm (firm_fetch r) fun row => ?_
    cases row with
    | none => exact of_throw firm _
    | some row =>
      refine bind firm (firm_fetch r) fun other => ?_
      cases other with
      | some _ => exact of_throw firm _
      | none =>
        cases row with
        | nil => exact of_throw firm _
        | cons v _ => exact of_pure firm v

/-! ### Reading shapes -/

theorem firm_ask (catalog : Catalog) (question : CatalogQuestion) (schema : Option String)
    (table : String) : Keeps Firm (ask catalog question schema table) :=
  of_ite (firm_note _) (of_pure firm ())

theorem firm_probe (s : Nat) (name table : String) : Keeps Firm (probe s name table) := by
  refine get_bind fun h => bind firm (firm_note _) fun _ => ?_
  refine bind firm (firm_call Remote.Script.later_probe) fun r => ?_
  cases r with
  | error fault => exact of_throw firm _
  | ok description =>
    exact bind firm (firm_note _) fun _ => get_bind fun _ => of_ofExcept firm _

theorem firm_readCatalogColumns (catalog : Catalog) (canonicalName : String → String)
    (schema : Option String) (table : String) :
    Keeps Firm (readCatalogColumns catalog canonicalName schema table) := by
  refine bind firm (firm_ask _ _ _ _) fun _ => bind firm (of_ofExcept firm _) fun found => ?_
  have read : Keeps Firm (do
      ask catalog .columns schema table
      ofExcept (Shape.catalogColumns canonicalName (catalog.columns schema table))) :=
    bind firm (firm_ask _ _ _ _) fun _ => of_ofExcept firm _
  exact of_ite (bind firm (of_throw firm _) fun _ => read) read

theorem firm_readCatalogIndexes (catalog : Catalog) (resolve : Reconstruction.Resolver)
    (schema : Option String) (table : String) :
    Keeps Firm (readCatalogIndexes catalog resolve schema table) := by
  refine bind firm (firm_ask _ _ _ _) fun _ => ?_
  refine bind firm (firm_reportAll _) fun _ => bind firm (of_ofExcept firm _) ?_
  rintro ⟨primary, key⟩
  refine bind firm (firm_ask _ _ _ _) fun _ => ?_
  refine bind firm (firm_reportAll _) fun _ => bind firm (of_ofExcept firm _) fun others => ?_
  exact of_pure firm _

theorem firm_readShape (d : Definition) (catalog : Catalog) (s : Nat) :
    Keeps Firm (readShape d catalog s) := by
  refine bind firm (of_modify fun _ => .of_session (fun _ => rfl) (fun _ => rfl) fun _ _ _ found =>
    .inl found) fun _ => get_bind fun h => ?_
  refine of_either firm (of_pure firm _) (firm_readCatalogColumns _ _ _ _) ?_
  rintro ⟨reported, schema⟩
  refine bind firm (firm_probe _ _ _) fun probed => ?_
  refine of_either firm (of_pure firm _) (firm_readCatalogIndexes _ _ _ _) fun others => ?_
  exact bind firm (firm_report _) fun _ => of_pure firm _

theorem firm_handshake (t s : Nat) : Keeps Firm (handshake t s) := by
  have catalog : Keeps Firm (nextCatalog t) := by
    refine get_bind fun h => ?_
    split
    · exact of_throw firm _
    · exact of_pure firm _
    · exact bind firm (firm_reviseTable t _) fun _ => of_pure firm _
  refine get_bind fun h => bind firm catalog fun _ => ?_
  refine bind firm (firm_readShape _ _ _) fun shape => ?_
  refine bind firm (firm_reviseTable t _) fun _ => get_bind fun h => ?_
  exact of_ite (firm_reviseTable t _) (of_ite (firm_report _) (of_pure firm ()))

end Action

/-! ### Attempts on a session -/

/-- Only statements were sent, and so many; no table has changed, and no session has been opened or
closed. -/
structure Sends (n : Nat) (h h' : Host) : Prop extends Firm h h' where
  tables : h'.tables = h.tables
  clients : h'.clients = h.clients
  sent : h'.sent.length = h.sent.length + n

namespace Sends

variable {m n : Nat} {h h' h'' : Host}

theorem trans (a : Sends m h h') (b : Sends n h' h'') : Sends (m + n) h h'' where
  toFirm := firm.trans a.toFirm b.toFirm
  tables := b.tables.trans a.tables
  clients := b.clients.trans a.clients
  sent := by rw [b.sent, a.sent, Nat.add_assoc]

theorem of_calm (c : Calm h h') (f : Firm h h') : Sends 0 h h' :=
  ⟨f, c.tables, c.clients, congrArg List.length c.sent⟩

end Sends

/-- A statement is refused only by an outcome that was to come. -/
theorem Remote.Script.answer_mem {script : Remote.Script} {fault : Fault}
    (e : script.execute.1 = .error fault) : .error fault ∈ script.answers := by
  unfold execute at e
  split at e
  · cases e
  next here =>
    rw [here, ← e]
    exact List.mem_cons_self

namespace Action

/-- A table is ready with the session that it holds, unless it remembers a failure. -/
theorem readySession_eq_ok {table : LinkedTable} {s : Nat} :
    readySession table = .ok s ↔ table.failure = none ∧ table.session = some s := by
  unfold readySession
  cases table.failure <;> cases table.session <;> simp

theorem act_requireSession {h : Host} {t s : Nat} (ready : readySession (h.table t) = .ok s) :
    h.act (requireSession t) = (.ok s, h) := by
  rw [requireSession, Host.act_get_bind, ready]
  rfl

/-- Statements are used without any change of tables. -/
theorem tablesUse : UseFrame fun h h' => h'.tables = h.tables where
  refl _ := rfl
  trans a b := b.trans a
  idle i _ := i.tables
  answer _ := rfl

/-- An attempt at a statement changes no table. -/
theorem tables_attemptExecute (u s : Nat) (sql : String) (params : List Value)
    (client : Option Nat) :
    Keeps (fun h h' => h'.tables = h.tables) (attemptExecute u s sql params client) :=
  tablesUse.attemptExecute u s sql params client

/-- On a session that is closed a statement fails, and on one that is open it succeeds if the remote
side answers. -/
theorem sends_executeStatement {h : Host} {st s : Nat} (known : st < h.statements.next)
    (own : (h.statement st).session = s) (values : List Value) :
    Reaches (executeStatement st values) h fun r h' => Sends 1 h h' ∧
      ((h.session s).closed = true → ∃ fault, r = .error fault ∧ fault.isRemote = true) ∧
      ((h.session s).closed = false → (∀ fault, .error fault ∉ h.script.answers) →
        ∃ n, r = .ok n) := by
  -- What stays as it was is known already; left are the count and the outcome.
  suffices apart : Reaches (executeStatement st values) h fun r h' =>
      (h'.tables = h.tables ∧ h'.clients = h.clients ∧ h'.sent.length = h.sent.length + 1) ∧
      ((h.session s).closed = true → ∃ fault, r = .error fault ∧ fault.isRemote = true) ∧
      ((h.session s).closed = false → (∀ fault, .error fault ∉ h.script.answers) →
        ∃ n, r = .ok n) by
    refine (apart.with_host (firm_executeStatement st values h)).mono ?_
    rintro r h' ⟨⟨⟨tables, clients, sent⟩, rest⟩, firm'⟩
    exact ⟨⟨firm', tables, clients, sent⟩, rest⟩
  refine .past (closeResult_succeeds st) (ρ := fun h h' => Calm h h' ∧ Firm h h')
    (fun h => ⟨calm_closeResult st h, firm_closeResult st h⟩) fun _ h₁ ⟨calm, firm'⟩ =>
      .get_bind ?_
  dsimp only
  rw [(calm.shelved.session st known).trans own, firm'.closed s]
  have sent : h₁.sent.length + 1 = h.sent.length + 1 := by rw [calm.sent]
  refine .modify_bind (.of_ite (fun closed => ⟨⟨calm.tables, calm.clients, sent⟩,
    fun _ => ⟨_, rfl, rfl⟩, fun isOpen => ?_⟩) fun isOpen => .fromScript_bind (.bind_ofExcept
      (fun answer _ => .get_bind (.modify_bind (.modify_bind ?_))) fun fault refused => ?_))
  · rw [closed] at isOpen
    cases isOpen
  · exact ⟨⟨calm.tables, calm.clients, sent⟩, fun closed => absurd closed isOpen,
      fun _ _ => ⟨_, rfl⟩⟩
  · refine ⟨⟨calm.tables, calm.clients, sent⟩, fun closed => absurd closed isOpen,
      fun _ answers => absurd ?_ (answers fault)⟩
    rw [← calm.script]
    exact Remote.Script.answer_mem refused

/-- What an attempt at a statement on a session comes to: one statement was sent, which failed if
the session was closed, and came through if it was open and the remote side answers. -/
structure Attempted (s : Nat) (h : Host) (r : Except Fault (Except Fault Nat)) (h' : Host) :
    Prop where
  sends : Sends 1 h h'
  fails : (h.session s).closed = true → ∃ fault, r = .ok (.error fault)
  answered : (h.session s).closed = false → (∀ fault, .error fault ∉ h.script.answers) →
    ∃ st, r = .ok (.ok st) ∧ st < h'.statements.next

/-- Nothing is sent, and no session is opened or closed, before a statement is found. -/
theorem firmSearch : SearchFrame fun h h' => Calm h h' ∧ Firm h h' where
  refl h := ⟨calm.refl h, firm.refl h⟩
  trans a b := ⟨calm.trans a.1 b.1, firm.trans a.2 b.2⟩
  take s sql h := ⟨calm_takeStatement s sql h, firm_takeStatement s sql h⟩
  prepare s sql n h := ⟨calm_prepare s sql n h, firm_prepare s sql n h⟩
  report notice h := ⟨calm_report notice h, firm_report notice h⟩

section Attempt

variable {h g : Host} {s : Nat}

/-- A statement of the session, found or prepared since, is executed, and its outcome told. -/
theorem attempted_of_statement (calm' : Calm h g) (firm' : Firm h g) {st : Nat}
    (known : st < g.statements.next) (own : (g.statement st).session = s) (values : List Value) :
    Reaches (settle st values) g (Attempted s h) := by
  have before := Sends.of_calm calm' firm'
  refine .outcome_bind (sends_executeStatement known own values) fun r h' ran => ?_
  rw [before.closed s, calm'.script] at ran
  obtain ⟨attempt, closed, isOpen⟩ := ran
  have sent := Nat.zero_add 1 ▸ before.trans attempt
  cases r with
  | ok n =>
    refine ⟨sent, fun dead => ?_, fun _ _ => ⟨st, rfl, ?_⟩⟩
    · obtain ⟨fault, failed, -⟩ := closed dead
      cases failed
    · exact Nat.lt_of_lt_of_le known attempt.statements
  | error fault =>
    have open_or (alive : (h.session s).closed = false)
        (answers : ∀ fault, .error fault ∉ h.script.answers) : False := by
      obtain ⟨_, came⟩ := isOpen alive answers
      cases came
    -- A remote fault closes the statement and is told; no other is raised by a closed session.
    refine .of_ite (fun remote => .past (closeStatement_succeeds st)
      (ρ := fun h h' => Calm h h' ∧ Firm h h')
      (fun h => ⟨calm_closeStatement st h, firm_closeStatement st h⟩)
      fun _ h'' ⟨calm₁, firm₁⟩ => ?_) fun other => ?_
    · exact ⟨sent.trans (.of_calm calm₁ firm₁), fun _ => ⟨fault, rfl⟩, fun alive answers =>
        (open_or alive answers).elim⟩
    · refine ⟨sent, fun dead => ?_, fun alive answers => (open_or alive answers).elim⟩
      obtain ⟨_, failed, remote⟩ := closed dead
      cases failed
      exact absurd remote other

/-- An attempt at a statement, whose values can be bound, on a session with its own statements. -/
theorem sends_attemptExecute (owns : h.Owns s) {client : Option Nat}
    {params values : List Value} (bound : params.mapM (h.converted client) = .ok values)
    (u : Nat) (sql : String) :
    Reaches (attemptExecute u s sql params client) h (Attempted s h) := by
  refine firmSearch.attempt
    (P := fun g st => st < g.statements.next ∧ (g.statement st).session = s)
    (fun ⟨later, _⟩ ⟨known, own⟩ => ?_) (owns sql) (fun n g st e => ?_) bound
    fun st g ⟨calm', firm'⟩ ⟨known, own⟩ => attempted_of_statement calm' firm' known own values
  · exact ⟨Nat.lt_of_lt_of_le known later.shelved.next, (later.shelved.session _ known).trans own⟩
  · obtain ⟨-, known, own, -⟩ := reaches_prepare s sql n st e
    exact ⟨known, own⟩

end Attempt

end Action

/-! ### Sessions that are closed already -/

namespace Action

/-- A session that is closed is given back without further ado. -/
theorem act_release_of_closed {h : Host} {s : Nat} (closed : (h.session s).closed = true) :
    h.act (release s true) = (.ok (), { h with
      sessions := h.sessions.revise s fun session =>
        { session with useCount := session.useCount - 1 }
      pool :=
        if h.pool.shared.value? (h.session s).key = some s then
          { h.pool with shared := h.pool.shared.drop (h.session s).key }
        else h.pool }) := by
  let g : Host := { h with
    sessions := h.sessions.revise s fun session =>
      { session with useCount := session.useCount - 1 } }
  have session : g.session s = { h.session s with useCount := (h.session s).useCount - 1 } := by
    simp only [g, Host.session, Roster.at?_revise_self] at closed ⊢
    cases found : h.sessions.at? s with
    | none =>
      rw [found] at closed
      cases closed
    | some session => rfl
  show g.act (do
    let session := (← get).session s
    if !true && 0 < session.useCount then return
    revisePool fun pool =>
      if pool.shared.value? session.key = some s then
        { pool with shared := pool.shared.drop session.key }
      else pool
    discard s true) = _
  rw [Host.act_get_bind]
  dsimp only
  rw [Bool.not_true, Bool.false_and, if_neg Bool.false_ne_true, session]
  -- Nothing is left to be closed.
  have left (pool : Pool) :
      Host.act { g with pool } (discard s true) = (.ok (), { g with pool }) := by
    have dead : (({ g with pool } : Host).session s).closed = true :=
      (congrArg Session.closed session).trans closed
    rw [discard, Host.act_get_bind]
    dsimp only
    rw [dead]
    rfl
  exact left _

end Action

end LinkedTables
