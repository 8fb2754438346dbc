import LinkedTables.Proofs.ConcurrentReconnect
import LinkedTables.Proofs.OwnSessions
import LinkedTables.Proofs.Statements
import LinkedTables.Proofs.WorkInTableName

/-!
# Dealings with the remote side

Whatever is executed for a table is executed with a statement on a session of the table's own: one
that its session has kept, or one that is prepared for the table, with the number of rows that the
table fetches at a time then. `Executes t` says so of the work for the table `t`, which comes to it
on a host where sessions keep statements of theirs (`Host.Orderly`), and leaves the host so
(`Diligent t`). `Deals t` says what is left of it when the settings of the table change, and every
operation comes to that (`Host.perform_deals`).
-/

namespace LinkedTables

open LinkedTables.Action (effectiveFetchSize)

/-! ### Hosts in order -/

/-- Sessions keep statements of theirs, cursors read statements that there are, and statements are
on sessions that there are. -/
structure Host.Orderly (h : Host) : Prop where
  kept : ∀ s sql st, (h.session s).cache.value? sql = some st →
    st < h.statements.next ∧ (h.statement st).session = s
  read : ∀ c st r, (h.cursor c).phase = .reading st r → st < h.statements.next
  placed : ∀ st, st < h.statements.next → (h.statement st).session < h.sessions.next
  known : h.lines.Known

/-! ### Statements and events -/

/-- The event is an execution of the statement. -/
def Statement.Sends (statement : Statement) (e : Event) : Prop :=
  ∃ connection params, e = .executed connection (Sql.numberMarkers statement.sql).1 params
    statement.fetchSize

section Origin

variable {statement statement' : Statement} (same : statement'.origin = statement.origin)
include same

theorem session_of_origin : statement'.session = statement.session := congrArg Prod.fst same

theorem fetchSize_of_origin : statement'.fetchSize = statement.fetchSize :=
  congrArg (fun origin => origin.2.2) same

theorem sends_of_origin {e : Event} (sends : statement.Sends e) : statement'.Sends e := by
  obtain ⟨connection, params, rfl⟩ := sends
  have sql : statement'.sql = statement.sql := congrArg (fun origin => origin.2.1) same
  exact ⟨connection, params, by rw [sql, fetchSize_of_origin same]⟩

end Origin

/-! ### The relations -/

/-- Statements have been prepared and executed for the table `t` at most, on sessions of its own. -/
structure Deals (t : Nat) (h h' : Host) : Prop where
  lines : Lines.Mine t h.lines h'.lines
  statements : h.statements.next ≤ h'.statements.next
  origin : ∀ st, st < h.statements.next → (h'.statement st).origin = (h.statement st).origin
  made : ∀ st, h.statements.next ≤ st → st < h'.statements.next →
    (h'.statement st).fetchSize = effectiveFetchSize (h.table t) ∧
      h.lines.Own t (h'.statement st).session ∧ (h'.statement st).session < h'.sessions.next
  sent : ∃ new, h'.dispatches = new ++ h.dispatches ∧ ∀ e ∈ new, ∃ st < h'.statements.next,
    (h'.statement st).Sends e ∧ h.lines.Own t (h'.statement st).session

/-- Besides, the table goes on with the rows that it fetches at a time, and cursors with their
tables. -/
structure Executes (t : Nat) (h h' : Host) : Prop extends Deals t h h' where
  size : effectiveFetchSize (h'.table t) = effectiveFetchSize (h.table t)
  readers : ∀ c, (h'.cursor c).table = (h.cursor c).table

variable {t : Nat} {h h' h'' : Host}

/-- Nothing has been sent. -/
theorem Unsent.deals (u : Unsent h h') (lines : Lines.Mine t h.lines h'.lines) : Deals t h h' where
  lines := lines
  statements := Nat.le_of_eq u.next.symm
  origin st _ := u.origin st
  made _ old new := absurd (u.next ▸ new) (Nat.not_lt.mpr old)
  sent := ⟨[], u.dispatches, fun _ among => absurd among List.not_mem_nil⟩

theorem Executes.trans (a : Executes t h h') (b : Executes t h' h'') : Executes t h h'' where
  lines := a.lines.trans b.lines
  statements := Nat.le_trans a.statements b.statements
  origin st known :=
    (b.origin st (Nat.lt_of_lt_of_le known a.statements)).trans (a.origin st known)
  made st new known := by
    -- A statement of the first part is as it was; one of the second was made by the same settings.
    by_cases early : st < h'.statements.next
    · obtain ⟨size, own, there⟩ := a.made st new early
      have same := b.origin st early
      have opened := b.lines.next
      rw [Host.lines_next, Host.lines_next] at opened
      rw [fetchSize_of_origin same, session_of_origin same]
      exact ⟨size, own, Nat.lt_of_lt_of_le there opened⟩
    · obtain ⟨size, own, there⟩ := b.made st (Nat.not_lt.mp early) known
      exact ⟨size.trans (congrArg Nat.cast a.size), a.lines.own_of_own own, there⟩
  sent := by
    obtain ⟨new, sent, each⟩ := a.sent
    obtain ⟨new', sent', each'⟩ := b.sent
    refine ⟨new' ++ new, by rw [sent', sent, List.append_assoc], fun e among => ?_⟩
    obtain among | among := List.mem_append.mp among
    · obtain ⟨st, known, sends, own⟩ := each' e among
      exact ⟨st, known, sends, a.lines.own_of_own own⟩
    · obtain ⟨st, known, sends, own⟩ := each e among
      have same := b.origin st known
      refine ⟨st, Nat.lt_of_lt_of_le known b.statements, sends_of_origin same sends, ?_⟩
      rwa [session_of_origin same]
  size := b.size.trans a.size
  readers c := (b.readers c).trans (a.readers c)

/-- The host is in order behind it. -/
structure Proceeds (t : Nat) (h h' : Host) : Prop extends Executes t h h' where
  orderly : h'.Orderly

/-- Work for a table on a host that is in order, which leaves it so. -/
def Diligent (t : Nat) (h h' : Host) : Prop := h.Orderly → Proceeds t h h'

theorem Proceeds.trans (a : Proceeds t h h') (b : Proceeds t h' h'') : Proceeds t h h'' :=
  ⟨a.toExecutes.trans b.toExecutes, b.orderly⟩

theorem Proceeds.further (a : Proceeds t h h') (d : Diligent t h' h'') : Proceeds t h h'' :=
  a.trans (d a.orderly)

/-- What is diligent behind work goes on with it. -/
theorem Proceeds.onward {α : Type} {x : Action α} (a : Proceeds t h h')
    (d : Diligent t h' (h'.act x).2) : x.Reaches h' fun _ h'' => Proceeds t h h'' :=
  a.further d

/-- The number of rows that a table fetches at a time is one of its terms. -/
theorem size_of_terms {table table' : LinkedTable} (same : table'.terms = table.terms) :
    effectiveFetchSize table' = effectiveFetchSize table := by
  obtain ⟨-, same⟩ := Prod.mk.inj same
  obtain ⟨own, default⟩ := Prod.mk.inj same
  rw [effectiveFetchSize, effectiveFetchSize, own, default]

/-- Where nothing is sent, a host stays in order as long as sessions keep, and cursors read, what
they did or statements that there are. -/
theorem Unsent.diligent (u : Unsent h h') (lines : Lines.Mine t h.lines h'.lines)
    (known : h.lines.Known → h'.lines.Known)
    (size : effectiveFetchSize (h'.table t) = effectiveFetchSize (h.table t))
    (readers : ∀ c, (h'.cursor c).table = (h.cursor c).table)
    (kept : ∀ s sql st, (h'.session s).cache.value? sql = some st →
      (h.session s).cache.value? sql = some st ∨
        st < h.statements.next ∧ (h.statement st).session = s)
    (read : ∀ c st r, (h'.cursor c).phase = .reading st r →
      (h.cursor c).phase = .reading st r ∨ st < h.statements.next) : Diligent t h h' := by
  refine fun orderly => ⟨⟨u.deals lines, size, readers⟩,
    ⟨fun s sql st found => ?_, fun c st r phase => ?_, fun st there => ?_, known orderly.known⟩⟩
  · rw [u.next, session_of_origin (u.origin st)]
    exact (kept s sql st found).elim (orderly.kept s sql st) id
  · rw [u.next]
    exact (read c st r phase).elim (orderly.read c st r) id
  · rw [session_of_origin (u.origin st), ← Host.lines_next]
    refine Nat.lt_of_lt_of_le ?_ lines.next
    rw [Host.lines_next]
    exact orderly.placed st (u.next ▸ there)

/-- A chore that leaves the table with sessions of its own. -/
theorem Chore.diligent (c : Chore h h') (lines : Lines.Mine t h.lines h'.lines)
    (known : h.lines.Known → h'.lines.Known) : Diligent t h h' := by
  have cursor (n : Nat) : h'.cursor n = h.cursor n := by rw [Host.cursor, c.cursors]; rfl
  exact c.toUnsent.diligent lines known (size_of_terms (c.terms t)) (fun n => by rw [cursor])
    (fun s sql st found => .inl (c.cache s sql st found))
    fun n st r phase => .inl (by rw [← cursor, phase])

theorem Errand.diligent (e : Errand h h') : Diligent t h h' := by
  have lines : Lines.Mine t h.lines h'.lines := by rw [e.lines]; exact .refl t _
  exact e.toChore.diligent lines fun known => e.lines ▸ known

theorem diligent (t : Nat) : Frame (Diligent t) where
  refl h := (errand.refl h).diligent
  trans a b orderly := (a orderly).further b

/-- The name in which work is done does not matter. -/
theorem diligent_of_link {link link' : Option String} (d : Diligent t { h with link } h') :
    Diligent t h { h' with link := link' } := by
  rintro ⟨kept, read, placed, known⟩
  obtain ⟨⟨⟨lines, statements, origin, made, sent⟩, size, readers⟩, ⟨kept, read, placed, known⟩⟩ :=
    d ⟨kept, read, placed, known⟩
  exact ⟨⟨⟨lines, statements, origin, made, sent⟩, size, readers⟩, ⟨kept, read, placed, known⟩⟩

/-! ### Steps -/

/-- The host with a statement kept by a session. -/
def Host.withKept (h : Host) (s : Nat) (sql : String) (st : Nat) : Host :=
  { h with
    sessions := h.sessions.revise s fun session =>
      { session with cache := session.cache.put sql st } }

/-- A statement is prepared, on a session of the table's own. -/
theorem diligent_withPrepared {s : Nat} (sql : String) (own : h.lines.Own t s)
    (there : s < h.sessions.next) :
    Diligent t h (h.withPrepared s sql (effectiveFetchSize (h.table t))) := by
  intro orderly
  generalize made : h.withPrepared s sql (effectiveFetchSize (h.table t)) = g
  -- One statement joins behind the others, and nothing else is touched.
  have next : g.statements.next = h.statements.next + 1 := by
    subst made
    exact Roster.next_join ..
  have old (st : Nat) (known : st < h.statements.next) : g.statement st = h.statement st := by
    subst made
    rw [Host.statement, Host.withPrepared, Roster.at?_join, if_neg (by omega)]
    rfl
  have new : g.statement h.statements.next
      = ⟨s, sql, effectiveFetchSize (h.table t), none, false⟩ := by
    subst made
    rw [Host.statement, Host.withPrepared, Roster.at?_join_next]
    rfl
  have lines : g.lines = h.lines := by subst made; rfl
  have dispatches : g.dispatches = h.dispatches := by subst made; rfl
  have tables : g.table t = h.table t := by subst made; rfl
  have cursors (c : Nat) : g.cursor c = h.cursor c := by subst made; rfl
  have sessions (s : Nat) : g.session s = h.session s := by subst made; rfl
  have opened : g.sessions.next = h.sessions.next := by subst made; rfl
  refine ⟨⟨⟨by rw [lines]; exact .refl t _, by omega, fun st known => by rw [old st known],
    fun st late known => ?_, [], dispatches, fun _ among => absurd among List.not_mem_nil⟩,
    by rw [tables], fun c => by rw [cursors]⟩,
    ⟨fun s' sql' st found => ?_, fun c st r phase => ?_, fun st known => ?_,
      lines ▸ orderly.known⟩⟩
  · obtain rfl : st = h.statements.next := by omega
    rw [new]
    exact ⟨rfl, own, opened.symm ▸ there⟩
  · rw [sessions] at found
    obtain ⟨known, home⟩ := orderly.kept s' sql' st found
    exact ⟨by omega, by rw [old st known, home]⟩
  · rw [cursors] at phase
    have known := orderly.read c st r phase
    omega
  · rw [opened]
    by_cases early : st < h.statements.next
    · rw [old st early]
      exact orderly.placed st early
    · obtain rfl : st = h.statements.next := by omega
      rw [new]
      exact there

/-- A statement is executed on a session of the table's own. -/
theorem diligent_withEvent {st : Nat} (known : st < h.statements.next)
    (own : h.lines.Own t (h.statement st).session) {e : Event} (sends : (h.statement st).Sends e) :
    Diligent t h { h with journal := e :: h.journal } := by
  rintro ⟨kept, read, placed, inLines⟩
  generalize sent : ({ h with journal := e :: h.journal } : Host) = g
  obtain ⟨connection, params, rfl⟩ := sends
  subst sent
  refine ⟨⟨⟨.refl t _, Nat.le_refl _, fun _ _ => rfl,
    fun _ late known' => absurd known' (Nat.not_lt.mpr late), [_], rfl, fun e among => ?_⟩, rfl,
    fun _ => rfl⟩, ⟨kept, read, placed, inLines⟩⟩
  obtain rfl := List.mem_singleton.mp among
  exact ⟨st, known, ⟨connection, params, rfl⟩, own⟩

/-- A session keeps besides what it kept the statement only. -/
theorem Host.kept_of_withKept {s s' st st' : Nat} {sql sql' : String}
    (found : ((h.withKept s sql st).session s').cache.value? sql' = some st') :
    (h.session s').cache.value? sql' = some st' ∨ s' = s ∧ st' = st := by
  simp only [Host.session, Host.withKept, Roster.at?_revise] at found ⊢
  split at found
  next e =>
    cases here : h.sessions.at? s' with
    | none =>
      rw [here] at found
      cases found
    | some session =>
      rw [here] at found
      by_cases same : sql = sql'
      · subst same
        rw [Option.map_some, Option.getD_some, Ledger.value?_put_self] at found
        exact .inr ⟨e.symm, (Option.some.inj found).symm⟩
      · rw [Option.map_some, Option.getD_some, Ledger.value?_put_of_ne _ _ same] at found
        exact .inl found
  next => exact .inl found

theorem Host.lines_withKept (h : Host) (s : Nat) (sql : String) (st : Nat) :
    (h.withKept s sql st).lines = h.lines := by
  have e := Roster.map_revise_same (g := Session.line)
    (f := fun session => { session with cache := session.cache.put sql st }) (fun _ => rfl)
    h.sessions s
  simp only [Host.lines, Host.withKept, e]

/-- A statement is kept by its session. -/
theorem diligent_withKept {s st : Nat} (sql : String) (known : st < h.statements.next)
    (home : (h.statement st).session = s) :
    Diligent t h (h.withKept s sql st) := by
  have lines := h.lines_withKept s sql st
  refine Unsent.diligent ⟨rfl, rfl⟩ (by rw [lines]; exact .refl t _) (fun inLines => lines ▸ inLines)
    rfl (fun _ => rfl) (fun s' sql' st' found => ?_) fun _ _ _ => .inl
  obtain before | ⟨rfl, rfl⟩ := Host.kept_of_withKept found
  · exact .inl before
  · exact .inr ⟨known, home⟩

/-- A cursor is read further, with a statement that there is, or not any more. -/
theorem diligent_withPhase (c : Nat) {phase : CursorPhase}
    (known : ∀ st r, phase = .reading st r → st < h.statements.next) :
    Diligent t h (h.withPhase c phase) := by
  have other (c' : Nat) (ne : c' ≠ c) : (h.withPhase c phase).cursor c' = h.cursor c' := by
    rw [Host.cursor, Host.withPhase, Roster.at?_revise_of_ne _ ne.symm]
    rfl
  refine Unsent.diligent ⟨rfl, rfl⟩ (.refl t _) id rfl (fun c' => ?_) (fun _ _ _ => .inl)
    fun c' st r reading => ?_
  · by_cases e : c' = c
    · exact e ▸ h.cursor_withPhase_table c phase
    · rw [other c' e]
  · by_cases e : c' = c
    · subst e
      rw [Host.cursor_withPhase] at reading
      split at reading
      · exact .inr (known st r reading)
      · cases reading
    · exact .inl (other c' e ▸ reading)

namespace Action

open Keeps

/-! ### Executions -/

/-- The table holds the session that it comes to anew. -/
theorem diligent_reconnect (orderly : h.Orderly) (failed : Option Nat) :
    Reaches (reconnect t failed) h fun r h' => Proceeds t h h' ∧
      ∀ s, r = .ok s → h'.lines.heldBy t = some s := by
  have again := ((Lines.mine_lineLogic t h.lines).and (Lines.known_lineLogic t)).reconnecting failed
    ⟨.refl t h.lines, orderly.known⟩
  have chore := chore_reconnect t failed h
  rw [Reaches]
  generalize h.act (reconnect t failed) = p at again chore ⊢
  obtain ⟨fault | s, h'⟩ := p
  · exact ⟨chore.diligent again.1 (fun _ => again.2) orderly, fun _ e => by cases e⟩
  · obtain ⟨⟨mine, known⟩, held⟩ := again
    refine ⟨chore.diligent mine (fun _ => known) orderly, fun s' e => ?_⟩
    cases e
    rw [Host.lines_heldBy, held]

theorem diligent_executeStatement {st : Nat} (known : st < h.statements.next)
    (own : h.lines.Own t (h.statement st).session) (values : List Value) :
    Diligent t h (h.act (executeStatement st values)).2 := by
  show Reaches (executeStatement st values) h fun _ h' => Diligent t h h'
  refine .behind (errand_closeResult st) (fun _ h₁ closed => .get_bind ?_) fun _ _ closed =>
    closed.diligent
  dsimp only
  have origin := closed.origin st
  generalize connection : (h₁.session (h₁.statement st).session).connection = n
  generalize marked : Sql.numberMarkers (h₁.statement st).sql = m
  obtain ⟨text, count⟩ := m
  have sends : (h₁.statement st).Sends
      (.executed n text values (h₁.statement st).fetchSize) := ⟨n, values, by rw [marked]⟩
  have sent := diligent_withEvent (t := t) (closed.next.symm ▸ known)
    (by rw [closed.lines, session_of_origin origin]; exact own) sends
  refine .modify_bind ?_
  have before := (diligent t).trans closed.diligent sent
  refine .of_ite (fun _ => before) fun _ => ?_
  exact (diligent t).trans before (errand_receive st n _).diligent

/-- What comes of the work for a table, if it comes to a statement. -/
def Brings (t : Nat) (h : Host) (r : Except Fault Nat) (h' : Host) : Prop :=
  Proceeds t h h' ∧ ∀ st, r = .ok st → st < h'.statements.next

theorem Brings.of_error {fault : Fault} (d : Proceeds t h h') : Brings t h (.error fault) h' :=
  ⟨d, nofun⟩

/-- What is brought behind other work is brought by all of it. -/
theorem Brings.behind {r : Except Fault Nat} (before : Proceeds t h h') (b : Brings t h' r h'') :
    Brings t h r h'' := ⟨before.trans b.1, b.2⟩

/-- The statement that is found in a cache is one of the session. -/
theorem reaches_kept (orderly : h.Orderly) (s : Nat) (sql : String) :
    Reaches (takeStatement s sql) h fun r h' => ∀ found, r = .ok found →
      Errand h h' ∧ ∀ st, found = some st →
        st < h'.statements.next ∧ (h'.statement st).session = s := by
  intro found e
  have taken := errand_takeStatement s sql h
  refine ⟨taken, fun st here => ?_⟩
  rw [taken.next, session_of_origin (taken.origin st)]
  exact orderly.kept s sql st ((Except.ok.inj e).trans here)

/-- A statement is prepared for the table, with the number of rows that it fetches at a time. -/
theorem diligent_prepare {s : Nat} (sql : String) (own : h.lines.Own t s)
    (there : s < h.sessions.next) :
    Reaches (prepare s sql (effectiveFetchSize (h.table t))) h fun r h' => ∀ st, r = .ok st →
      Diligent t h h' ∧ h'.lines = h.lines ∧
        st < h'.statements.next ∧ (h'.statement st).session = s := by
  intro st e
  obtain ⟨-, known, home, -⟩ := reaches_prepare s sql _ st e
  obtain rfl := Except.ok.inj e
  exact ⟨diligent_withPrepared sql own there, rfl, known, home⟩

/-- A statement on the session that the table holds is executed, and its outcome told. -/
theorem brings_settle (sofar : Proceeds t h h') {s st : Nat} (held : h'.lines.heldBy t = some s)
    (known : st < h'.statements.next) (home : (h'.statement st).session = s)
    (values : List Value) :
    Reaches (settle st values) h' fun r g =>
      Proceeds t h g ∧ ∀ st, r = .ok (.ok st) → st < g.statements.next := by
  have own : h'.lines.Own t (h'.statement st).session := fun _ => .inl (home ▸ held)
  have done : Proceeds t h' (h'.act (executeStatement st values)).2 :=
    diligent_executeStatement known own values sofar.orderly
  refine .outcome_bind (P := fun _ g => Proceeds t h' g) done fun r g done => ?_
  cases r with
  | ok _ =>
    refine ⟨sofar.trans done, fun st' e => ?_⟩
    cases e
    exact Nat.lt_of_lt_of_le known done.statements
  | error fault =>
    have ended {k : Host} (closed : Errand g k) : Proceeds t h k :=
      (sofar.trans done).further closed.diligent
    refine .of_ite (fun _ => ?_) fun _ => ⟨sofar.trans done, nofun⟩
    exact .behind (errand_closeStatement st) (fun _ _ closed => ⟨ended closed, nofun⟩)
      fun _ _ closed => ⟨ended closed, nofun⟩

/-- An attempt to execute a statement on the session that the table holds. -/
theorem brings_attemptExecute (orderly : h.Orderly) {s : Nat} (held : h.lines.heldBy t = some s)
    (sql : String) (params : List Value) (client : Option Nat) :
    Reaches (attemptExecute t s sql params client) h fun r h' =>
      Proceeds t h h' ∧ ∀ st, r = .ok (.ok st) → st < h'.statements.next := by
  have converted : Keeps Errand (params.mapM (convertFor client)) :=
    of_mapM errand params (errand_convertFor client)
  refine .behind converted (fun values h₁ bound => .get_bind ?_) fun _ _ bound =>
    ⟨bound.diligent orderly, nofun⟩
  have first : Proceeds t h h₁ := bound.diligent orderly
  have held₁ : h₁.lines.heldBy t = some s := by rw [bound.lines, held]
  -- What is left to do with a statement of the session, wherever it has come from.
  have executed {st : Nat} {g : Host} (before : Diligent t h₁ g) (lines : g.lines = h₁.lines)
      (known : st < g.statements.next) (home : (g.statement st).session = s) : Reaches (do
        report ⟨.debug, Sql.trace (h₁.table t).name sql params⟩
        settle st values) g fun r h' =>
          Proceeds t h h' ∧ ∀ st, r = .ok (.ok st) → st < h'.statements.next := by
    refine .past (report_succeeds _) (errand_report _) fun _ g' told => ?_
    have held' : g'.lines.heldBy t = some s := by rw [told.lines, lines, held₁]
    refine brings_settle ((first.further before).further told.diligent) held' ?_ ?_ values
    · exact told.next.symm ▸ known
    · rw [session_of_origin (told.origin st), home]
  refine .bind_of_succeeds (takeStatement_succeeds s sql) (reaches_kept first.orderly s sql) ?_
  rintro (_ | st) h₂ ⟨taken, found⟩
  · have taking : Diligent t h₁ h₂ := taken.diligent
    have there : s < h₂.sessions.next := by
      rw [← h₂.lines_next, taken.lines]
      exact first.orderly.known.held s (List.mem_of_getElem? (Lines.held_of_heldBy held₁))
    have own : h₂.lines.Own t s := fun _ => .inl (by rw [taken.lines, held₁])
    have prepared := diligent_prepare sql own there
    rw [size_of_terms (taken.terms t)] at prepared
    refine .bind_of_succeeds (prepare_succeeds s sql _) prepared ?_
    rintro st g ⟨made, lines, known, home⟩
    exact executed ((diligent t).trans taking made) (lines.trans taken.lines) known home
  · obtain ⟨known, home⟩ := found st rfl
    exact executed taken.diligent taken.lines known home

/-- The table holds the session on which a statement is tried, each time anew. -/
theorem brings_executeFrom (sql : String) (params : List Value) (client : Option Nat)
    (left : Nat) {h : Host} (orderly : h.Orderly) {s : Nat} (held : h.lines.heldBy t = some s) :
    Reaches (executeFrom t sql params client s left) h (Brings t h) := by
  induction left generalizing h s with
  | zero =>
    refine .bind (brings_attemptExecute orderly held sql params client) ?_
      fun _ _ d => .of_error d.1
    rintro (fault | st) h₁ ⟨d, known⟩
    · exact .of_error d
    · exact ⟨d, fun st' e => by cases e; exact known st rfl⟩
  | succ left ih =>
    refine .bind (brings_attemptExecute orderly held sql params client) ?_
      fun _ _ d => .of_error d.1
    rintro (fault | st) h₁ ⟨attempted, known⟩
    · refine .get_bind (.past (report_succeeds _) (errand_report _) fun _ h₂ told => ?_)
      have sofar := attempted.further told.diligent
      refine .bind (diligent_reconnect sofar.orderly _) (fun s' h₃ ⟨again, held⟩ => ?_)
        fun _ _ again => .of_error (sofar.trans again.1)
      exact (ih again.orderly (held s' rfl)).mono fun _ _ => Brings.behind (sofar.trans again)
    · exact ⟨attempted, fun st' e => by cases e; exact known st rfl⟩

theorem brings_execute (sql : String) (params : List Value) (client : Option Nat) {h : Host}
    (orderly : h.Orderly) : Reaches (execute t sql params client) h (Brings t h) := by
  have taken : Reaches (requireSession t) h fun r h' =>
      h' = h ∧ ∀ s, r = .ok s → h.lines.heldBy t = some s :=
    ⟨Callers.host_of_take h t, fun s e => by rw [Host.lines_heldBy, Callers.session_of_take e]⟩
  refine .bind taken ?_ ?_
  · rintro s _ ⟨rfl, held⟩
    exact brings_executeFrom sql params client maxRetry orderly (held s rfl)
  · rintro fault _ ⟨rfl, -⟩
    exact .of_error ((diligent t).refl _ orderly)

/-! ### Handing back -/

/-- A statement is kept by its session, or closed. -/
theorem diligent_putStatement {st : Nat} (known : st < h.statements.next) (s : Nat)
    (sql : String) : Diligent t h (h.act (putStatement s sql st)).2 := by
  have closed (st : Nat) : Keeps (Diligent t) (closeStatement st) :=
    (errand_closeStatement st).mono fun _ _ => Errand.diligent
  show Reaches (putStatement s sql st) h fun _ h' => Diligent t h h'
  refine .get_bind (.of_ite (fun _ => closed st h) fun usable => .modify_bind ?_)
  have usable : (h.session s).closed = false ∧ (h.statement st).session = s := by
    simpa using usable
  refine (diligent t).trans (diligent_withKept sql known usable.2) ?_
  split
  · exact of_ite (closed _) (of_pure (diligent t) ()) _
  · exact (diligent t).refl _

theorem diligent_handBack {st : Nat} (known : st < h.statements.next) (u : Nat) (sql : String) :
    Diligent t h (h.act (handBack u st sql)).2 := by
  have closed : Keeps (Diligent t) (closeStatement st) :=
    (errand_closeStatement st).mono fun _ _ => Errand.diligent
  show Reaches (handBack u st sql) h fun _ h' => Diligent t h h'
  refine .get_bind ?_
  split
  · exact closed h
  next s _ =>
    refine .of_ite (fun _ => closed h) fun _ => ?_
    refine .past (closeResult_succeeds st) (errand_closeResult st) fun _ h' emptied => ?_
    exact (diligent t).trans emptied.diligent
      (diligent_putStatement (emptied.next.symm ▸ known) s sql)

theorem diligent_run (sql : String) (params : List Value) (client : Option Nat) :
    Keeps (Diligent t) (run t sql params client) := by
  intro h orderly
  show Reaches (run t sql params client) h fun _ h' => Proceeds t h h'
  refine .bind (brings_execute sql params client orderly) ?_ fun _ _ brought => brought.1
  exact fun st h' ⟨executed, known⟩ => executed.onward (diligent_handBack (known st rfl) t sql)

theorem diligent_reading {α : Type} {read : Nat → Action α} (sql : String) (params : List Value)
    (client : Option Nat) (hr : ∀ st, Keeps Errand (read st)) :
    Keeps (Diligent t) (reading t sql params client read) := by
  intro h orderly
  show Reaches (reading t sql params client read) h fun _ h' => Proceeds t h h'
  refine .bind (brings_execute sql params client orderly) ?_ fun _ _ brought => brought.1
  rintro st h₁ ⟨executed, known⟩
  refine .outcome_bind (P := fun _ h' => Errand h₁ h') (hr st h₁) fun r h₂ reads => ?_
  have sofar := executed.further reads.diligent
  cases r with
  | ok a =>
    have back := sofar.onward (diligent_handBack (reads.next.symm ▸ known st rfl) t sql)
    exact .bind back (fun _ _ d => d) fun _ _ d => d
  | error fault =>
    have ended {h' : Host} (closed : Errand h₂ h') : Proceeds t h h' :=
      sofar.further closed.diligent
    exact .behind (errand_closeStatement st) (fun _ _ => ended) fun _ _ => ended

theorem diligent_query (client : Option Nat) (sql : String) (params : List Value)
    (failure : Option Fault) : Keeps (Diligent t) (query t client sql params failure) := by
  refine diligent_reading sql params client fun st => ?_
  cases failure with
  | some fault => exact of_throw errand fault
  | none => exact errand_readRows st

/-! ### Cursors -/

theorem diligent_endCursor (c : Nat) : Keeps (Diligent t) (endCursor c) :=
  of_modify fun _ => diligent_withPhase c nofun

theorem diligent_readNext {st : Nat} (known : st < h.statements.next) (c : Nat) (cursor : Cursor)
    (r : Nat) : Diligent t h (h.act (readNext c cursor st r)).2 := by
  show Reaches (readNext c cursor st r) h fun _ h' => Diligent t h h'
  refine .outcome_bind (P := fun _ h' => Errand h h') (errand_fetch r h) fun found h₁ fetched => ?_
  have d := fetched.diligent (t := t)
  rcases found with fault | _ | row
  · have rest : Keeps (Diligent t) (do
        endCursor c
        closeStatement st
        throw fault : Action (Option (List Value))) :=
      bind (diligent t) (diligent_endCursor c) fun _ =>
        bind (diligent t) ((errand_closeStatement st).mono fun _ _ => Errand.diligent) fun _ =>
          of_throw (diligent t) fault
    exact (diligent t).trans d (rest h₁)
  · -- Ending the cursor leaves the statements that there are.
    have ended : Diligent t h₁ (h₁.withPhase c .ended) := diligent_withPhase c nofun
    have back := diligent_handBack (t := t) (h := h₁.withPhase c .ended)
      (fetched.next.symm ▸ known : st < h₁.statements.next) cursor.table cursor.sql
    have sofar := (diligent t).trans d ended
    exact .modify_bind (.bind (P := fun _ h' => Diligent t (h₁.withPhase c .ended) h') back
      (fun _ _ => (diligent t).trans sofar) fun _ _ => (diligent t).trans sofar)
  · exact d

/-- The next row of a cursor of the table. -/
theorem diligent_next {c : Nat} (own : (h.cursor c).table = t) :
    Diligent t h (h.act (next c)).2 := by
  intro orderly
  show Reaches (next c) h fun _ h' => Proceeds t h h'
  refine .get_bind ?_
  dsimp only
  rw [own]
  split
  · exact (diligent t).refl h orderly
  next st r phase => exact diligent_readNext (orderly.read c st r phase) c _ r orderly
  · refine .outcome_bind (brings_execute _ _ _ orderly) fun r h₁ ⟨executed, known⟩ => ?_
    have ended {x : Action (Option (List Value))} (hx : Keeps (Diligent t) x) :
        Reaches (do endCursor c; x) h₁ fun _ h' => Proceeds t h h' :=
      executed.onward (bind (diligent t) (diligent_endCursor c) (fun _ => hx) h₁)
    cases r with
    | error fault => exact ended (of_throw (diligent t) fault)
    | ok st =>
      refine .get_bind ?_
      split
      · exact ended (of_pure (diligent t) none)
      next r' _ =>
        have there := known st rfl
        have begun : Diligent t h₁ (h₁.withPhase c (.reading st r')) :=
          diligent_withPhase c fun _ _ e => by cases e; exact there
        have rest := diligent_readNext (t := t) (h := h₁.withPhase c (.reading st r')) there c
          (h.cursor c) r'
        exact (executed.further begun).onward rest

/-- The rows of a cursor stay those of its table. -/
theorem diligent_drainFrom {c : Nat} (own : (h.cursor c).table = t) (fuel : Nat) :
    Diligent t h (h.act (drainFrom c fuel)).2 := by
  induction fuel generalizing h with
  | zero => exact (diligent t).refl h
  | succ fuel ih =>
    intro orderly
    have first : Reaches (next c) h fun _ h' => Proceeds t h h' := diligent_next own orderly
    refine Reaches.bind (Q := fun _ h' => Proceeds t h h') first ?_ fun _ _ d => d
    rintro (_ | row) h₁ d
    · exact d
    · have rest := d.onward (ih ((d.readers c).trans own))
      exact .bind rest (fun _ _ d => d) fun _ _ d => d

theorem diligent_drain {c : Nat} (own : (h.cursor c).table = t) :
    Diligent t h (h.act (drain c)).2 := by
  intro orderly
  have first : Reaches (next c) h fun _ h' => Proceeds t h h' := diligent_next own orderly
  refine Reaches.bind (Q := fun _ h' => Proceeds t h h') first ?_ fun _ _ d => d
  rintro (_ | row) h₁ d
  · exact d
  · have rest := d.onward (diligent_drainFrom ((d.readers c).trans own) (remaining h₁ c + 1))
    exact .get_bind (.bind rest (fun _ _ d => d) fun _ _ d => d)

end Action

/-! ### Operations -/

/-- Work in the name of a table is diligent, as no name matters to it. -/
theorem diligent_voice (t : Nat) : Voice t (Diligent t) (Diligent t) where
  inner := diligent t
  outer := diligent t
  enter := id
  errand := Errand.diligent
  command _ _ := Errand.diligent ⟨.of_others, rfl⟩
  aloud := diligent_of_link
  execute sql params client _ orderly :=
    (Action.brings_execute sql params client orderly).1
  run := Action.diligent_run
  reading := Action.diligent_reading

namespace Host

open LinkedTables.Action

/-- Nothing is sent when a table is created. -/
theorem createTable_unsent (h : Host) (table : LinkedTable) :
    Unsent h (h.act (createTable table)).2 := by
  have connected := chore_connectNew h.tables.next (h.joining table)
  have made : Unsent h ((h.withTable table).act (do
      inLink table.name (connectNew h.tables.next)
      return h.tables.next)).2 := by
    rw [snd_act_map _ _ fun _ => h.tables.next, act_inLink]
    exact ⟨connected.dispatches, connected.statements⟩
  exact made

/-- What an operation executes it executes for its table. -/
theorem perform_diligent {o : Operation} (uses : o.UsesTables) (speaks : o.Speaks)
    (old : ∀ table, o ≠ .createTable table) (subject : o.subject h = some t) :
    Diligent t h (h.perform o).2 := by
  have reply {α : Type} {x : Action α} (f : α → Reply) (hx : Diligent t h (h.act x).2) :
      Diligent t h (h.act (do return f (← x))).2 := by
    rwa [snd_act_map]
  have voiced (voices : o.Voices t) : Diligent t h (h.perform o).2 :=
    (diligent_voice t).perform voices h
  cases o with
  | addRow u | removeRow u | updateRows u | rowCount u | execute u =>
    exact voiced (Option.some.inj subject)
  | next c => exact reply .row (diligent_next (Option.some.inj subject))
  | drain c => exact reply .rows (diligent_drain (Option.some.inj subject))
  | query u client sql params failure =>
    obtain rfl : u = t := Option.some.inj subject
    exact reply .rows (diligent_query client sql params failure h)
  | createTable table => exact absurd rfl (old table)
  | prepare | executeStatement => exact uses.elim
  | _ => exact speaks.elim

/-- An operation that has no table sends nothing. -/
theorem unsent_of_subjectless {o : Operation} (uses : o.UsesTables) (none : o.subject h = none) :
    Unsent h (h.perform o).2 := by
  by_cases speaks : o.Speaks
  · cases o with
    | prepare | executeStatement => exact uses.elim
    | createTable | addRow | removeRow | updateRows | rowCount | next | drain | execute | query =>
      cases none
    | _ => exact speaks.elim
  · exact (minor_perform speaks h).toUnsent

/-- Statements are prepared and executed for the table of an operation, on sessions of its own. -/
theorem perform_deals {o : Operation} (uses : o.UsesTables) (orderly : h.Orderly)
    (subject : ∀ u, o.subject h = some u → u = t) : Deals t h (h.perform o).2 := by
  have lines : Lines.Mine t h.lines (h.perform o).2.lines :=
    (Lines.mine_lineLogic t h.lines).perform uses subject (.refl t _)
  by_cases created : ∃ table, o = .createTable table
  · obtain ⟨table, rfl⟩ := created
    refine Unsent.deals ?_ lines
    show Unsent h (h.act (do return Reply.table (← createTable table))).2
    rw [snd_act_map]
    exact h.createTable_unsent table
  by_cases speaks : o.Speaks
  · cases found : o.subject h with
    | none => exact (unsent_of_subjectless uses found).deals lines
    | some u =>
      obtain rfl := subject u found
      exact (perform_diligent uses speaks (not_exists.mp created) found orderly).toDeals
  · exact (minor_perform speaks h).deals lines

end Host

end LinkedTables
