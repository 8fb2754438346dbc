import LinkedTables.Proofs.CursorLogic
import LinkedTables.Proofs.Statements

/-!
# Paired hosts

Two hosts are `Paired` if they look the same, and the statements of both are in custody: on the left
idle statements are kept, on the right none are. As the same results are opened and closed on both,
their tally is kept for one side only. The executor that keeps idle statements and the one that
keeps none lead from paired hosts to paired hosts: an attempt leaves a statement in use on both
sides, under the same text and with the same result (`attempt`), and handing it back or closing it
closes its result on both (`handBack`, `close`). Opening and closing sessions keeps hosts paired
(`withOpen`, `discard`, `release`), and so does passing a statement on (`lend`, `redeem`).
-/

namespace LinkedTables

/-- Hosts that look the same, with the statements of both in custody and the results accounted for;
only the left one keeps idle statements, and only what is closed on the left is followed. -/
structure Paired (watch : Watch) (run run' : Option Use) (held held' : Holder → Option Use)
    (cs cs' : Roster Cursor) (h g : Host) : Prop where
  agree : h.outline = g.outline
  cursors : h.cursors = cs
  cursors' : g.cursors = cs'
  left : Custody watch run held h.shelves
  right : Custody .nothing run' held' g.shelves
  bare : ∀ s shelf, g.shelves.sessions.at? s = some shelf → shelf.idle = []
  tally : Tally (users run held) h.shelves.opened h.shelves.closed

namespace Paired

open LinkedTables.Action

variable {watch : Watch} {run run' : Option Use} {held held' : Holder → Option Use}
  {cs cs' : Roster Cursor}

/-- What touches no shelf and looks the same on both sides keeps hosts paired. -/
theorem keep {h g h' g' : Host} (p : Paired watch run run' held held' cs cs' h g)
    (hs : h'.shelves = h.shelves) (gs : g'.shelves = g.shelves) (ho : h'.outline = g'.outline) :
    Paired watch run run' held held' cs cs' h' g' where
  agree := ho
  cursors := (congrArg Shelves.cursors hs).trans p.cursors
  cursors' := (congrArg Shelves.cursors gs).trans p.cursors'
  left := hs ▸ p.left
  right := gs ▸ p.right
  bare := gs ▸ p.bare
  tally := hs ▸ p.tally

/-- A change that touches no shelf and looks at the outline only. -/
theorem same {h g : Host} (p : Paired watch run run' held held' cs cs' h g) {f : Host → Host}
    (hs : ∀ h, (f h).shelves = h.shelves) (ho : ∀ h, (f h).outline = f h.outline) :
    Paired watch run run' held held' cs cs' (f h) (f g) :=
  p.keep (hs h) (hs g) (by rw [ho, ho, p.agree])

/-- A session is used by more or by fewer. -/
theorem counted {h g : Host} (p : Paired watch run run' held held' cs cs' h g) (s : Nat)
    (f : Int → Int) :
    Paired watch run run' held held' cs cs'
      { h with sessions := h.sessions.revise s fun session =>
        { session with useCount := f session.useCount } }
      { g with sessions := g.sessions.revise s fun session =>
        { session with useCount := f session.useCount } } := by
  refine p.same (f := fun h => { h with sessions := h.sessions.revise s fun session =>
    { session with useCount := f session.useCount } }) (fun h => ?_) fun h => ?_
  · have e := Roster.map_revise_same (g := Session.shelf)
      (f := fun session => { session with useCount := f session.useCount }) (fun _ => rfl)
      h.sessions s
    simp only [Host.shelves, e]
  · have e := Roster.map_revise (g := Session.outline)
      (f := fun session => { session with useCount := f session.useCount })
      (k := fun session => { session with useCount := f session.useCount }) (fun _ => rfl)
      h.sessions s
    simp only [Host.outline, e]

/-- Events that look the same and close no result are entered on both sides. -/
theorem noted {h g : Host} (p : Paired watch run run' held held' cs cs' h g) {event event' : Event}
    (silent : event.closed? = none) (silent' : event'.closed? = none)
    (look : event.outline = event'.outline) :
    Paired watch run run' held held' cs cs' { h with journal := event :: h.journal }
      { g with journal := event' :: g.journal } := by
  refine p.keep (h.shelves_note silent) (g.shelves_note silent') ?_
  show { h.outline with journal := event.outline :: h.outline.journal } = _
  rw [look, p.agree]
  rfl

theorem quiet (watch : Watch) (run run' : Option Use) (held held' : Holder → Option Use)
    (cs cs' : Roster Cursor) : Quiet (Paired watch run run' held held' cs cs') where
  agree p := p.agree
  keep _ _ _ p _ hs _ gs ho := p.keep hs gs ho

/-- The right host may be left for one that is stocked alike and keeps nothing either. -/
theorem of_stocked {h g h' g' : Host} (p : Paired watch run run' held held' cs cs' h g)
    (hs : Stocked watch run held h h') (gs : Stocked .nothing run' held' g g')
    (bare : ∀ s shelf, g'.shelves.sessions.at? s = some shelf → shelf.idle = []) :
    Paired watch run run' held held' cs cs' h' g' where
  agree := by rw [hs.outline, gs.outline, p.agree]
  cursors := hs.cursors.trans p.cursors
  cursors' := gs.cursors.trans p.cursors'
  left := hs.custody
  right := gs.custody
  bare := bare
  tally := tally_agree hs.outline p.tally

/-- What cannot be told on the left. -/
theorem of_left {h g h' : Host} (p : Paired watch run run' held held' cs cs' h g)
    (hs : Stocked watch run held h h') : Paired watch run run' held held' cs cs' h' g :=
  p.of_stocked hs ⟨rfl, rfl, p.right⟩ p.bare

/-! ### Closing a statement that was executed -/

/-- The statement in use on the left. -/
theorem busy {h g : Host} {sql : String} {r st : Nat}
    (p : Paired watch (some ⟨st, sql, r⟩) run' held held' cs cs' h g) :
    ∃ s n, h.statements.at? st = some ⟨s, sql, n, some r, false⟩ := p.left.working _ rfl

/-- The statement in use on the right. -/
theorem busy' {h g : Host} {sql : String} {r st' : Nat}
    (p : Paired watch run (some ⟨st', sql, r⟩) held held' cs cs' h g) :
    ∃ s n, g.statements.at? st' = some ⟨s, sql, n, some r, false⟩ := p.right.working _ rfl

/-- The result of a statement in use is closed on both sides, and the statement itself at least on
the right. -/
theorem finished {h g : Host} {sql : String} {r st st' s s' : Nat} {n n' : Int} {closed : Bool}
    (p : Paired watch (some ⟨st, sql, r⟩) (some ⟨st', sql, r⟩) held held' cs cs' h g)
    (ha : h.statements.at? st = some ⟨s, sql, n, some r, false⟩)
    (hb : g.statements.at? st' = some ⟨s', sql, n', some r, false⟩)
    (late : ∀ x, watch.statements x st → closed = true) :
    Paired watch none none held held' cs cs'
      ((h.resultClosed r).restated st ⟨s, sql, n, none, closed⟩)
      ((g.resultClosed r).restated st' ⟨s', sql, n', none, true⟩) where
  agree := Host.resultClosed_agree p.agree r
  cursors := p.cursors
  cursors' := p.cursors'
  left := (p.left.finish rfl ha late).of_shelves rfl rfl
  right := (p.right.finish rfl hb fun _ _ => rfl).of_shelves rfl rfl
  bare := p.bare
  tally := by
    have opened : (h.results.revise r fun result => { result with closed := true }).next
        = h.results.next := Roster.next_revise ..
    show Tally (users none held) (Roster.next (h.results.revise r _)) (r :: h.shelves.closed)
    rw [opened]
    exact p.tally.closes

theorem close (sql : String) (r st st' : Nat) {E : Host → Host → Prop} :
    Coupled (Paired watch (some ⟨st, sql, r⟩) (some ⟨st', sql, r⟩) held held' cs cs')
      (closeStatement st) (closeStatement st')
      (fun _ _ => Paired watch none none held held' cs cs') E := by
  intro h g p
  obtain ⟨s, n, ha⟩ := p.busy
  obtain ⟨s', n', hb⟩ := p.busy'
  rw [act_closeStatement_some ha rfl, act_closeStatement_some hb rfl]
  exact .value (p.finished ha hb fun _ _ => rfl)

/-! ### Handing a statement back -/

/-- A statement that is kept on the left is closed on the right. -/
theorem putBack {h g : Host} {sql : String} {r s st st' : Nat}
    (p : Paired watch (some ⟨st, sql, r⟩) (some ⟨st', sql, r⟩) held held' cs cs' h g)
    (isOpen : (h.session s).closed = false) (own : (h.statement st).session = s)
    {E : Host → Host → Prop} :
    Ends (fun _ _ => Paired watch none none held held' cs cs') E
      (h.act (do closeResult st; putStatement s sql st)).1 (g.act (closeStatement st')).1
      (h.act (do closeResult st; putStatement s sql st)).2 (g.act (closeStatement st')).2 := by
  obtain ⟨s₁, n, ha⟩ := p.busy
  obtain ⟨s', n', hb⟩ := p.busy'
  obtain rfl : s₁ = s := by
    rw [← own]
    exact (congrArg Statement.session (Host.statement_of_at? ha)).symm
  -- The session is open, so that its statements are not followed.
  have late : ∀ x, watch.statements x st → false = true := fun x w =>
    absurd w (p.left.unwatched_of_open ha (fun shelf hs => Host.shelf_open isOpen shelf hs) x)
  have finished := p.finished ha hb late
  have prepared : ((h.resultClosed r).restated st ⟨s₁, sql, n, none, false⟩).shelves.Prepared s₁
      sql st := ⟨n, by
    show (h.statements.revise st _).at? st = _
    rw [Roster.at?_revise_self, ha]
    rfl⟩
  obtain ⟨h', act, stocked⟩ := act_putStatement finished.left prepared isOpen
  rw [Host.act_bind_ok h (act_closeResult_some ha rfl), act, act_closeStatement_some hb rfl]
  exact .value (finished.of_left stocked)

theorem handBack (t : Nat) (sql : String) (r st st' : Nat) {E : Host → Host → Prop} :
    Coupled (Paired watch (some ⟨st, sql, r⟩) (some ⟨st', sql, r⟩) held held' cs cs')
      (Executor.cached.handBack t st sql) (Executor.fresh.handBack t st' sql)
      (fun _ _ => Paired watch none none held held' cs cs') E := by
  intro h g p
  show Ends _ _ (h.act (Action.handBack t st sql)).1 (g.act (closeStatement st')).1
    (h.act (Action.handBack t st sql)).2 (g.act (closeStatement st')).2
  unfold Action.handBack
  rw [Host.act_get_bind]
  cases (h.table t).session with
  | none => exact close sql r st st' p
  | some s =>
    dsimp only
    -- Only a statement of the session that the table has now, and that is open, is kept.
    split
    · exact close sql r st st' p
    next kept =>
      simp only [Bool.or_eq_true, decide_eq_true_eq, not_or, Bool.not_eq_true, ne_eq,
        Decidable.not_not] at kept
      exact p.putBack kept.1 kept.2

/-! ### Executing a statement -/

/-- On both sides a statement is ready to be executed. -/
def Armed (watch : Watch) (held held' : Holder → Option Use) (cs cs' : Roster Cursor)
    (s : Nat) (sql : String) (st st' : Nat) (h g : Host) : Prop :=
  Paired watch none none held held' cs cs' h g ∧ h.shelves.Ready s sql st ∧
    g.shelves.Ready s sql st'

theorem quiet_armed (s : Nat) (sql : String) (st st' : Nat) :
    Quiet (Armed watch held held' cs cs' s sql st st') where
  agree a := a.1.agree
  keep _ _ _ a _ hs _ gs ho := by
    obtain ⟨p, left, right⟩ := a
    exact ⟨p.keep hs gs ho, hs ▸ left, gs ▸ right⟩

/-- A statement that was not executed is closed. -/
theorem closeArmed (s : Nat) (sql : String) (st st' : Nat) :
    Coupled (Armed watch held held' cs cs' s sql st st') (closeStatement st) (closeStatement st')
      (fun _ _ => Paired watch none none held held' cs cs')
      (Paired watch none none held held' cs cs') := by
  rintro h g ⟨p, ⟨⟨n, ha⟩, off⟩, ⟨n', hb⟩, off'⟩
  rw [act_closeStatement_none ha rfl, act_closeStatement_none hb rfl]
  refine .value (p.of_stocked ⟨rfl, rfl, ?_⟩ ⟨rfl, rfl, ?_⟩ p.bare)
  · exact p.left.close ha rfl off rfl
  · exact p.right.close hb rfl off' rfl

/-- A statement that has been executed, with its result in use. -/
def Executed (watch : Watch) (held held' : Holder → Option Use) (cs cs' : Roster Cursor)
    (sql : String) (r st st' : Nat) (h g : Host) : Prop :=
  Paired watch (some ⟨st, sql, r⟩) (some ⟨st', sql, r⟩) held held' cs cs' h g ∧
    ∀ x, ¬watch.statements x st

/-- The answer of the remote side opens a result on both sides. -/
theorem answered {s st st' : Nat} {sql : String} (connection : Nat) (answer : Remote.Answer) :
    Coupled (Armed watch held held' cs cs' s sql st st')
      (do
        let r := (← get).results.next
        modify fun h =>
          { h with
            cancelled := h.cancelled || answer.cancels
            results := h.results.join ⟨connection, answer.rows, false⟩ }
        reviseStatement st fun statement => { statement with result := some r }
        return r)
      (do
        let r := (← get).results.next
        modify fun h =>
          { h with
            cancelled := h.cancelled || answer.cancels
            results := h.results.join ⟨connection, answer.rows, false⟩ }
        reviseStatement st' fun statement => { statement with result := some r }
        return r)
      (fun r _ => Executed watch held held' cs cs' sql r st st')
      (Armed watch held held' cs cs' s sql st st') := by
  refine Coupled.get_bind fun h g a => ?_
  rw [← results_agree a.1.agree]
  refine Coupled.modify_bind (T := fun h' g' => h' = h.withResult connection answer ∧
    g' = g.withResult connection answer ∧ Armed watch held held' cs cs' s sql st st' h g) ?_ ?_
  · rintro _ _ ⟨rfl, rfl, a⟩
    exact ⟨rfl, rfl, a⟩
  · -- Both statements are in nobody's hands before, and in those of the work behind.
    rintro _ _ ⟨rfl, rfl, p, ⟨⟨n, ha⟩, off⟩, ⟨n', hb⟩, off'⟩
    rw [Host.act_bind_ok _ (act_reviseStatement (h := h.withResult connection answer) ha _),
      Host.act_bind_ok _ (act_reviseStatement (h := g.withResult connection answer) hb _)]
    refine .value ⟨⟨Host.withResult_agree p.agree connection answer, p.cursors, p.cursors',
      (p.left.execute ha off rfl _).of_shelves rfl rfl,
      (p.right.execute hb off' rfl _).of_shelves rfl rfl, p.bare, ?_⟩, p.left.unwatched ⟨n, ha⟩⟩
    show Tally _ (Roster.next (h.results.join _)) h.shelves.closed
    rw [Roster.next_join]
    exact p.tally.opens rfl

/-- A statement that is ready may be sent: it is executed on both sides, or on neither. -/
theorem executeStatement (s : Nat) (sql : String) (st st' : Nat) (values : List Value) :
    Coupled (Armed watch held held' cs cs' s sql st st')
      (executeStatement st values) (executeStatement st' values)
      (fun r _ => Executed watch held held' cs cs' sql r st st')
      (Armed watch held held' cs cs' s sql st st') := by
  have hq : Quiet (Armed watch held held' cs cs' s sql st st') := quiet_armed s sql st st'
  -- There is no result to be closed first.
  refine Coupled.left_bind (T := fun _ => Armed watch held held' cs cs' s sql st st')
    (fun h g a => ?_) fun _ => ?_
  · obtain ⟨n, ha⟩ := a.2.1.1
    exact ⟨(), h, act_closeResult_none ha rfl, a⟩
  refine Coupled.right_bind (T := fun _ => Armed watch held held' cs cs' s sql st st')
    (fun h g a => ?_) fun _ => ?_
  · obtain ⟨n, hb⟩ := a.2.2.1
    exact ⟨(), g, act_closeResult_none hb rfl, a⟩
  refine Coupled.get_bind fun h g a => ?_
  obtain ⟨n, ha⟩ := a.2.1.1
  obtain ⟨n', hb⟩ := a.2.2.1
  rw [Host.statement_of_at? ha, Host.statement_of_at? hb]
  dsimp only
  rw [session_connection_agree a.1.agree, session_closed_agree a.1.agree]
  generalize Sql.numberMarkers sql = marked
  obtain ⟨sent, count⟩ := marked
  dsimp only
  refine Coupled.modify_bind (T := Armed watch held held' cs cs' s sql st st') ?_ ?_
  · -- The two events differ at most in the number of rows to fetch at a time.
    rintro _ _ ⟨rfl, rfl, a⟩
    refine ⟨a.1.noted rfl rfl ?_, a.2⟩
    simp only [Event.outline]
  · split
    · exact Coupled.bind (Q := fun (_ _ : PUnit) _ _ => False) (Coupled.of_throw fun _ _ a => a)
        fun _ _ _ _ e => e.elim
    · refine Smooth.bind_coupled (smooth_fromScript hq _) fun answer => ?_
      exact Steady.bind_coupled (Steady.of_ofExcept answer) (fun _ _ a => a) fun answer =>
        answered _ answer

/-- An attempt comes to a statement in use, or to a fault of the remote side. -/
theorem tryStatement (s : Nat) (sql : String) (st st' : Nat) (values : List Value) :
    Coupled (Armed watch held held' cs cs' s sql st st')
      (Executor.tryStatement st values) (Executor.tryStatement st' values)
      (Ends (fun st st' h g => ∃ r, Executed watch held held' cs cs' sql r st st' h g)
        (Paired watch none none held held' cs cs'))
      (Paired watch none none held held' cs cs') := by
  refine Coupled.outcome_bind (executeStatement s sql st st' values) (fun r r' => ?_)
    fun fault => ?_
  · exact Coupled.of_pure fun _ _ e => .value ⟨r, e⟩
  · dsimp only
    -- A fault of the remote side leaves no statement behind, another one a statement nobody uses.
    split
    · exact Coupled.bind (closeArmed s sql st st') fun _ _ => Coupled.of_pure fun _ _ p => .fault p
    · exact Coupled.of_throw fun _ _ a => a.1

/-- On the left a statement is taken if there is one, on the right it is always prepared. -/
theorem attempt (t s : Nat) (sql : String) (params : List Value) (client : Option Nat) :
    Coupled (Paired watch none none held held' cs cs')
      (Executor.cached.attempt t s sql params client)
      (Executor.fresh.attempt t s sql params client)
      (Ends (fun st st' h g => ∃ r, Executed watch held held' cs cs' sql r st st' h g)
        (Paired watch none none held held' cs cs'))
      (Paired watch none none held held' cs cs') := by
  have hq := quiet watch none none held held' cs cs'
  refine Steady.bind_coupled (Steady.of_mapM params (steady_convertFor hq client)) (fun _ _ p => p)
    fun values => ?_
  refine Coupled.get_bind' fun h g p => ?_
  rw [table_agree p.agree]
  -- Whether the statement was taken or prepared, it is tried against one that is prepared.
  have tried (st : Nat) : Coupled
      (fun h g => Paired watch none none held held' cs cs' h g ∧ h.shelves.Ready s sql st)
      (do
        report ⟨.debug, Sql.trace (g.table t).name sql params⟩
        Executor.tryStatement st values)
      (do
        let st' ← prepare s sql (effectiveFetchSize (g.table t))
        report ⟨.debug, Sql.trace (g.table t).name sql params⟩
        Executor.tryStatement st' values)
      (Ends (fun st st' h g => ∃ r, Executed watch held held' cs cs' sql r st st' h g)
        (Paired watch none none held held' cs cs'))
      (Paired watch none none held held' cs cs') := by
    refine Coupled.right_bind (T := Armed watch held held' cs cs' s sql st) (fun h g q => ?_)
      fun st' => ?_
    · obtain ⟨p, ready⟩ := q
      obtain ⟨st', g', act, stocked, sessions, ready'⟩ := act_prepare p.right s sql _
      have p' := p.of_stocked ⟨rfl, rfl, p.left⟩ stocked (sessions ▸ p.bare)
      exact ⟨st', g', act, p', ready, ready'⟩
    · exact Smooth.bind_coupled (smooth_report (quiet_armed s sql st st') _) fun _ =>
        tryStatement s sql st st' values
  refine Coupled.left_bind (T := fun found h g => Paired watch none none held held' cs cs' h g ∧
    ∀ st, found = some st → h.shelves.Ready s sql st) (fun h g p => ?_) fun found => ?_
  · obtain ⟨found, h', act, stocked, ready⟩ := act_takeStatement p.left s sql
    exact ⟨found, h', act, p.of_left stocked, ready⟩
  cases found with
  | some st => exact Coupled.left_bind (fun h g q => ⟨st, h, rfl, q.1, q.2 st rfl⟩) tried
  | none =>
    refine Coupled.left_bind (fun h g q => ?_) tried
    obtain ⟨st, h', act, stocked, -, ready⟩ := act_prepare q.1.left s sql _
    exact ⟨st, h', act, q.1.of_left stocked, ready⟩

/-! ### Opening and closing sessions -/

/-- An event that closes no result may be entered on both sides. -/
theorem smooth_entry {event : Event} (silent : event.closed? = none) :
    Smooth (Paired watch run run' held held' cs cs') (note event) :=
  Smooth.of_modify fun _ _ p => p.noted silent silent rfl

theorem smooth_same {f : Host → Host} (hs : ∀ h, (f h).shelves = h.shelves)
    (ho : ∀ h, (f h).outline = f h.outline) :
    Smooth (Paired watch run run' held held' cs cs') (modify f) :=
  Smooth.of_modify fun _ _ p => p.same hs ho

theorem withOpen {h g : Host} {session : Session} {key : LinkKey} {n : Nat}
    (p : Paired watch run run' held held' cs cs' h g) (new : session.IsNew key n) :
    Paired watch run run' held held' cs cs' (h.withOpen session) (g.withOpen session) := by
  have shelves (h : Host) : (h.withOpen session).shelves = h.shelves.withShelf := by
    simp only [Host.shelves, Host.withOpen, Shelves.withShelf, Roster.map_join, Session.shelf,
      new.closed, new.cache]
  have outline (h : Host) : (h.withOpen session).outline = h.outline.withOpen session := by
    have same : session.outline = session := by
      rw [Session.outline, ← new.cache]
    have next : Roster.next (h.sessions.map Session.outline) = h.sessions.next := List.length_map _
    simp only [Host.outline, Host.withOpen, Roster.map_join, same, next]
  refine ⟨by rw [outline, outline, p.agree], p.cursors, p.cursors', ?_, ?_, fun s shelf hs => ?_,
    p.tally⟩
  · rw [shelves]
    exact p.left.openShelf
  · rw [shelves]
    exact p.right.openShelf
  · rw [shelves, Shelves.withShelf, Roster.at?_join] at hs
    split at hs
    · rw [← Option.some.inj hs]
    · exact p.bare s shelf hs

/-- A session has been closed on both sides, but still keeps its statements. -/
structure Closing (watch : Watch) (held held' : Holder → Option Use) (cs cs' : Roster Cursor)
    (s : Nat) (h g : Host) : Prop where
  agree : h.outline = g.outline
  cursors : h.cursors = cs
  cursors' : g.cursors = cs'
  left : ∃ l, Custody watch none held l ∧
    h.shelves = l.reshelved s fun shelf => { shelf with closed := true }
  right : ∃ l, Custody .nothing none held' l ∧
    (g.shelves = l.reshelved s fun shelf => { shelf with closed := true }) ∧
    ∀ s shelf, l.sessions.at? s = some shelf → shelf.idle = []
  tally : Tally (users none held) h.shelves.opened h.shelves.closed

theorem closing (s : Nat) {h g : Host} (p : Paired watch none none held held' cs cs' h g) :
    Closing watch held held' cs cs' s
      { h with sessions := h.sessions.revise s fun session => { session with closed := true } }
      { g with
        sessions := g.sessions.revise s fun session => { session with closed := true } } := by
  have shelves (h : Host) := h.shelves_reviseSession s
    (f := fun session => { session with closed := true })
    (k := fun shelf => { shelf with closed := true }) fun _ => rfl
  refine ⟨?_, p.cursors, p.cursors', ⟨h.shelves, p.left, shelves h⟩,
    ⟨g.shelves, p.right, shelves g, p.bare⟩, p.tally⟩
  have outline (h : Host) : { h with
      sessions := h.sessions.revise s fun session => { session with closed := true } }.outline
        = { h.outline with sessions :=
          h.outline.sessions.revise s fun session => { session with closed := true } } := by
    have e := Roster.map_revise (g := Session.outline)
      (f := fun session => { session with closed := true })
      (k := fun session => { session with closed := true }) (fun _ => rfl) h.sessions s
    simp only [Host.outline, e]
  rw [outline, outline, p.agree]

/-- A session that has been closed is cleared on both sides. -/
theorem clear (s : Nat) :
    Coupled (Closing watch held held' cs cs' s) (clearStatements s) (clearStatements s)
      (fun _ _ => Paired watch none none held held' cs cs') fun _ _ => False := by
  rintro h g ⟨agree, cursors, cursors', ⟨l, k, hl⟩, ⟨l', k', hl', bare⟩, tally⟩
  obtain ⟨h', act, hs, -⟩ := act_clearStatements k s hl
  obtain ⟨g', act', gs, sessions⟩ := act_clearStatements k' s hl'
  rw [act, act']
  refine .value ⟨?_, hs.cursors.trans cursors, gs.cursors.trans cursors', hs.custody, gs.custody,
    fun s' shelf found => ?_, tally_agree hs.outline tally⟩
  · rw [hs.outline, gs.outline, agree]
  · rw [sessions, Shelves.reshelved, Roster.at?_revise] at found
    split at found
    · obtain ⟨before, -, rfl⟩ := Option.map_eq_some_iff.mp found
      rfl
    · exact bare s' shelf found

theorem discard (s : Nat) (force : Bool) :
    Steady (Paired watch none none held held' cs cs') (discard s force) := by
  have hq := quiet watch none none held held' cs cs'
  refine Coupled.get_bind fun h g p => ?_
  dsimp only
  rw [session_closed_agree p.agree, session_connection_agree p.agree]
  split
  · refine Leads.of_pure () ?_
    rintro _ _ ⟨rfl, rfl, p⟩
    exact p
  -- The session is closed first, then cleared, and its connection is closed last.
  refine Coupled.modify_bind (T := Closing watch held held' cs cs' s) ?_ ?_
  · rintro _ _ ⟨rfl, rfl, p⟩
    exact p.closing s
  refine Coupled.bind ((clear s).behind (fun _ _ _ _ p => p) fun _ _ e => e.elim) fun _ _ => ?_
  split
  · refine Smooth.bind_coupled (smooth_entry rfl) fun _ => ?_
    refine Smooth.bind_coupled (smooth_fromScript hq _) fun r => ?_
    refine Smooth.bind_coupled (smooth_entry rfl) fun _ => ?_
    exact Steady.of_ofExcept r
  · exact Smooth.steady (smooth_entry rfl)

theorem release (s : Nat) (force : Bool) :
    Steady (Paired watch none none held held' cs cs') (release s force) := by
  refine Smooth.bind_steady (Smooth.of_modify fun h g p => p.counted s (· - 1)) fun _ => ?_
  refine Steady.get_bind (fun h g p => ?_) fun h => ?_
  · have useCount := congrArg Session.useCount (session_agree p.agree s)
    have key := congrArg Session.key (session_agree p.agree s)
    simp only [Session.outline] at useCount key
    simp only [useCount, key]
  · refine Steady.of_ite (fun _ => Steady.of_pure ()) fun _ => ?_
    exact Smooth.bind_steady (smooth_same (fun _ => rfl) fun _ => rfl) fun _ => discard s force

theorem closePool : Steady (Paired watch none none held held' cs cs') closePool := by
  refine Steady.get_bind (fun h g p => by rw [pool_agree p.agree]) fun h => ?_
  refine Smooth.bind_steady (smooth_same (fun _ => rfl) fun _ => rfl) fun _ => ?_
  refine Steady.bind (Alike.of_forM _ fun (_, s) => discard s false) fun _ => ?_
  exact Smooth.steady (Smooth.of_forM _ fun (_, url) => smooth_entry rfl)

/-- A connect comes to the same connection on both sides, or fails on both. -/
theorem dial : Coupled (Paired watch none none held held' cs cs') connectOnce connectOnce
    (Ends (fun n n' h g => n = n' ∧ Paired watch none none held held' cs cs' h g)
      (Paired watch none none held held' cs cs'))
    (Paired watch none none held held' cs cs') := by
  have hq := quiet watch none none held held' cs cs'
  refine Coupled.get_bind' fun h g p => ?_
  rw [read_agree p.agree Host.connects fun _ => rfl]
  refine Smooth.bind_coupled (smooth_fromScript hq _) fun r => ?_
  refine Smooth.bind_coupled (smooth_same (fun _ => rfl) fun _ => rfl) fun _ => ?_
  refine Smooth.bind_coupled (smooth_entry rfl) fun _ => Coupled.of_pure fun h g p => ?_
  cases r with
  | ok _ => exact .value ⟨rfl, p⟩
  | error fault => exact .fault p

/-! ### Passing statements on -/

/-- The statement in use is left with a holder on both sides. -/
theorem lend {h g : Host} {x : Holder} {u u' : Use}
    (p : Paired watch (some u) (some u') held held' cs cs' h g) (free : held x = none)
    (free' : held' x = none) (unwatched : ∀ y, ¬watch.statements y u.statement) :
    Paired watch none none (handing held x (some u)) (handing held' x (some u')) cs cs' h g :=
  ⟨p.agree, p.cursors, p.cursors', p.left.lend free unwatched, p.right.lend free' nofun, p.bare,
    p.tally.lend free⟩

/-- The statement of a holder is taken on both sides. -/
theorem redeem {h g : Host} {x : Holder} {u u' : Use}
    (p : Paired watch none none held held' cs cs' h g) (hx : held x = some u)
    (hx' : held' x = some u') :
    Paired watch (some u) (some u') (handing held x none) (handing held' x none) cs cs' h g :=
  ⟨p.agree, p.cursors, p.cursors', p.left.redeem hx, p.right.redeem hx', p.bare,
    p.tally.redeem hx⟩

theorem outline_withPhase {phase look : CursorPhase}
    (looks : ∀ cursor : Cursor,
      { cursor with phase }.outline = { cursor.outline with phase := look })
    (h : Host) (c : Nat) : (h.withPhase c phase).outline = h.outline.withPhase c look := by
  have e := Roster.map_revise (g := Cursor.outline) (f := fun cursor => { cursor with phase })
    (k := fun cursor => { cursor with phase := look }) looks h.cursors c
  simp only [Host.outline, Host.withPhase, e]

/-- A cursor changes its phase on both sides, in a way that looks the same. -/
theorem withPhase {h g : Host} {phase phase' look : CursorPhase}
    (p : Paired watch run run' held held' cs cs' h g)
    (looks : ∀ cursor : Cursor,
      { cursor with phase }.outline = { cursor.outline with phase := look })
    (looks' : ∀ cursor : Cursor,
      { cursor with phase := phase' }.outline = { cursor.outline with phase := look }) (c : Nat) :
    Paired watch run run' held held' (h.withPhase c phase).cursors (g.withPhase c phase').cursors
      (h.withPhase c phase) (g.withPhase c phase') where
  agree := by rw [outline_withPhase looks, outline_withPhase looks', p.agree]
  cursors := rfl
  cursors' := rfl
  left := p.left.of_shelves rfl rfl
  right := p.right.of_shelves rfl rfl
  bare := p.bare
  tally := p.tally

end Paired

end LinkedTables
