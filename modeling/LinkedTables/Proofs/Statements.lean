import LinkedTables.Proofs.Tally

/-!
# Work on statements

What the actions on statements do to a host whose statements are in custody. Closing the result of a
statement can be told; taking a statement, keeping it and clearing what a session keeps cannot: the
host is `Stocked` like one that looks the same (`act_takeStatement`, `act_putStatement`,
`act_clearStatements`).
-/

namespace LinkedTables

namespace Host

/-- The host with another state for a statement. -/
def restated (h : Host) (st : Nat) (statement : Statement) : Host :=
  { h with statements := h.statements.revise st fun _ => statement }

/-- The host behind the close of a result. -/
def resultClosed (h : Host) (r : Nat) : Host :=
  { h with
    journal := .resultClosed (h.result r).connection (some r) :: h.journal
    results := h.results.revise r fun result => { result with closed := true } }

/-- The host with the result that the remote side has answered. -/
def withResult (h : Host) (connection : Nat) (answer : Remote.Answer) : Host :=
  { h with
    cancelled := h.cancelled || answer.cancels
    results := h.results.join ⟨connection, answer.rows, false⟩ }

/-- The host with one more statement. -/
def withPrepared (h : Host) (s : Nat) (sql : String) (n : Int) : Host :=
  { h with statements := h.statements.join ⟨s, sql, n, none, false⟩ }

theorem resultClosed_agree {h g : Host} (agree : h.outline = g.outline) (r : Nat) :
    (h.resultClosed r).outline = (g.resultClosed r).outline := by
  have e (k : Host) : (k.resultClosed r).outline = k.outline.resultClosed r := rfl
  rw [e, e, agree]

theorem withResult_agree {h g : Host} (agree : h.outline = g.outline) (connection : Nat)
    (answer : Remote.Answer) :
    (h.withResult connection answer).outline = (g.withResult connection answer).outline := by
  have e (k : Host) : (k.withResult connection answer).outline
      = k.outline.withResult connection answer := rfl
  rw [e, e, agree]

theorem statement_of_at? {h : Host} {st : Nat} {a : Statement} (ha : h.statements.at? st = some a) :
    h.statement st = a := by
  rw [statement, ha]
  rfl

/-! ### Shelves of a host -/

theorem shelf_of_session {h : Host} {s : Nat} {session : Session}
    (hs : h.sessions.at? s = some session) : h.shelves.sessions.at? s = some session.shelf := by
  simp only [shelves, Roster.at?_map, hs, Option.map_some]

/-- A shelf is that of a session. -/
theorem session_of_shelf {h : Host} {s : Nat} {shelf : Shelf}
    (hs : h.shelves.sessions.at? s = some shelf) : (h.session s).shelf = shelf := by
  simp only [shelves, Roster.at?_map] at hs
  obtain ⟨session, found, rfl⟩ := Option.map_eq_some_iff.mp hs
  rw [Host.session, found]
  rfl

/-- A session that keeps something exists. -/
theorem shelf_of_mem {h : Host} {s : Nat} {e : String × Nat} (mem : e ∈ (h.session s).cache) :
    h.shelves.sessions.at? s = some (h.session s).shelf := by
  cases hs : h.sessions.at? s with
  | none =>
    rw [session, hs] at mem
    cases mem
  | some session =>
    rw [Host.session, hs]
    exact shelf_of_session hs

/-- A session that is closed exists. -/
theorem shelf_of_closed {h : Host} {s : Nat} (closed : (h.session s).closed = true) :
    h.shelves.sessions.at? s = some (h.session s).shelf := by
  cases hs : h.sessions.at? s with
  | none =>
    rw [session, hs] at closed
    cases closed
  | some session =>
    rw [Host.session, hs]
    exact shelf_of_session hs

theorem shelf_open {h : Host} {s : Nat} (isOpen : (h.session s).closed = false) (shelf : Shelf)
    (hs : h.shelves.sessions.at? s = some shelf) : shelf.closed = false := by
  rw [← session_of_shelf hs]
  exact isOpen

/-- What a change does to a session its shelf follows. -/
theorem shelves_reviseSession (h : Host) (s : Nat) {f : Session → Session} {k : Shelf → Shelf}
    (follows : ∀ session, (f session).shelf = k session.shelf) :
    { h with sessions := h.sessions.revise s f }.shelves = h.shelves.reshelved s k := by
  simp only [shelves, Shelves.reshelved, Roster.map_revise follows]

/-- What a session keeps cannot be told. -/
theorem outline_reviseCache (h : Host) (s : Nat) (f : Ledger String Nat → Ledger String Nat) :
    { h with sessions := h.sessions.revise s fun session =>
      { session with cache := f session.cache } }.outline = h.outline := by
  have e := Roster.map_revise_same (g := Session.outline)
    (f := fun session => { session with cache := f session.cache }) (fun _ => rfl) h.sessions s
  simp only [outline, e]

end Host

/-! ### Closing and executing -/

section Act

open Host LinkedTables.Action

variable {h : Host} {st : Nat} {a : Statement} (ha : h.statements.at? st = some a)
include ha

theorem act_reviseStatement (f : Statement → Statement) :
    h.act (reviseStatement st f) = (.ok (), h.restated st (f a)) := by
  show (Except.ok (), { h with statements := h.statements.revise st f }) = _
  rw [Roster.revise_of_at? ha]
  rfl

theorem act_closeResult_none (none : a.result = none) : h.act (closeResult st) = (.ok (), h) := by
  unfold closeResult
  rw [act_get_bind, statement_of_at? ha, none]
  rfl

theorem act_closeResult_some {r : Nat} (some : a.result = some r) :
    h.act (closeResult st)
      = (.ok (), (h.resultClosed r).restated st { a with result := none }) := by
  unfold closeResult
  rw [act_get_bind, statement_of_at? ha, some]
  exact act_reviseStatement (h := h.resultClosed r) ha _

theorem act_closeStatement_none (none : a.result = none) :
    h.act (closeStatement st) = (.ok (), h.restated st { a with closed := true }) := by
  unfold closeStatement
  rw [act_bind_ok h (act_closeResult_none ha none)]
  exact act_reviseStatement ha _

theorem act_closeStatement_some {r : Nat} (some : a.result = some r) :
    h.act (closeStatement st)
      = (.ok (), (h.resultClosed r).restated st { a with result := none, closed := true }) := by
  unfold closeStatement
  rw [act_bind_ok h (act_closeResult_some ha some)]
  show (Except.ok (), _) = _
  simp only [restated, Roster.revise_revise]

end Act

/-! ### The cache -/

/-- A host that looks like another, whose statements are in custody. -/
structure Stocked (watch : Watch) (run : Option Use) (held : Holder → Option Use) (look h : Host) :
    Prop where
  outline : h.outline = look.outline
  cursors : h.cursors = look.cursors
  custody : Custody watch run held h.shelves

/-- The results that were opened and closed are told by the outline. -/
theorem tally_agree {h g : Host} (agree : h.outline = g.outline)
    {users : Option Holder → Option Use} (t : Tally users g.shelves.opened g.shelves.closed) :
    Tally users h.shelves.opened h.shelves.closed := by
  have opened : h.shelves.opened = g.shelves.opened :=
    read_agree agree (·.shelves.opened) fun _ => rfl
  have closed : h.shelves.closed = g.shelves.closed := by
    refine read_agree agree (·.shelves.closed) fun h => ?_
    show (h.journal.map Event.outline).filterMap Event.closed? = h.journal.filterMap Event.closed?
    rw [List.filterMap_map]
    congr 1
    funext event
    cases event <;> rfl
  rw [opened, closed]
  exact t

section Cache

open Host LinkedTables.Action

variable {watch : Watch} {held : Holder → Option Use} {h : Host}

/-- A statement that is prepared is ready to be executed. -/
theorem act_prepare (k : Custody watch none held h.shelves) (s : Nat) (sql : String) (n : Int) :
    ∃ st h', h.act (prepare s sql n) = (.ok st, h') ∧ Stocked watch none held h h' ∧
      h'.shelves.sessions = h.shelves.sessions ∧ h'.shelves.Ready s sql st := by
  refine ⟨h.statements.next, h.withPrepared s sql n, rfl, ⟨rfl, rfl, k.prepare s sql n⟩, rfl, ?_⟩
  exact ⟨⟨n, Roster.at?_join_next ..⟩, k.off_next s sql n⟩

/-- A statement that is taken is ready to be executed. -/
theorem act_takeStatement (k : Custody watch none held h.shelves) (s : Nat) (sql : String) :
    ∃ found h', h.act (takeStatement s sql) = (.ok found, h') ∧ Stocked watch none held h h' ∧
      ∀ st, found = some st → h'.shelves.Ready s sql st := by
  have shelves := h.shelves_reviseSession s
    (f := fun session => { session with cache := session.cache.drop sql })
    (k := fun shelf => { shelf with idle := shelf.idle.drop sql }) fun _ => rfl
  refine ⟨(h.session s).cache.value? sql, _, rfl,
    ⟨h.outline_reviseCache s (·.drop sql), rfl, ?_⟩, fun st found => ?_⟩
  · rw [shelves]
    exact k.takeShelf s sql
  · rw [shelves]
    have hs := shelf_of_mem (Ledger.mem_of_value? found)
    exact k.off_take hs found

/-- A statement that is ready is kept by its session, which is open; the statement that was kept
before is closed. -/
theorem act_putStatement (k : Custody watch none held h.shelves) {s st : Nat} {sql : String}
    (prepared : h.shelves.Prepared s sql st) (isOpen : (h.session s).closed = false) :
    ∃ h', h.act (putStatement s sql st) = (.ok (), h') ∧ Stocked watch none held h h' := by
  obtain ⟨n, ha⟩ := prepared
  have own : (h.statement st).session = s := by rw [statement_of_at? ha]
  have shelves := h.shelves_reviseSession s
    (f := fun session => { session with cache := session.cache.put sql st })
    (k := fun shelf => { shelf with idle := shelf.idle.put sql st }) fun _ => rfl
  have outline := h.outline_reviseCache s (·.put sql st)
  -- The host as soon as the statement is kept, with the previous one still open.
  generalize hk : { h with sessions := h.sessions.revise s fun session =>
    { session with cache := session.cache.put sql st } } = kept at shelves outline
  have custody : Custody watch none held kept.shelves := by
    rw [shelves]
    exact k.putShelf ⟨n, ha⟩ (shelf_open isOpen)
  have cursors : kept.cursors = h.cursors := by rw [← hk]
  have act : h.act (putStatement s sql st) = kept.act
      (((h.session s).cache.value? sql).elim (pure ()) fun previous =>
        if previous ≠ st then closeStatement previous else pure ()) := by
    unfold putStatement
    rw [act_get_bind]
    dsimp only
    rw [isOpen, own]
    simp only [ne_eq, not_true_eq_false, decide_false, Bool.or_self, Bool.false_eq_true, if_false]
    rw [← hk]
    cases (h.session s).cache.value? sql <;> rfl
  rw [act]
  cases found : (h.session s).cache.value? sql with
  | none => exact ⟨kept, rfl, outline, cursors, custody⟩
  | some previous =>
    by_cases other : previous ≠ st
    · have hs := shelf_of_mem (Ledger.mem_of_value? found)
      obtain ⟨⟨n', hp⟩, off⟩ := k.off_put hs found other
      rw [← shelves] at off
      have hp : kept.statements.at? previous = some ⟨s, sql, n', none, false⟩ := by
        rw [← hk]
        exact hp
      simp only [Option.elim_some, if_pos other]
      exact ⟨_, act_closeStatement_none hp rfl, outline, cursors, custody.close hp rfl off rfl⟩
    · simp only [Option.elim_some, if_neg other]
      exact ⟨kept, rfl, outline, cursors, custody⟩

/-- Statements without a result that are in no cache are closed. -/
theorem act_closeAll (k : Custody watch none held h.shelves) (idle : Ledger String Nat)
    (hi : ∀ e ∈ idle, h.shelves.Off e.2 ∧
      ∃ a, h.statements.at? e.2 = some a ∧ a.result = none) :
    ∃ h', h.act (idle.forM fun (_, st) => closeStatement st) = (.ok (), h') ∧
      Stocked watch none held h h' ∧ h'.shelves.sessions = h.shelves.sessions := by
  induction idle generalizing h with
  | nil => exact ⟨h, rfl, ⟨rfl, rfl, k⟩, rfl⟩
  | cons e idle ih =>
    obtain ⟨off, a, ha, none⟩ := hi e (List.mem_cons_self ..)
    have closed : Custody watch Option.none held
        (h.restated e.2 { a with closed := true }).shelves := k.close ha none off rfl
    obtain ⟨h', act, stocked, sessions⟩ := ih closed fun e' he' => by
      obtain ⟨off', a', ha', none'⟩ := hi e' (List.mem_cons_of_mem _ he')
      refine ⟨off', ?_⟩
      -- A statement that comes twice has no result the second time either.
      by_cases same : e.2 = e'.2
      · rw [← same]
        refine ⟨{ a with closed := true }, ?_, none⟩
        rw [Host.restated, Roster.at?_revise_self, ha]
        rfl
      · exact ⟨a', by rw [Host.restated, Roster.at?_revise_of_ne _ same, ha'], none'⟩
    refine ⟨h', ?_, ⟨stocked.outline, stocked.cursors, stocked.custody⟩, sessions⟩
    show h.act (closeStatement e.2 >>= fun _ => idle.forM fun (_, st) => closeStatement st) = _
    rw [act_bind_ok h (act_closeStatement_none ha none)]
    exact act

/-- A session that has been closed is cleared. -/
theorem act_clearStatements {l : Shelves} (k : Custody watch none held l) (s : Nat)
    (hl : h.shelves = l.reshelved s fun shelf => { shelf with closed := true }) :
    ∃ h', h.act (clearStatements s) = (.ok (), h') ∧ Stocked watch none held h h' ∧
      h'.shelves.sessions = (l.reshelved s fun _ => ⟨true, []⟩).sessions := by
  have shelves := h.shelves_reviseSession s (f := fun session => { session with cache := [] })
    (k := fun shelf => { shelf with idle := [] }) fun _ => rfl
  have outline := h.outline_reviseCache s fun _ => []
  -- The cache is emptied before the statements are closed, which are in no cache then.
  generalize hk : { h with sessions := h.sessions.revise s fun session =>
    { session with cache := [] } } = cleared at shelves outline
  have both : cleared.shelves = l.reshelved s fun _ => ⟨true, []⟩ := by
    rw [shelves, hl, Shelves.reshelved, Shelves.reshelved, Roster.revise_revise]
    rfl
  have custody : Custody watch none held cleared.shelves := by
    rw [both]
    exact k.closeShelf s
  have idle : ∀ e ∈ (h.session s).cache, cleared.shelves.Off e.2 ∧
      ∃ a, cleared.statements.at? e.2 = some a ∧ a.result = Option.none := by
    intro e mem
    have hs := shelf_of_mem mem
    rw [hl, Shelves.reshelved, Roster.at?_revise_self] at hs
    obtain ⟨shelf, before, after⟩ := Option.map_eq_some_iff.mp hs
    have mem : e ∈ shelf.idle := by
      rw [show shelf.idle = (h.session s).cache from congrArg Shelf.idle after]
      exact mem
    have statements : cleared.statements = l.statements := congrArg Shelves.statements both
    obtain ⟨n, idle⟩ := k.idle s shelf before e.1 e.2 mem
    rw [both, statements]
    exact ⟨k.off_close before mem, _, idle, rfl⟩
  obtain ⟨h', act, stocked, sessions⟩ := act_closeAll custody (h.session s).cache idle
  refine ⟨h', ?_, ⟨stocked.outline.trans outline, ?_, stocked.custody⟩, by rw [sessions, both]⟩
  · unfold clearStatements
    rw [act_get_bind, ← act, ← hk]
    rfl
  · rw [stocked.cursors, ← hk]

end Cache

end LinkedTables
