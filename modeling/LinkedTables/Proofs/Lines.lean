import LinkedTables.Proofs.OperationLogic

/-!
# The lines of a host

The work with statements leaves the lines of a host alone (`Unmoved`); what sessions and tables do
to them is computed here on the lines themselves (`lines_release`, `lines_closePool`).
-/

namespace LinkedTables

instance : Inhabited Line := ⟨(default : Session).line⟩

/-! ### Steps on lines -/

namespace Lines

/-- The session with a number. -/
def line (l : Lines) (s : Nat) : Line := (l.sessions.at? s).getD default

/-- The session that a table holds. -/
def heldBy (l : Lines) (t : Nat) : Option Nat := (l.held.at? t).getD none

/-- The lines with another session for a table. -/
def withHeld (l : Lines) (t : Nat) (session : Option Nat) : Lines :=
  { l with held := l.held.revise t fun _ => session }

/-- The lines with one more table, which holds no session. -/
def withTable (l : Lines) : Lines := { l with held := l.held.join none }

/-- The lines with a session that has so many users more. -/
def withUsers (l : Lines) (s : Nat) (n : Int) : Lines :=
  { l with
    sessions := l.sessions.revise s fun line => { line with useCount := line.useCount + n } }

/-- The lines behind a connect that failed. -/
def refused (l : Lines) : Lines := { l with connects := l.connects + 1 }

/-- The lines behind a connect that succeeded. -/
def connected (l : Lines) : Lines :=
  { l with connects := l.connects + 1, moves := .opened (l.connects + 1) :: l.moves }

/-- The lines with one more session, which is shared if the pool shares. -/
def withOpen (l : Lines) (line : Line) : Lines :=
  { l with
    sessions := l.sessions.join line
    shared := if l.shares then l.shared.put line.key l.sessions.next else l.shared }

/-- The lines without the session of a target, if it is the one that is shared. -/
def unshared (l : Lines) (s : Nat) : Lines :=
  { l with
    shared :=
      if l.shared.value? (l.line s).key = some s then l.shared.drop (l.line s).key else l.shared }

/-- The lines with a session closed. -/
def discarded (l : Lines) (s : Nat) : Lines :=
  if (l.line s).closed then l
  else
    { l with
      sessions := l.sessions.revise s fun line => { line with closed := true }
      moves := .closed (l.line s).connection :: l.moves }

/-- The lines when a session has been given back. -/
def released (l : Lines) (s : Nat) (force : Bool) : Lines :=
  let l := l.withUsers s (-1)
  if !force && 0 < (l.line s).useCount then l else (l.unshared s).discarded s

/-- The lines when the pool has been closed. -/
def poolClosed (l : Lines) : Lines :=
  l.shared.foldl (fun l (_, s) => l.discarded s) { l with shared := [] }

/-! What is found behind a step. -/

variable {l : Lines} {t s : Nat} {line : Line}

theorem line_of_at? (found : l.sessions.at? s = some line) : l.line s = line := by
  rw [Lines.line, found]
  rfl

/-- A table that holds a session is there. -/
theorem held_of_heldBy (held : l.heldBy t = some s) : l.held.at? t = some (some s) := by
  unfold heldBy at held
  cases ht : l.held.at? t with
  | none => rw [ht] at held; cases held
  | some session => rw [ht] at held; rw [← held]; rfl

theorem heldBy_withHeld_none : (l.withHeld t none).heldBy t = none := by
  simp only [heldBy, withHeld, Roster.at?_revise_self]
  cases l.held.at? t <;> rfl

theorem heldBy_withHeld (known : t < l.held.next) (session : Option Nat) :
    (l.withHeld t session).heldBy t = session := by
  have found : l.held.at? t = some l.held[t] := List.getElem?_eq_getElem known
  simp only [heldBy, withHeld, Roster.at?_revise_self, found, Option.map_some, Option.getD_some]

theorem heldBy_withHeld_of_ne {t' : Nat} (ne : t' ≠ t) (session : Option Nat) :
    (l.withHeld t session).heldBy t' = l.heldBy t' := by
  simp only [heldBy, withHeld, Roster.at?_revise_of_ne _ ne.symm]

theorem at?_withUsers (found : l.sessions.at? s = some line) (n : Int) :
    (l.withUsers s n).sessions.at? s = some { line with useCount := line.useCount + n } := by
  rw [withUsers, Roster.at?_revise_self, found]
  rfl

theorem at?_discarded (l : Lines) (s s' : Nat) :
    (l.discarded s).sessions.at? s' =
      if s = s' then (l.sessions.at? s').map fun line => { line with closed := true }
      else l.sessions.at? s' := by
  unfold discarded
  split
  next closed =>
    split
    next e =>
      subst e
      cases hs : l.sessions.at? s with
      | none => rfl
      | some line =>
        rw [line_of_at? hs] at closed
        have e : { line with closed := true } = line := by rw [← closed]
        rw [Option.map_some, e]
    next => rfl
  next => exact Roster.at?_revise ..

theorem held_discarded (l : Lines) (s : Nat) : (l.discarded s).held = l.held := by
  unfold discarded
  split <;> rfl

theorem held_released (l : Lines) (s : Nat) (force : Bool) :
    (l.released s force).held = l.held := by
  unfold released
  dsimp only
  split
  · rfl
  · exact held_discarded ((l.withUsers s (-1)).unshared s) s

theorem released_of_users (found : l.sessions.at? s = some line)
    (users : 0 < line.useCount + -1) : l.released s false = l.withUsers s (-1) := by
  unfold released
  dsimp only
  rw [line_of_at? (at?_withUsers found (-1)), if_pos (by simpa using users)]

theorem released_of_last (force : Bool) (found : l.sessions.at? s = some line)
    (last : force = true ∨ ¬0 < line.useCount + -1) :
    l.released s force = ((l.withUsers s (-1)).unshared s).discarded s := by
  have leaves : (!force && decide (0 < line.useCount + -1)) = false := by
    rcases last with rfl | last
    · rfl
    · rw [decide_eq_false last, Bool.and_false]
  unfold released
  dsimp only
  rw [line_of_at? (at?_withUsers found (-1)), leaves, if_neg Bool.false_ne_true]

/-- A session that is given back for good has been closed before, or is closed now. -/
theorem released_last (force : Bool) (found : l.sessions.at? s = some line)
    (last : force = true ∨ ¬0 < line.useCount + -1) :
    (l.released s force).moves
        = (if line.closed then l.moves else .closed line.connection :: l.moves) ∧
      ((l.released s force).line s).closed = true := by
  have found' : ((l.withUsers s (-1)).unshared s).sessions.at? s
      = some { line with useCount := line.useCount + -1 } := at?_withUsers found (-1)
  have closed := at?_discarded ((l.withUsers s (-1)).unshared s) s s
  rw [if_pos rfl, found', Option.map_some] at closed
  rw [released_of_last force found last, line_of_at? closed, discarded, line_of_at? found']
  refine ⟨?_, rfl⟩
  dsimp only
  split <;> rfl

end Lines

namespace Host

/-- The openings and closings of connections, the latest first. -/
def moves (h : Host) : List Move := h.journal.filterMap Event.move?

theorem lines_line (h : Host) (s : Nat) : h.lines.line s = (h.session s).line := by
  simp only [Lines.line, lines, session, Roster.at?_map]
  cases h.sessions.at? s <;> rfl

/-- The lines have the sessions of the host. -/
theorem lines_at? {h : Host} {s : Nat} (known : s < h.sessions.next) :
    h.lines.sessions.at? s = some (h.session s).line := by
  have found : h.sessions.at? s = some h.sessions[s] := List.getElem?_eq_getElem known
  simp only [lines, session, Roster.at?_map, found, Option.map_some, Option.getD_some]

theorem lines_next (h : Host) : h.lines.sessions.next = h.sessions.next := List.length_map _

theorem lines_heldBy (h : Host) (t : Nat) : h.lines.heldBy t = (h.table t).session := by
  simp only [Lines.heldBy, lines, table, Roster.at?_map]
  cases h.tables.at? t <;> rfl

end Host

/-! ### Work with statements -/

/-- A host and itself, with lines and cursors that are given. -/
def Unmoved (l : Lines) (cs : Roster Cursor) : Host → Host → Prop :=
  Same fun h => h.lines = l ∧ h.cursors = cs

theorem quiet_unmoved (l : Lines) (cs : Roster Cursor) : Quiet (Unmoved l cs) := by
  refine Quiet.same fun h h' hl hs hh => ⟨hl.trans hh.1, ?_⟩
  have e : h'.cursors = h.cursors := congrArg Shelves.cursors hs
  exact e.trans hh.2

namespace Action

variable {α : Type} {l : Lines} {cs : Roster Cursor}

/-- On a single host, what follows may look at everything. -/
theorem Coupled.get_same {P : Host → Prop} {E : Host → Host → Prop} {β : Type}
    {f : Host → Action α} {f' : Host → Action β} {S : α → β → Host → Host → Prop}
    (hf : ∀ h, P h → Coupled (Same P) (f h) (f' h) S E) :
    Coupled (Same P) (get >>= f) (get >>= f') S E :=
  Coupled.get_bind' fun h g r => by
    obtain ⟨rfl, hh⟩ := r
    exact hf h hh

theorem unmoved_modify {f : Host → Host} (hl : ∀ h, (f h).lines = h.lines)
    (hc : ∀ h, (f h).cursors = h.cursors) : Smooth (Unmoved l cs) (modify f) := by
  refine Smooth.of_modify ?_
  rintro h _ ⟨rfl, hh⟩
  exact ⟨rfl, (hl h).trans hh.1, (hc h).trans hh.2⟩

theorem unmoved_note {event : Event} (hm : event.move? = none) :
    Smooth (Unmoved l cs) (note event) := by
  refine unmoved_modify (fun h => ?_) fun _ => rfl
  simp only [Host.lines, List.filterMap_cons, hm]

theorem unmoved_reviseStatement (st : Nat) (f : Statement → Statement) :
    Smooth (Unmoved l cs) (reviseStatement st f) :=
  unmoved_modify (fun _ => rfl) fun _ => rfl

theorem unmoved_reviseCache (s : Nat) (f : Ledger String Nat → Ledger String Nat) :
    Smooth (Unmoved l cs) (reviseSession s fun session =>
      { session with cache := f session.cache }) := by
  refine unmoved_modify (fun h => ?_) fun _ => rfl
  have e := Roster.map_revise_same (g := Session.line)
    (f := fun session => { session with cache := f session.cache }) (fun _ => rfl) h.sessions s
  simp only [Host.lines, e]

theorem unmoved_prepare (s : Nat) (sql : String) (fetchSize : Int) :
    Smooth (Unmoved l cs) (prepare s sql fetchSize) :=
  Coupled.get_same fun _ _ => Smooth.bind (unmoved_modify (fun _ => rfl) fun _ => rfl)
    fun _ => Smooth.of_pure _

theorem unmoved_closeResult (st : Nat) : Smooth (Unmoved l cs) (closeResult st) := by
  refine Coupled.get_same fun h _ => ?_
  split
  · exact Smooth.of_pure ()
  next r _ =>
    refine Smooth.bind (unmoved_note rfl) fun _ => ?_
    exact Smooth.bind (smooth_reviseResult (quiet_unmoved l cs) r _) fun _ =>
      unmoved_reviseStatement st _

theorem unmoved_closeStatement (st : Nat) : Smooth (Unmoved l cs) (closeStatement st) :=
  Smooth.bind (unmoved_closeResult st) fun _ => unmoved_reviseStatement st _

theorem unmoved_executeStatement (st : Nat) (params : List Value) :
    Steady (Unmoved l cs) (executeStatement st params) := by
  have hq := quiet_unmoved l cs
  refine Smooth.bind_steady (unmoved_closeResult st) fun _ => ?_
  refine Coupled.get_same fun h _ => ?_
  refine Smooth.bind_steady (unmoved_note rfl) fun _ => ?_
  have answered : Steady (Unmoved l cs) (do
      let answer ← Action.ofExcept (← fromScript Remote.Script.execute)
      let r := (← get).results.next
      modify fun k =>
        { k with
          cancelled := k.cancelled || answer.cancels
          results := k.results.join
            ⟨(h.session (h.statement st).session).connection, answer.rows, false⟩ }
      reviseStatement st fun statement => { statement with result := some r }
      return r) := by
    refine Smooth.bind_steady (smooth_fromScript hq _) fun answer => ?_
    refine Steady.bind (Steady.of_ofExcept answer) fun answer => Coupled.get_same fun k _ => ?_
    refine Smooth.bind_steady (unmoved_modify (fun _ => rfl) fun _ => rfl) fun _ => ?_
    exact Smooth.bind_steady (unmoved_reviseStatement st _) fun _ => Steady.of_pure _
  refine Steady.of_ite (fun _ => ?_) fun _ => answered
  exact Steady.bind (Steady.of_throw _) fun _ => answered

theorem unmoved_tryStatement (st : Nat) (values : List Value) :
    Steady (Unmoved l cs) (Executor.tryStatement st values) := by
  refine Steady.outcome_bind (unmoved_executeStatement st values) fun r => ?_
  cases r with
  | ok _ => exact Steady.of_pure _
  | error fault =>
    refine Steady.of_ite (fun _ => ?_) fun _ => Steady.of_throw fault
    exact Smooth.bind_steady (unmoved_closeStatement st) fun _ => Steady.of_pure _

theorem unmoved_takeStatement (s : Nat) (sql : String) :
    Smooth (Unmoved l cs) (takeStatement s sql) :=
  Coupled.get_same fun _ _ =>
    Smooth.bind (unmoved_reviseCache s (·.drop sql)) fun _ => Smooth.of_pure _

theorem unmoved_putStatement (s : Nat) (sql : String) (st : Nat) :
    Smooth (Unmoved l cs) (putStatement s sql st) := by
  refine Coupled.get_same fun h _ => Smooth.of_ite (fun _ => unmoved_closeStatement st) fun _ => ?_
  refine Smooth.bind (unmoved_reviseCache s (·.put sql st)) fun _ => ?_
  split
  · exact Smooth.of_ite (fun _ => unmoved_closeStatement _) fun _ => Smooth.of_pure ()
  · exact Smooth.of_pure ()

theorem unmoved_clearStatements (s : Nat) : Smooth (Unmoved l cs) (clearStatements s) :=
  Coupled.get_same fun _ _ => Smooth.bind (unmoved_reviseCache s fun _ => []) fun _ =>
    Smooth.of_forM _ fun (_, st) => unmoved_closeStatement st

theorem unmoved_attemptExecute (t s : Nat) (sql : String) (params : List Value)
    (client : Option Nat) : Steady (Unmoved l cs) (attemptExecute t s sql params client) := by
  have hq := quiet_unmoved l cs
  refine Steady.bind (Steady.of_mapM params (steady_convertFor hq client)) fun values => ?_
  refine Coupled.get_same fun h _ => ?_
  have tried (st : Nat) : Steady (Unmoved l cs) (do
      report ⟨.debug, Sql.trace (h.table t).name sql params⟩
      Executor.tryStatement st values) :=
    Smooth.bind_steady (smooth_report hq _) fun _ => unmoved_tryStatement st values
  refine Smooth.bind_steady (unmoved_takeStatement s sql) fun found => ?_
  cases found with
  | some st => exact Steady.bind (Steady.of_pure st) tried
  | none => exact Smooth.bind_steady (unmoved_prepare s sql _) tried

theorem unmoved_handBack (t st : Nat) (sql : String) :
    Smooth (Unmoved l cs) (handBack t st sql) := by
  refine Coupled.get_same fun h _ => ?_
  split
  · exact unmoved_closeStatement st
  next s _ =>
    refine Smooth.of_ite (fun _ => unmoved_closeStatement st) fun _ => ?_
    exact Smooth.bind (unmoved_closeResult st) fun _ => unmoved_putStatement s sql st

/-- What leaves all lines and cursors alone leaves those of a host alone. -/
theorem Steady.unmoved {x : Action α} (hx : ∀ l cs, Steady (Unmoved l cs) x) (h : Host) :
    (h.act x).2.lines = h.lines ∧ (h.act x).2.cursors = h.cursors :=
  Steady.same (hx h.lines h.cursors) ⟨rfl, rfl⟩

/-! ### Work with sessions -/

/-- A change that makes other lines of the lines. -/
theorem unmoved_become {f : Host → Host} {l' : Lines} (hl : ∀ h, h.lines = l → (f h).lines = l')
    (hc : ∀ h, (f h).cursors = h.cursors) :
    ∀ h g, Unmoved l cs h g → Unmoved l' cs (f h) (f g) := by
  rintro h _ ⟨rfl, hh⟩
  exact ⟨rfl, hl h hh.1, (hc h).trans hh.2⟩

/-- Only a connection that is invalidated can fail to be closed without a fault. -/
theorem lines_discard (s : Nat) (force : Bool) :
    Coupled (Unmoved l cs) (discard s force) (discard s force)
      (fun _ _ => Unmoved (l.discarded s) cs)
      fun h g => force = true ∧ Unmoved (l.discarded s) cs h g := by
  refine Coupled.get_same fun h hh => ?_
  have line : (h.session s).line = l.line s := by rw [← hh.1, h.lines_line]
  have closed : (h.session s).closed = (l.line s).closed := congrArg Line.closed line
  have connection : (h.session s).connection = (l.line s).connection :=
    congrArg Line.connection line
  dsimp only
  rw [closed, connection]
  cases hc : (l.line s).closed with
  | true =>
    have e : l.discarded s = l := by rw [Lines.discarded, if_pos hc]
    rw [e, if_pos rfl]
    exact Coupled.of_pure fun _ _ r => r
  | false =>
    have e : l.discarded s = { l with
        sessions := l.sessions.revise s fun line => { line with closed := true }
        moves := .closed (l.line s).connection :: l.moves } := by
      rw [Lines.discarded, hc]
      rfl
    rw [e, if_neg (by decide)]
    -- The session is closed first, and its connection last.
    refine Coupled.modify_bind (T := Unmoved { l with
      sessions := l.sessions.revise s fun line => { line with closed := true } } cs) ?_ ?_
    · refine unmoved_become (fun h hl => ?_) fun _ => rfl
      have e := Roster.map_revise (g := Session.line)
        (f := fun session => { session with closed := true })
        (k := fun line => { line with closed := true }) (fun _ => rfl) h.sessions s
      rw [← hl]
      simp only [Host.lines, e]
    have cut : ∀ h g, Unmoved { l with
          sessions := l.sessions.revise s fun line => { line with closed := true } } cs h g →
        Unmoved { l with
          sessions := l.sessions.revise s fun line => { line with closed := true }
          moves := .closed (l.line s).connection :: l.moves } cs
        { h with journal := .closed (l.line s).connection :: h.journal }
        { g with journal := .closed (l.line s).connection :: g.journal } := by
      refine unmoved_become (fun h hl => ?_) fun _ => rfl
      show { h.lines with moves := .closed (l.line s).connection :: h.lines.moves } = _
      rw [hl]
    refine Smooth.bind_coupled (unmoved_clearStatements s) fun _ => ?_
    cases force with
    | false => exact Coupled.of_modify cut
    | true =>
      refine Smooth.bind_coupled (unmoved_note rfl) fun _ => ?_
      refine Smooth.bind_coupled (smooth_fromScript (quiet_unmoved _ _) _) fun r => ?_
      refine Coupled.modify_bind cut ?_
      exact Coupled.of_ofExcept (fun _ _ _ r => r) fun _ _ r => ⟨rfl, r⟩

theorem lines_release (s : Nat) (force : Bool) :
    Coupled (Unmoved l cs) (release s force) (release s force)
      (fun _ _ => Unmoved (l.released s force) cs)
      fun h g => force = true ∧ Unmoved (l.released s force) cs h g := by
  refine Coupled.modify_bind (T := Unmoved (l.withUsers s (-1)) cs) ?_ ?_
  · refine unmoved_become (fun h hl => ?_) fun _ => rfl
    have e := Roster.map_revise (g := Session.line)
      (f := fun session => { session with useCount := session.useCount - 1 })
      (k := fun line => { line with useCount := line.useCount + -1 }) (fun _ => rfl) h.sessions s
    rw [← hl]
    simp only [Host.lines, Lines.withUsers, e]
  refine Coupled.get_same fun h hh => ?_
  have line : (h.session s).line = (l.withUsers s (-1)).line s := by rw [← hh.1, h.lines_line]
  have users : (h.session s).useCount = ((l.withUsers s (-1)).line s).useCount :=
    congrArg Line.useCount line
  have key : (h.session s).key = ((l.withUsers s (-1)).line s).key := congrArg Line.key line
  -- Host and lines ask the same: whether there are users left, and who is shared.
  dsimp only [Lines.released]
  rw [users, key]
  split
  · exact Coupled.of_pure fun _ _ r => r
  · refine Coupled.modify_bind (T := Unmoved ((l.withUsers s (-1)).unshared s) cs) ?_
      (lines_discard s force)
    refine unmoved_become (fun h hl => ?_) fun _ => rfl
    rw [Lines.unshared, ← hl]
    generalize (h.lines.line s).key = key
    by_cases hs : h.pool.shared.value? key = some s
    · simp only [Host.lines, hs, if_true]
    · simp only [Host.lines, hs, if_false]

theorem lines_discardAll (sessions : Ledger LinkKey Nat) :
    Coupled (Unmoved l cs) (sessions.forM fun (_, s) => discard s false)
      (sessions.forM fun (_, s) => discard s false)
      (fun _ _ => Unmoved (sessions.foldl (fun l (_, s) => l.discarded s) l) cs)
      fun _ _ => False := by
  induction sessions generalizing l with
  | nil => exact Coupled.of_pure fun _ _ r => r
  | cons entry rest ih =>
    obtain ⟨key, s⟩ := entry
    have first : Coupled (Unmoved l cs) (discard s false) (discard s false)
        (fun _ _ => Unmoved (l.discarded s) cs) fun _ _ => False :=
      (lines_discard s false).behind (fun _ _ _ _ r => r) fun _ _ r => by cases r.1
    exact Coupled.bind first fun _ _ => ih

/-- The sessions that are shared are closed one after the other. -/
theorem lines_closePool :
    Coupled (Unmoved l cs) closePool closePool
      (fun _ _ => Unmoved l.poolClosed cs) fun _ _ => False := by
  refine Coupled.get_same fun h hh => ?_
  have shared : h.pool.shared = l.shared := congrArg Lines.shared hh.1
  refine Coupled.modify_bind (T := Unmoved { l with shared := [] } cs) ?_ ?_
  · refine unmoved_become (fun h hl => ?_) fun _ => rfl
    rw [← hl]
    rfl
  · rw [shared]
    refine Coupled.bind (lines_discardAll l.shared) fun _ _ => ?_
    exact Coupled.behind (Smooth.of_forM _ fun (_, url) => unmoved_note rfl)
      (fun _ _ _ _ q => q.2) fun _ _ e => e

end Action

/-- A session is given back, whether its connection can be invalidated or not. -/
theorem Host.lines_act_release (h : Host) (s : Nat) (force : Bool) :
    (h.act (Action.release s force)).2.lines = h.lines.released s force := by
  have unmoved : Unmoved h.lines h.cursors h h := ⟨rfl, rfl, rfl⟩
  have ends := Action.lines_release s force unmoved
  generalize h.act (Action.release s force) = p at ends ⊢
  obtain ⟨r, h'⟩ := p
  cases ends with
  | value q => exact q.2.1
  | fault e => exact e.2.2.1

end LinkedTables
