import LinkedTables.Proofs.Lines

/-!
# The logic of lines

A `LineLogic` gives a predicate on lines for each phase of the work on a table, with a rule for each
step of the pool. As the lines know nothing of statements, it is a `CursorLogic` of hosts with
themselves, and it carries over to every operation that leaves the sessions to the tables
(`LineLogic.perform`).
-/

namespace LinkedTables

/-- Predicates on lines for the phases of the work on a table, with a rule for each step. -/
structure LineLogic (t : Nat) (P : Phase → Lines → Prop) : Prop where
  settle : ∀ {l}, P .loose l → P .settled l
  join : ∀ {l}, P .settled l → t = l.held.next → P .loose l.withTable
  loosen : ∀ {l}, P .settled l → l.heldBy t = none → P .loose l
  letGo : ∀ {l s}, P .settled l → l.heldBy t = some s → P (.inHand s) (l.withHeld t none)
  hold : ∀ {l s}, P (.inHand s) l → t < l.held.next → P .settled (l.withHeld t (some s))
  share : ∀ {l key s}, P .loose l → l.shares = true → l.shared.value? key = some s →
    (l.line s).closed = false → P (.inHand s) (l.withUsers s 1)
  vacate : ∀ {l key}, P .loose l →
    (l.shares = true → ∀ s, l.shared.value? key = some s → (l.line s).closed = true) →
    P (.vacant key) l
  occupy : ∀ {l key}, P (.vacant key) l → P .loose l
  refuse : ∀ {l key}, P (.vacant key) l → P .loose l.refused
  connect : ∀ {l key}, P (.vacant key) l → P (.line key (l.connects + 1)) l.connected
  openLine : ∀ {l key n}, P (.line key n) l →
    P (.inHand l.sessions.next) (l.withOpen ⟨key, n, 1, false⟩)
  release : ∀ {l s}, P (.inHand s) l → ∀ force, P .loose (l.released s force)
  closePool : ∀ {l}, P .settled l → P .settled l.poolClosed

/-- A host and itself, with the predicate of a phase on its lines. -/
def Lined (P : Phase → Lines → Prop) : Phase → Host → Host → Prop
  | .busy _ _ st st' | .spent _ _ st st' =>
    fun h g => st = st' ∧ Same (fun h => P .settled h.lines) h g
  | p => Same fun h => P p h.lines

namespace Lined

open LinkedTables.Action

variable {α : Type} {P : Phase → Lines → Prop} {F : Roster Cursor → Roster Cursor → Prop}

theorem quiet (P : Phase → Lines → Prop) (F : Roster Cursor → Roster Cursor → Prop) (p : Phase) :
    Quiet fun h g => Lined P p h g ∧ F h.cursors g.cursors := by
  refine Quiet.and_cursors ?_ F
  have of_lines (P : Lines → Prop) : Quiet (Same fun h => P h.lines) :=
    Quiet.same fun h h' hl _ hh => by rw [hl]; exact hh
  cases p with
  | busy sql r st st' => exact (of_lines _).and_left _
  | spent sql r st st' => exact (of_lines _).and_left _
  | _ => exact of_lines _

/-- What is known of given lines and cursors is known of the hosts that have them. -/
theorem of_given {P : Lines → Prop} {l : Lines} {cs : Roster Cursor} (hP : P l) (hF : F cs cs)
    (h g : Host) (r : Unmoved l cs h g) :
    Same (fun h => P h.lines) h g ∧ F h.cursors g.cursors := by
  obtain ⟨rfl, rfl, rfl⟩ := r
  exact ⟨⟨rfl, hP⟩, hF⟩

/-- What an action does to all lines it does to those of a host. -/
theorem of_unmoved {x : Action α} {P P' : Lines → Prop} {step : Lines → Lines}
    (hx : ∀ l cs, Coupled (Unmoved l cs) x x (fun a b h g => a = b ∧ Unmoved (step l) cs h g)
      (Unmoved (step l) cs)) (hP : ∀ l, P l → P' (step l)) :
    Leads (fun h g => Same (fun h => P h.lines) h g ∧ F h.cursors g.cursors) x x
      (fun _ h g => Same (fun h => P' h.lines) h g ∧ F h.cursors g.cursors)
      (fun h g => Same (fun h => P' h.lines) h g ∧ F h.cursors g.cursors) := by
  rintro h _ ⟨⟨rfl, hp⟩, hF⟩
  have carried := of_given (hP _ hp) hF
  exact (hx h.lines h.cursors ⟨rfl, rfl, rfl⟩).mono
    (fun a b h' g' q => ⟨q.1, carried h' g' q.2⟩) carried

/-- What leaves the lines alone keeps what is known of them. -/
theorem of_steady {x : Action α} {P : Lines → Prop} (hx : ∀ l cs, Steady (Unmoved l cs) x) :
    Steady (fun h g => Same (fun h => P h.lines) h g ∧ F h.cursors g.cursors) x :=
  of_unmoved hx fun _ hp => hp

end Lined

namespace LineLogic

open LinkedTables.Action

variable {t : Nat} {P : Phase → Lines → Prop} (L : LineLogic t P)

/-! ### The lines behind each change of a host -/

theorem lines_withSession (h : Host) (t : Nat) (session : Option Nat) :
    (h.withSession t session).lines = h.lines.withHeld t session := by
  have e := Roster.map_revise (g := LinkedTable.session)
    (f := fun table => { table with session }) (k := fun _ => session) (fun _ => rfl) h.tables t
  simp only [Host.lines, Host.withSession, Lines.withHeld, e]

theorem lines_withTable (h : Host) {table : LinkedTable} (none : table.session = none) :
    (h.withTable table).lines = h.lines.withTable := by
  simp only [Host.lines, Host.withTable, Lines.withTable, Roster.map_join, none]

theorem lines_withUser (h : Host) (s : Nat) : (h.withUser s).lines = h.lines.withUsers s 1 := by
  have e := Roster.map_revise (g := Session.line)
    (f := fun session => { session with useCount := session.useCount + 1 })
    (k := fun line => { line with useCount := line.useCount + 1 }) (fun _ => rfl) h.sessions s
  simp only [Host.lines, Host.withUser, Lines.withUsers, e]

theorem lines_withOpen (h : Host) {session : Session} {key : LinkKey} {n : Nat}
    (new : session.IsNew key n) :
    (h.withOpen session).lines = h.lines.withOpen ⟨key, n, 1, false⟩ := by
  have e : session.line = ⟨key, n, 1, false⟩ := by
    rw [Session.line, new.key, new.connection, new.useCount, new.closed]
  have next : Roster.next (h.sessions.map Session.line) = h.sessions.next := List.length_map _
  simp only [Host.lines, Host.withOpen, Lines.withOpen, Roster.map_join, e, next, new.key]
  split
  · rfl
  · rfl

/-- A session that holds nothing is let go in vain. -/
theorem withHeld_of_none {l : Lines} {t : Nat} (none : l.heldBy t = none) :
    l.withHeld t Option.none = l := by
  have e := Roster.map_revise_at (g := id) (f := fun _ => Option.none) l.held t ?_
  · simp only [List.map_id] at e
    rw [Lines.withHeld, e]
  · intro session hs
    simp only [Lines.heldBy, hs, Option.getD_some] at none
    exact none.symm

/-- A shared session is an open one that the lines name. -/
theorem sharedSession?_some {h : Host} {key : LinkKey} {s : Nat}
    (found : sharedSession? h key = some s) :
    h.lines.shares = true ∧ h.lines.shared.value? key = some s ∧
      (h.lines.line s).closed = false := by
  unfold sharedSession? at found
  split at found
  next shares =>
    obtain ⟨value, isOpen⟩ := Option.filter_eq_some_iff.mp found
    refine ⟨shares, value, ?_⟩
    rw [h.lines_line]
    show (h.session s).closed = false
    simpa using isOpen
  next => cases found

theorem sharedSession?_none {h : Host} {key : LinkKey} (found : sharedSession? h key = none)
    (shares : h.lines.shares = true) (s : Nat) (value : h.lines.shared.value? key = some s) :
    (h.lines.line s).closed = true := by
  have shares : h.pool.shares = true := shares
  unfold sharedSession? at found
  rw [if_pos shares] at found
  have closed := Option.filter_eq_none_iff.mp found s value
  rw [h.lines_line]
  show (h.session s).closed = true
  simpa using closed

/-! ### The logic of hosts -/

/-- A connect that comes to a connection, or fails. -/
theorem lines_connectOnce (l : Lines) (cs : Roster Cursor) :
    Coupled (Unmoved l cs) connectOnce connectOnce
      (Ends (fun n n' h g => n = n' ∧ n = l.connects + 1 ∧ Unmoved l.connected cs h g)
        (Unmoved l.refused cs)) (Unmoved l cs) := by
  refine Coupled.get_same fun h hh => ?_
  refine Smooth.bind_coupled (smooth_fromScript (quiet_unmoved _ _) _) fun r => ?_
  have connects : h.connects = l.connects := congrArg Lines.connects hh.1
  rw [connects]
  refine Coupled.modify_bind (T := Unmoved l.refused cs) ?_ ?_
  · refine unmoved_become (fun h hl => ?_) fun _ => rfl
    show { h.lines with connects := l.connects + 1 } = _
    rw [hl]
    rfl
  · cases r with
    | error fault =>
      refine Smooth.bind_coupled (unmoved_note rfl) fun _ => ?_
      exact Coupled.of_pure fun _ _ r => .fault r
    | ok _ =>
      refine Coupled.modify_bind (T := Unmoved l.connected cs) ?_ ?_
      · refine unmoved_become (fun h hl => ?_) fun _ => rfl
        show { h.lines with moves := .opened (l.connects + 1) :: h.lines.moves } = _
        rw [hl]
        rfl
      · exact Coupled.of_pure fun _ _ r => .value ⟨rfl, rfl, r⟩

/-- A session is let go without a fault, unless that is done by force. -/
theorem lines_closeLink {l : Lines} {cs : Roster Cursor} {t s : Nat} (held : l.heldBy t = some s) :
    Coupled (Unmoved l cs) (closeLink t) (closeLink t)
      (fun _ _ => Unmoved ((l.withHeld t none).released s false) cs) fun _ _ => False := by
  refine Coupled.get_same fun h hh => ?_
  have held' : (h.table t).session = some s := by rw [← h.lines_heldBy, hh.1, held]
  rw [held']
  refine Coupled.modify_bind (T := Unmoved (l.withHeld t none) cs) ?_ ?_
  · refine unmoved_become (fun h hl => ?_) fun _ => rfl
    rw [← hl]
    exact lines_withSession h t none
  · exact (lines_release s false).behind (fun _ _ _ _ r => r) fun _ _ r => by cases r.1

variable (F : Roster Cursor → Roster Cursor → Prop)
include L

theorem linkLogic : LinkLogic .cached .cached t fun p h g =>
    Lined P p h g ∧ F h.cursors g.cursors where
  quiet := Lined.quiet P F
  settle := by
    rintro h _ ⟨⟨rfl, hp⟩, hF⟩
    exact ⟨⟨rfl, L.settle hp⟩, hF⟩
  join := by
    rintro h _ table ⟨⟨rfl, hp⟩, hF⟩ ht none
    refine ⟨⟨rfl, ?_⟩, hF⟩
    show P .loose (h.withTable table).lines
    rw [lines_withTable h none]
    refine L.join hp ?_
    rw [ht]
    exact (List.length_map _).symm
  loosen := by
    rintro h _ ⟨⟨rfl, hp⟩, hF⟩ none
    refine ⟨⟨rfl, ?_⟩, hF⟩
    show P .loose (h.withSession t Option.none).lines
    rw [← h.lines_heldBy] at none
    rw [lines_withSession, withHeld_of_none none]
    exact L.loosen hp none
  letGo := by
    rintro h _ s ⟨⟨rfl, hp⟩, hF⟩ held
    refine ⟨⟨rfl, ?_⟩, hF⟩
    show P (.inHand s) (h.withSession t none).lines
    rw [← h.lines_heldBy] at held
    rw [lines_withSession]
    exact L.letGo hp held
  hold := by
    rintro h _ s ⟨⟨rfl, hp⟩, hF⟩ known
    refine ⟨⟨rfl, ?_⟩, hF⟩
    show P .settled (h.withSession t (some s)).lines
    rw [lines_withSession]
    refine L.hold hp ?_
    rw [Roster.next, Host.lines, List.length_map]
    exact known
  share := by
    rintro h _ key s ⟨⟨rfl, hp⟩, hF⟩ found
    refine ⟨⟨rfl, ?_⟩, hF⟩
    show P (.inHand s) (h.withUser s).lines
    rw [lines_withUser]
    obtain ⟨shares, value, isOpen⟩ := sharedSession?_some found
    exact L.share hp shares value isOpen
  vacate := by
    rintro h _ key ⟨⟨rfl, hp⟩, hF⟩ found
    exact ⟨⟨rfl, L.vacate hp (sharedSession?_none found)⟩, hF⟩
  occupy := by
    rintro h _ key ⟨⟨rfl, hp⟩, hF⟩
    exact ⟨⟨rfl, L.occupy hp⟩, hF⟩
  dial key := by
    rintro h _ ⟨⟨rfl, hp⟩, hF⟩
    refine (lines_connectOnce h.lines h.cursors ⟨rfl, rfl, rfl⟩).mono (fun r r' k k' ends => ?_)
      (Lined.of_given (L.occupy hp) hF)
    refine ends.mono (fun n n' k k' q => ⟨q.1, ?_⟩) (Lined.of_given (L.refuse hp) hF)
    -- The connection is the next one of the lines that were there before.
    rw [q.2.1]
    exact Lined.of_given (L.connect hp) hF k k' q.2.2
  openLine := by
    rintro h _ key n session ⟨⟨rfl, hp⟩, hF⟩ new
    refine ⟨⟨rfl, ?_⟩, hF⟩
    show P (.inHand h.sessions.next) (h.withOpen session).lines
    rw [lines_withOpen h new]
    have next : h.lines.sessions.next = h.sessions.next := List.length_map _
    rw [← next]
    exact L.openLine hp
  release s force := by
    -- A fault of a forced release comes when the session has been given up already.
    have released (l : Lines) (cs : Roster Cursor) :
        Leads (Unmoved l cs) (Action.release s force) (Action.release s force)
          (fun _ => Unmoved (l.released s force) cs) (Unmoved (l.released s force) cs) :=
      (lines_release s force).behind (fun _ _ _ _ r => ⟨rfl, r⟩) fun _ _ r => r.2
    exact Coupled.behind (Lined.of_unmoved released fun l hp => L.release hp force)
      (fun _ _ _ _ q => q.2) fun _ _ e => e
  closePool := by
    have closed (l : Lines) (cs : Roster Cursor) :
        Leads (Unmoved l cs) Action.closePool Action.closePool
          (fun _ => Unmoved l.poolClosed cs) (Unmoved l.poolClosed cs) :=
      lines_closePool.behind (fun _ _ _ _ r => ⟨rfl, r⟩) fun _ _ e => e.elim
    exact Coupled.behind (Lined.of_unmoved closed fun l hp => L.closePool hp)
      (fun _ _ _ _ q => q.2) fun _ _ e => e
  attempt s sql params client := by
    refine Coupled.behind (Lined.of_steady fun _ _ => unmoved_attemptExecute t s sql params client)
      ?_ fun _ _ e => e
    rintro r _ h g ⟨rfl, q⟩
    cases r with
    | ok st => exact .value ⟨0, ⟨rfl, q.1⟩, q.2⟩
    | error fault => exact .fault q
  spend := id
  handBack sql r st st' := by
    rintro h g ⟨⟨rfl, same⟩, hF⟩
    refine (Lined.of_steady (P := P .settled) (F := F)
      (fun _ _ => (unmoved_handBack t st sql).steady) ⟨same, hF⟩).mono ?_ fun _ _ e => e
    exact fun _ _ _ _ q => q.2
  close sql r st st' := by
    rintro h g ⟨⟨rfl, same⟩, hF⟩
    refine (Lined.of_steady (P := P .settled) (F := F)
      (fun _ _ => (unmoved_closeStatement st).steady) ⟨same, hF⟩).mono ?_ fun _ _ e => e
    exact fun _ _ _ _ q => q.2
  result := by
    rintro h _ sql r st _ ⟨⟨rfl, rfl, -⟩, -⟩
    rfl

theorem cursorLogic : CursorLogic .cached .cached t (fun _ => True) (Lined P) where
  link F := L.linkLogic F
  start := by
    rintro h _ cursor ⟨rfl, hp⟩ -
    exact ⟨rfl, hp⟩
  suspend := by
    rintro h _ c r k st _ - ⟨rfl, rfl, hp⟩ - - -
    exact ⟨rfl, hp⟩
  resume := by
    rintro h _ c r st st' - ⟨rfl, hp⟩ phase phase'
    rw [phase] at phase'
    obtain ⟨rfl, -⟩ := CursorPhase.reading.inj phase'
    exact ⟨rfl, rfl, hp⟩
  conclude := by
    rintro h _ c - ⟨rfl, hp⟩ - -
    exact ⟨rfl, hp⟩
  idle := by
    rintro h _ sql r st _ ⟨rfl, same⟩ -
    exact same

end LineLogic

/-! ### The link of a table -/

namespace LineLogic

open LinkedTables.Action

variable {t : Nat} {P : Phase → Lines → Prop} (L : LineLogic t P) {h : Host}

/-- What an action that comes to a session that is held, or leaves the table without one, does to
the lines of a host. -/
theorem of_leads {x : Action Nat} {p : Phase}
    (hx : Leads (fun h g => Lined P p h g ∧ True) x x
      (fun s h g => (Lined P .settled h g ∧ True) ∧ (h.table t).session = some s)
      (fun h g => Lined P .loose h g ∧ True))
    (hp : Lined P p h h) :
    match h.act x with
    | (.ok s, h') => P .settled h'.lines ∧ (h'.table t).session = some s
    | (.error _, h') => P .loose h'.lines := by
  have ends := hx (h := h) (g := h) ⟨hp, trivial⟩
  generalize h.act x = p at ends ⊢
  obtain ⟨r, h'⟩ := p
  cases ends with
  | value q => exact ⟨q.2.1.1.2, q.2.2⟩
  | fault e => exact e.1.2

include L

/-- Connecting comes to the session that the table holds then, or none is held. -/
theorem connecting (hp : P .loose h.lines) :
    match h.act (Action.connect t) with
    | (.ok s, h') => P .settled h'.lines ∧ (h'.table t).session = some s
    | (.error _, h') => P .loose h'.lines :=
  of_leads (L.linkLogic fun _ _ => True).connect (show Lined P .loose h h from ⟨rfl, hp⟩)

/-- So does connecting anew. -/
theorem reconnecting (failed : Option Nat) (hp : P .settled h.lines) :
    match h.act (reconnect t failed) with
    | (.ok s, h') => P .settled h'.lines ∧ (h'.table t).session = some s
    | (.error _, h') => P .loose h'.lines :=
  of_leads ((L.linkLogic fun _ _ => True).reconnected failed)
    (show Lined P .settled h h from ⟨rfl, hp⟩)

end LineLogic

/-! ### Whole operations -/

/-- An operation that leaves the sessions to the tables and their pool. A table that is created
holds no session yet. -/
def Operation.UsesTables : Operation → Prop
  | createTable table => table.session = none
  | connect _ | acquire _ | release .. | prepare .. | executeStatement .. | putStatement ..
  | takeStatement .. | clearStatements _ | discard .. => False
  | _ => True

namespace Operation

instance : DecidablePred UsesTables := fun o => by
  cases o <;> unfold UsesTables <;> infer_instance

theorem Plain.usesTables {o : Operation} (plain : o.Plain) : o.UsesTables := by
  cases o with
  | createTable table => exact plain
  | connect | acquire | release | prepare | executeStatement | putStatement | takeStatement
  | clearStatements | discard => exact plain.elim
  | _ => trivial

/-- Besides the plain operations there are those that leave a statement with the caller, or take
one from it. -/
theorem UsesTables.cases {o : Operation} (uses : o.UsesTables) :
    o.Plain ∨ (∃ t client sql params, o = .execute t client sql params true) ∨
      (∃ t st sql, o = .handBack t st sql) ∨ ∃ st, o = .closeStatement st := by
  cases o with
  | execute t client sql params keep =>
    cases keep with
    | false => exact .inl rfl
    | true => exact .inr (.inl ⟨t, client, sql, params, rfl⟩)
  | handBack t st sql => exact .inr (.inr (.inl ⟨t, st, sql, rfl⟩))
  | closeStatement st => exact .inr (.inr (.inr ⟨st, rfl⟩))
  | _ => exact .inl uses

end Operation

namespace LineLogic

open LinkedTables.Action

variable {t : Nat} {P : Phase → Lines → Prop} (L : LineLogic t P)
include L

/-- An operation keeps what its steps keep of the lines, and what is known of cursors that it does
not read. -/
theorem perform_beside (others : Nat → Prop) {F : Roster Cursor → Prop}
    (starts : ∀ {cs} {cursor : Cursor}, F cs → cursor.phase = .fresh → F (cs.join cursor))
    (moves : ∀ {cs c} (f : Cursor → Cursor), others c → F cs → F (cs.revise c f))
    {o : Operation} (uses : o.UsesTables) (own : ∀ c, o.cursor? = some c → others c) {h : Host}
    (subject : ∀ t', o.subject h = some t' → t' = t) (hp : P .settled h.lines) (hF : F h.cursors) :
    P .settled (h.perform o).2.lines ∧ F (h.perform o).2.cursors := by
  have l := L.cursorLogic.beside others (F := fun cs _ => F cs) (fun _ _ => trivial) starts
    fun f _ => moves f
  have start : Lined P .settled h h ∧ F h.cursors := ⟨⟨rfl, hp⟩, hF⟩
  have settled {x : Action Reply}
      (hx : Ends (fun a b h g => a = b ∧ Lined P .settled h g ∧ F h.cursors)
        (fun h g => Lined P .settled h g ∧ F h.cursors)
        (h.act x).1 (h.act x).1 (h.act x).2 (h.act x).2) :
      P .settled (h.act x).2.lines ∧ F (h.act x).2.cursors := by
    generalize h.act x = p at hx ⊢
    obtain ⟨_, h'⟩ := p
    cases hx with
    | value q => exact ⟨q.2.1.2, q.2.2⟩
    | fault e => exact ⟨e.1.2, e.2⟩
  -- What a caller does with a statement moves no line, whatever the statement is.
  have unmoved {x : Action Unit} (hx : ∀ l cs, Smooth (Unmoved l cs) x) :
      P .settled (h.act (silently x)).2.lines ∧ F (h.act (silently x)).2.cursors := by
    have kept := Steady.unmoved (fun l cs => Leads.silently (hx l cs).steady) h
    rw [kept.1, kept.2]
    exact ⟨hp, hF⟩
  obtain plain | ⟨t', client, sql, params, rfl⟩ | ⟨t', st, sql, rfl⟩ | ⟨st, rfl⟩ := uses.cases
  · have performed := l.perform plain own ⟨start, subject⟩
    rw [Executor.perform_cached] at performed
    exact settled performed
  · obtain rfl : t' = t := subject t' rfl
    have performed : Alike (fun h g => Lined P .settled h g ∧ F h.cursors)
        (Executor.cached.perform (.execute t' client sql params true))
        (Executor.cached.perform (.execute t' client sql params true)) := by
      refine Coupled.bind (l.plain.executeKept client sql params) fun kept kept' => ?_
      rintro h g ⟨r, st, st', rfl, rfl, ⟨rfl, same⟩, hF⟩
      exact .value ⟨rfl, same, hF⟩
    rw [Executor.perform_cached] at performed
    exact settled (performed start)
  · exact unmoved fun _ _ => unmoved_handBack t' st sql
  · exact unmoved fun _ _ => unmoved_closeStatement st

theorem perform {o : Operation} (uses : o.UsesTables) {h : Host}
    (subject : ∀ t', o.subject h = some t' → t' = t) (hp : P .settled h.lines) :
    P .settled (h.perform o).2.lines :=
  (L.perform_beside (fun _ => True) (F := fun _ => True) (fun _ _ => trivial)
    (fun _ _ _ => trivial) uses (fun _ _ => trivial) subject hp trivial).1

/-- A table whose creation fails is left without a session. -/
theorem createTable {table : LinkedTable} (none : table.session = none) {h : Host} {fault : Fault}
    (ht : t = h.tables.next) (hp : P .settled h.lines)
    (failed : (h.perform (.createTable table)).1 = .error fault) :
    P .loose (h.perform (.createTable table)).2.lines := by
  have start : Lined P .settled h h ∧ t = h.tables.next := ⟨⟨rfl, hp⟩, ht⟩
  have ends := Leads.reply (L.cursorLogic.plain.createTable none) Reply.table start
  exact (ends.of_error failed).2

/-- A table that closes its link, by force or not, and one that is removed hold no session. -/
theorem closes {o : Operation}
    (closes : o = .closeLink t ∨ o = .giveUpSession t ∨ o = .removeTable t) {h : Host}
    (hp : P .settled h.lines) : P .loose (h.perform o).2.lines := by
  have l := L.cursorLogic.plain
  have loose {x : Action Reply}
      (hx : Leads (Lined P .settled) x x (fun _ => Lined P .loose) (Lined P .loose)) :
      P .loose (h.act x).2.lines := by
    have ends := hx (h := h) (g := h) ⟨rfl, hp⟩
    generalize h.act x = p at ends ⊢
    obtain ⟨_, h'⟩ := p
    cases ends with
    | value q => exact q.2.2
    | fault e => exact e.2
  obtain rfl | rfl | rfl := closes
  · exact loose (Coupled.silently l.closeLink)
  · exact loose (Coupled.silently l.giveUpSession)
  · exact loose (Leads.silently l.removeTable)

end LineLogic

end LinkedTables
