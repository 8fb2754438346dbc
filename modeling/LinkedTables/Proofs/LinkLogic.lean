import LinkedTables.Proofs.Executor
import LinkedTables.Proofs.SteadyActions

/-!
# The logic of a link

Work on a table goes through phases: between operations everything is `settled`; while the table
connects it is `loose`, with no session, until a session is `inHand`; while it executes a statement
it is `busy` with it, until that is `spent`. A `LinkLogic` gives a relation of hosts for each phase,
with a rule for every step that opens, closes, takes or gives something. From these rules the lemmas
here derive what connecting, reconnecting and closing come to: `connect`, `reconnect`,
`createTable`, `closeLink`.
-/

namespace LinkedTables

/-- How far the work on a table has come. -/
inductive Phase where
  /-- No work is going on. -/
  | settled
  /-- The table holds no session. -/
  | loose
  /-- The table holds no session, and no open session of the target is shared. -/
  | vacant (key : LinkKey)
  /-- A connection to the target is open for a session to come. -/
  | line (key : LinkKey) (n : Nat)
  /-- A session has been acquired for the table, which holds none. -/
  | inHand (s : Nat)
  /-- A statement, known by its number on either side, has been executed under a text and has a
  result. -/
  | busy (sql : String) (r st st' : Nat)
  /-- A statement that was executed is about to be handed back or closed. -/
  | spent (sql : String) (r st st' : Nat)

namespace Host

/-- The host with another session for a table. -/
def withSession (h : Host) (t : Nat) (session : Option Nat) : Host :=
  { h with tables := h.tables.revise t fun table => { table with session } }

/-- The host with one more table. -/
def withTable (h : Host) (table : LinkedTable) : Host := { h with tables := h.tables.join table }

theorem next_withTable (h : Host) (table : LinkedTable) :
    (h.withTable table).tables.next = h.tables.next + 1 := Roster.next_join ..

theorem table_withTable (h : Host) (table : LinkedTable) (t : Nat) :
    (h.withTable table).table t = if t = h.tables.next then table else h.table t := by
  rw [Host.table, Host.withTable, Roster.at?_join]
  split <;> rfl

theorem table_withTable_of_lt {h : Host} {t : Nat} (known : t < h.tables.next)
    (table : LinkedTable) : (h.withTable table).table t = h.table t :=
  (h.table_withTable table t).trans (if_neg (Nat.ne_of_lt known))

/-- The host with one more table, in the name of which its link is worked on. -/
def joining (h : Host) (table : LinkedTable) : Host :=
  { h.withTable table with link := some table.name }

theorem lt_next_joining (h : Host) (table : LinkedTable) :
    h.tables.next < (h.joining table).tables.next :=
  Nat.lt_of_lt_of_eq (Nat.lt_succ_self _) (h.next_withTable table).symm

theorem table_joining (h : Host) (table : LinkedTable) :
    (h.joining table).table h.tables.next = table :=
  (h.table_withTable table _).trans (if_pos rfl)

/-- The host with one more user of a session. -/
def withUser (h : Host) (s : Nat) : Host :=
  { h with
    sessions := h.sessions.revise s fun session =>
      { session with useCount := session.useCount + 1 } }

/-- The host with one more session, which is shared if the pool shares. -/
def withOpen (h : Host) (session : Session) : Host :=
  { h with
    sessions := h.sessions.join session
    pool :=
      if h.pool.shares then
        { h.pool with shared := h.pool.shared.put session.key h.sessions.next }
      else h.pool }

end Host

/-- A session as it is opened. -/
structure Session.IsNew (session : Session) (key : LinkKey) (n : Nat) : Prop where
  key : session.key = key
  connection : session.connection = n
  useCount : session.useCount = 1
  closed : session.closed = false
  cache : session.cache = []

/-- Lets the session of a table go, by force or not. -/
def Action.letGoSession (t : Nat) (force : Bool) : Action Unit := do
  let held := ((← get).table t).session
  reviseTable t fun table => { table with session := none }
  match held with
  | some s => release s force
  | none => pure ()

open LinkedTables.Action in
/-- Relations for the phases of the work on a table, with a rule for each step. -/
structure LinkLogic (e e' : Executor) (t : Nat) (R : Phase → Host → Host → Prop) : Prop where
  quiet : ∀ p, Quiet (R p)
  settle : ∀ {h g}, R .loose h g → R .settled h g
  join : ∀ {h g table}, R .settled h g → t = h.tables.next → table.session = none →
    R .loose (h.withTable table) (g.withTable table)
  loosen : ∀ {h g}, R .settled h g → (h.table t).session = none →
    R .loose (h.withSession t none) (g.withSession t none)
  letGo : ∀ {h g s}, R .settled h g → (h.table t).session = some s →
    R (.inHand s) (h.withSession t none) (g.withSession t none)
  hold : ∀ {h g s}, R (.inHand s) h g → t < h.tables.next →
    R .settled (h.withSession t (some s)) (g.withSession t (some s))
  share : ∀ {h g key s}, R .loose h g → sharedSession? h key = some s →
    R (.inHand s) (h.withUser s) (g.withUser s)
  vacate : ∀ {h g key}, R .loose h g → sharedSession? h key = none → R (.vacant key) h g
  occupy : ∀ {h g key}, R (.vacant key) h g → R .loose h g
  dial : ∀ key, Coupled (R (.vacant key)) connectOnce connectOnce
    (Ends (fun n n' h g => n = n' ∧ R (.line key n) h g) (R .loose)) (R .loose)
  openLine : ∀ {h g key n session}, R (.line key n) h g → session.IsNew key n →
    R (.inHand h.sessions.next) (h.withOpen session) (g.withOpen session)
  release : ∀ s force, Coupled (R (.inHand s)) (Action.release s force) (Action.release s force)
    (fun _ _ => R .loose) (R .loose)
  closePool : Coupled (R .settled) Action.closePool Action.closePool (fun _ _ => R .settled)
    (R .settled)
  attempt : ∀ s sql params client, Coupled (R .settled)
    (e.attempt t s sql params client) (e'.attempt t s sql params client)
    (Ends (fun st st' h g => ∃ r, R (.busy sql r st st') h g) (R .settled)) (R .settled)
  spend : ∀ {h g sql r st st'}, R (.busy sql r st st') h g → R (.spent sql r st st') h g
  handBack : ∀ sql r st st', Coupled (R (.spent sql r st st'))
    (e.handBack t st sql) (e'.handBack t st' sql) (fun _ _ => R .settled) (R .settled)
  close : ∀ sql r st st', Coupled (R (.spent sql r st st'))
    (closeStatement st) (closeStatement st') (fun _ _ => R .settled) (R .settled)
  result : ∀ {h g sql r st st'}, R (.busy sql r st st') h g →
    (h.statement st).result = (g.statement st').result

/-- A call that succeeded keeps its value. -/
theorem Remote.Breaker.settle_ok {α : Type} (breaker : Remote.Breaker) (counts : Fault → Bool)
    (a : α) : ∃ breaker' notices,
      breaker.settle counts (.ok a) = (.ok a, breaker', notices) :=
  ⟨_, _, rfl⟩

/-- A call that failed ends in a fault. -/
theorem Remote.Breaker.settle_error {α : Type} (breaker : Remote.Breaker) (counts : Fault → Bool)
    (fault : Fault) : ∃ fault' breaker' notices,
      breaker.settle counts (.error fault : Except Fault α)
        = (.error fault', breaker', notices) := by
  unfold settle
  dsimp only
  split
  · exact ⟨_, _, _, rfl⟩
  · exact ⟨_, _, _, rfl⟩

namespace LinkLogic

open LinkedTables.Action

variable {e e' : Executor} {t : Nat} {R : Phase → Host → Host → Prop} (L : LinkLogic e e' t R)
include L

/-! ### Acquiring a session -/

theorem connectGuarded (key : LinkKey) :
    Leads (R (.vacant key)) (connectGuarded key) (connectGuarded key)
      (fun n => R (.line key n)) (R .loose) := by
  have hv := L.quiet (.vacant key)
  have hl := L.quiet .loose
  refine Steady.bind_coupled (steady_breakerFor hv key) (fun _ _ => L.occupy) fun breaker => ?_
  refine Steady.bind_coupled (Steady.of_ofExcept _) (fun _ _ => L.occupy)
    fun (breaker, notices) => ?_
  refine Smooth.bind_coupled (smooth_keepBreaker hv key breaker) fun _ => ?_
  refine Smooth.bind_coupled (smooth_reportAll hv notices) fun _ => ?_
  refine Coupled.bind (L.dial key) fun r r' => Coupled.of_ends ?_ ?_
  · rintro n n' rfl rfl
    refine Coupled.of_and fun hn => ?_
    subst hn
    have hq := L.quiet (.line key n)
    obtain ⟨breaker, notices, e⟩ := breaker.settle_ok (fun _ => true) n
    rw [e]
    -- Once the connection is open nothing can fail any more.
    refine Smooth.bind_coupled (smooth_keepBreaker hq key breaker) fun _ => ?_
    refine Smooth.bind_coupled (smooth_reportAll hq notices) fun _ => ?_
    exact Leads.of_pure n fun _ _ r => r
  · rintro fault rfl rfl
    obtain ⟨fault', breaker, notices, e⟩ := breaker.settle_error (α := Nat) (fun _ => true) fault
    rw [e]
    refine Smooth.bind_coupled (smooth_keepBreaker hl key breaker) fun _ => ?_
    refine Smooth.bind_coupled (smooth_reportAll hl notices) fun _ => ?_
    exact Coupled.of_throw fun _ _ r => r

theorem openSession (key : LinkKey) :
    Leads (R (.vacant key)) (openSession key) (openSession key)
      (fun s => R (.inHand s)) (R .loose) := by
  have hv := L.quiet (.vacant key)
  refine Steady.bind_coupled (steady_connectorFor hv key) (fun _ _ => L.occupy) fun url => ?_
  refine Leads.bind (L.connectGuarded key) fun n => ?_
  have hn := L.quiet (.line key n)
  refine Smooth.bind_coupled (smooth_note hn rfl rfl rfl) fun _ => ?_
  refine Coupled.get_bind fun h g r => ?_
  have e := next_session_agree (hn.agree r)
  rw [← e]
  refine Coupled.modify_modify_bind (T := R (.inHand h.sessions.next)) ?_ ?_
  · rintro _ _ ⟨rfl, rfl, r⟩
    have new : Session.IsNew ⟨key, n, url.dialect, Dialect.Vendor.ofUrl key.url,
      Dialect.Flags.none, 1, false, []⟩ key n := ⟨rfl, rfl, rfl, rfl, rfl⟩
    have opened := L.openLine r new
    simp only [Host.withOpen, ← e] at opened
    exact opened
  · refine Smooth.bind_coupled (smooth_report (L.quiet _) _) fun _ => ?_
    exact Leads.of_pure _ fun _ _ r => r

omit L in
theorem sharedSession?_agree {h g : Host} (agree : h.outline = g.outline) (key : LinkKey) :
    sharedSession? h key = sharedSession? g key := by
  simp only [sharedSession?, pool_agree agree, session_closed_agree agree]

theorem acquire (key : LinkKey) :
    Leads (R .loose) (acquire key) (acquire key) (fun s => R (.inHand s)) (R .loose) := by
  refine Coupled.get_bind fun h g r => ?_
  rw [← sharedSession?_agree ((L.quiet _).agree r) key]
  cases found : sharedSession? h key with
  | some s =>
    refine Coupled.modify_bind (T := R (.inHand s)) ?_ (Leads.of_pure s fun _ _ r => r)
    rintro _ _ ⟨rfl, rfl, r⟩
    exact L.share r found
  | none =>
    refine (L.openSession key).before ?_
    rintro _ _ ⟨rfl, rfl, r⟩
    exact L.vacate r found

/-! ### Connecting -/

/-- A table that has a catalog left exists. -/
theorem nextCatalog (p : Phase) :
    Leads (R p) (nextCatalog t) (nextCatalog t) (fun _ h g => R p h g ∧ t < h.tables.next)
      (R p) := by
  have hp := L.quiet p
  refine Coupled.get_bind fun h g r => ?_
  rw [← table_agree (hp.agree r)]
  have known : (h.table t).catalogs ≠ [] → t < h.tables.next := by
    intro hc
    rw [Host.table] at hc
    cases ht : h.tables.at? t with
    | none => exact absurd (by rw [ht]; rfl) hc
    | some table => exact (List.getElem?_eq_some_iff.mp ht).1
  split
  · refine Coupled.of_throw ?_
    rintro _ _ ⟨rfl, rfl, r⟩
    exact r
  next catalog hc =>
    refine Leads.of_pure catalog ?_
    rintro _ _ ⟨rfl, rfl, r⟩
    exact ⟨r, known (by simp [hc])⟩
  next catalog rest _ hc =>
    have hk := hp.and_known t
    refine Coupled.before (R := fun h g => R p h g ∧ t < h.tables.next) ?_ ?_
    · exact Smooth.bind_coupled (smooth_reviseTable hk t fun _ => rfl) fun _ =>
        Leads.of_pure catalog fun _ _ r => r
    · rintro _ _ ⟨rfl, rfl, r⟩
      exact ⟨r, known (by simp [hc])⟩

/-- A table that has been through a handshake exists. -/
theorem handshake (s : Nat) (p : Phase) :
    Leads (R p) (handshake t s) (handshake t s) (fun _ h g => R p h g ∧ t < h.tables.next)
      (R p) := by
  have hp := L.quiet p
  have hk := hp.and_known t
  refine Coupled.get_bind' fun h g r => ?_
  rw [table_agree (hp.agree r)]
  refine Leads.bind (L.nextCatalog p) fun catalog => ?_
  refine Steady.bind_coupled (steady_readShape hk ..) (fun _ _ r => r.1) fun shape => ?_
  refine Smooth.bind_coupled (smooth_reviseTable hk t fun _ => rfl) fun _ => ?_
  refine Coupled.get_bind' fun h g r => ?_
  rw [table_agree (hk.agree r)]
  dsimp only
  split
  · exact Leads.behind (smooth_reviseTable hk t fun _ => rfl) (fun _ _ _ r => r)
      fun _ _ e => e.elim
  split
  · exact Leads.behind (smooth_report hk _) (fun _ _ _ r => r) fun _ _ e => e.elim
  · exact Leads.of_pure () fun _ _ r => r

/-- An attempt comes to a session in hand of a table that exists, or to a failure. -/
theorem attemptConnect :
    Leads (R .loose) (attemptConnect t) (attemptConnect t)
      (fun (r : Except LinkFault Nat) h g => match r with
        | .ok s => R (.inHand s) h g ∧ t < h.tables.next
        | .error _ => R .loose h g)
      (R .loose) := by
  have hl := L.quiet .loose
  refine Coupled.get_bind' fun h g r => ?_
  rw [table_agree (hl.agree r)]
  refine Leads.outcome_bind (L.acquire _) (fun s => ?_) fun fault => ?_
  · refine Leads.outcome_bind (L.handshake s (.inHand s)) (fun _ => ?_) fun fault => ?_
    · exact Leads.of_pure (Except.ok s) fun _ _ r => r
    · refine Coupled.bind (L.release s true) fun _ _ => ?_
      split
      · exact Leads.of_pure _ fun _ _ r => r
      · exact Leads.of_pure _ fun _ _ r => r
  · dsimp only
    split
    · exact Leads.of_pure _ fun _ _ r => r
    · exact Coupled.of_throw fun _ _ r => r

omit L in
theorem session_withSession {h : Host} (known : t < h.tables.next) (session : Option Nat) :
    ((h.withSession t session).table t).session = session := by
  have found : h.tables.at? t = some h.tables[t] := List.getElem?_eq_getElem known
  simp only [Host.table, Host.withSession, Roster.at?_revise_self, found, Option.map_some,
    Option.getD_some]

/-- A connect that succeeds comes to the session that the table holds. -/
theorem connectFrom (attempt left : Nat) :
    Leads (R .loose) (connectFrom t attempt left) (connectFrom t attempt left)
      (fun s h g => R .settled h g ∧ (h.table t).session = some s) (R .loose) := by
  have hold (s : Nat) : Leads (fun h g => R (.inHand s) h g ∧ t < h.tables.next)
      (Action.hold t s) (Action.hold t s)
      (fun s h g => R .settled h g ∧ (h.table t).session = some s) (R .loose) :=
    Coupled.modify_bind (T := fun h g => R .settled h g ∧ (h.table t).session = some s)
      (fun _ _ r => ⟨L.hold r.1 r.2, session_withSession r.2 _⟩)
      (Leads.of_pure s fun _ _ r => r)
  have hl := L.quiet .loose
  induction left generalizing attempt with
  | zero =>
    refine Leads.bind L.attemptConnect fun r => ?_
    cases r with
    | ok s => exact hold s
    | error failure => exact coupled_giveUp hl t failure
  | succ left ih =>
    refine Leads.bind L.attemptConnect fun r => ?_
    cases r with
    | ok s => exact hold s
    | error failure =>
      dsimp only
      split
      · exact coupled_giveUp hl t failure
      · refine Coupled.get_bind' fun h g r => ?_
        rw [table_agree (hl.agree r)]
        exact Smooth.bind_coupled (smooth_report hl _) fun _ => ih (attempt + 1)

theorem connect : Leads (R .loose) (connect t) (connect t)
    (fun s h g => R .settled h g ∧ (h.table t).session = some s) (R .loose) :=
  Smooth.bind_coupled (smooth_reviseTable (L.quiet _) t fun _ => rfl) fun _ =>
    L.connectFrom 1 maxRetry

/-! ### Giving the session up and connecting anew -/

/-- The session of a table is let go, whether it holds one or not. -/
theorem letGoSession (force : Bool) :
    Coupled (R .settled) (letGoSession t force) (letGoSession t force) (fun _ _ => R .loose)
      (R .loose) := by
  refine Coupled.get_bind fun h g r => ?_
  rw [← table_agree ((L.quiet _).agree r)]
  cases held : (h.table t).session with
  | none =>
    refine Coupled.modify_bind (T := R .loose) ?_ (Coupled.of_pure fun _ _ r => r)
    rintro _ _ ⟨rfl, rfl, r⟩
    exact L.loosen r held
  | some s =>
    refine Coupled.modify_bind (T := R (.inHand s)) ?_ (L.release s force)
    rintro _ _ ⟨rfl, rfl, r⟩
    exact L.letGo r held

theorem giveUpSession :
    Coupled (R .settled) (giveUpSession t) (giveUpSession t) (fun _ _ => R .loose) (R .loose) :=
  L.letGoSession true

theorem closeLink :
    Coupled (R .settled) (closeLink t) (closeLink t) (fun _ _ => R .loose) (R .loose) :=
  L.letGoSession false

omit L in
theorem replacement?_agree {h g : Host} (agree : h.outline = g.outline) (failed : Option Nat) :
    replacement? h t failed = replacement? g t failed := by
  simp only [replacement?, table_agree agree, session_closed_agree agree]

omit L in
theorem session_of_replacement? {h : Host} {failed : Option Nat} {s : Nat}
    (found : replacement? h t failed = some s) : (h.table t).session = some s := by
  unfold replacement? at found
  split at found
  next old s' session =>
    split at found
    next =>
      cases found
      exact session
    next => cases found
  next => cases found

/-- A table that connects anew holds the session that this comes to, or none if it fails. -/
theorem reconnected (failed : Option Nat) :
    Leads (R .settled) (Action.reconnect t failed) (Action.reconnect t failed)
      (fun s h g => R .settled h g ∧ (h.table t).session = some s) (R .loose) := by
  refine Coupled.get_bind fun h g r => ?_
  rw [← replacement?_agree ((L.quiet _).agree r)]
  cases found : replacement? h t failed with
  | some s =>
    refine Leads.of_pure s ?_
    rintro _ _ ⟨rfl, rfl, r⟩
    exact ⟨r, session_of_replacement? found⟩
  | none =>
    refine Coupled.bind (L.giveUpSession.before ?_) fun _ _ => L.connect
    rintro _ _ ⟨rfl, rfl, r⟩
    exact r

theorem reconnect (failed : Option Nat) : Steady (R .settled) (reconnect t failed) :=
  Leads.behind (L.reconnected failed) (fun _ _ _ r => r.1) fun _ _ => L.settle

/-! ### Creating and removing tables -/

theorem connectNew :
    Leads (R .loose) (connectNew t) (connectNew t) (fun _ => R .settled) (R .loose) := by
  have hl := L.quiet .loose
  refine Leads.outcome_bind L.connect (fun s => Leads.of_pure () fun _ _ r => r.1) fun fault => ?_
  split
  · cases ‹_ = _›
  next failure _ =>
    refine Coupled.get_bind' fun h g r => ?_
    rw [table_agree (hl.agree r)]
    dsimp only
    split
    · refine Smooth.bind_coupled (smooth_report hl _) fun _ => ?_
      exact Leads.behind (smooth_reviseTable hl t fun _ => rfl) (fun _ _ _ r => L.settle r)
        fun _ _ e => e.elim
    · exact Coupled.of_throw fun _ _ r => r
  · exact Coupled.of_throw fun _ _ r => r

/-- A table whose creation fails holds no session. -/
theorem createTable {table : LinkedTable} (none : table.session = none) :
    Leads (fun h g => R .settled h g ∧ t = h.tables.next) (createTable table) (createTable table)
      (fun _ => R .settled) (R .loose) := by
  refine Coupled.get_bind fun h g ⟨r, ht⟩ => ?_
  rw [← tables_agree ((L.quiet _).agree r), ← ht]
  refine Coupled.modify_bind (T := R .loose) ?_ ?_
  · rintro _ _ ⟨rfl, rfl, -, -⟩
    exact L.join r ht none
  · refine Leads.bind (coupled_inLink (L.quiet _) _ (fun _ _ => (L.quiet .settled).and_left _)
      (L.quiet _) L.connectNew) fun _ => ?_
    exact Leads.of_pure t fun _ _ r => r

theorem removeTable :
    Leads (R .settled) (removeTable t) (removeTable t) (fun _ => R .loose) (R .loose) := by
  have hl := L.quiet .loose
  refine Coupled.bind L.closeLink fun _ _ => ?_
  refine Smooth.bind_steady (smooth_reviseTable hl t fun _ => rfl) fun _ => ?_
  refine Steady.get_bind (fun h g r => ?_) fun h => Smooth.steady (smooth_report hl _)
  rw [table_agree (hl.agree r)]

end LinkLogic

end LinkedTables
