import LinkedTables.Proofs.ConcurrentReconnect
import LinkedTables.Proofs.Estates
import LinkedTables.Proofs.ForcedCreation
import LinkedTables.Proofs.SessionsStayOpen
import LinkedTables.Proofs.SharedSessions

/-!
# Connects that are turned away

While the breaker of a target is open, connecting to it is turned away before it is tried
(`Host.TurnsAway`): unless an open session is shared, a table that is created, that connects anew or
whose statement finds its session closed ends in a failure to connect, which it remembers
(`refused_createTable`, `refused_reconnect`, `refused_execute`).
-/

namespace LinkedTables

/-- Nothing but an open breaker stands in the way of connecting to a target. -/
structure Host.Latched (key : LinkKey) (h : Host) : Prop where
  address : ∃ url, Remote.Url.read key.url = .ok url
  opened : ∃ breaker, h.pool.breakers.value? key = some breaker ∧ breaker.state = .opened ∧
    0 < breaker.resetTimeout
  connectors : ∀ fault, some fault ∉ h.script.connectors

/-- Only an open breaker stands in the way of connecting to a target, and no open session is shared
under it. -/
structure Host.TurnsAway (key : LinkKey) (h : Host) : Prop extends h.Latched key where
  alone : Action.sharedSession? h key = none

/-- The link of the table `t` ended in a failure to connect, which the table remembers. -/
def Host.Refused {α : Type} (t : Nat) (r : Except Fault α) (h' : Host) : Prop :=
  ∃ failure, r = .error (.link failure) ∧ failure.kind = .connectFailure ∧
    (h'.table t).failure = some failure

/-- The tables are the same, and connecting to a target is turned away again. -/
structure Host.Stood (key : LinkKey) (h h' : Host) : Prop where
  tables : h'.tables = h.tables
  away : h'.TurnsAway key

/-- The breakers are the same, and of the outcomes to come only the last are left. -/
structure Guarded (h h' : Host) : Prop where
  breakers : h'.pool.breakers = h.pool.breakers
  script : h.script.Later h'.script

theorem guarded : Frame Guarded where
  refl _ := ⟨rfl, .refl _⟩
  trans a b := ⟨b.breakers.trans a.breakers, a.script.trans b.script⟩

theorem Host.Latched.guarded {key : LinkKey} {h h' : Host} (latched : h.Latched key)
    (same : Guarded h h') : h'.Latched key where
  address := latched.address
  opened := same.breakers ▸ latched.opened
  connectors fault there := latched.connectors fault (same.script.connectors.subset there)

theorem Firm.guarded {h h' : Host} (f : Firm h h') : Guarded h h' :=
  ⟨congrArg Pool.breakers f.pool, f.script⟩

theorem Host.TurnsAway.firm {key : LinkKey} {h h' : Host} (away : h.TurnsAway key)
    (f : Firm h h') : h'.TurnsAway key :=
  ⟨away.toLatched.guarded f.guarded, (f.sharedSession? key).trans away.alone⟩

namespace Lines

variable {l : Lines} {s s' : Nat}

theorem shares_released (force : Bool) : (l.released s force).shares = l.shares := by
  unfold released
  dsimp only
  split
  · rfl
  · exact (sameUsers_discarded ((l.withUsers s (-1)).unshared s) s).shares

/-- What is shared when a session has been given back was shared before. -/
theorem shared_of_released {key : LinkKey} {force : Bool}
    (value : (l.released s force).shared.value? key = some s') :
    l.shared.value? key = some s' := by
  unfold released at value
  dsimp only at value
  split at value
  · exact value
  · rw [shared_discarded, unshared] at value
    dsimp only at value
    split at value
    · by_cases same : ((l.withUsers s (-1)).line s).key = key
      · rw [same, Ledger.value?_drop_self] at value
        cases value
      · rwa [Ledger.value?_drop_of_ne _ same] at value
    · exact value

theorem line_released_of_ne (ne : s ≠ s') (force : Bool) :
    (l.released s force).line s' = l.line s' := by
  have users : (l.withUsers s (-1)).sessions.at? s' = l.sessions.at? s' :=
    Roster.at?_revise_of_ne _ ne
  unfold released
  dsimp only
  split
  · rw [line, users, line]
  · have other := at?_discarded ((l.withUsers s (-1)).unshared s) s s'
    rw [if_neg ne] at other
    rw [line, other, line]
    exact congrArg (·.getD default) users

end Lines

namespace Action

open Keeps

theorem guarded_release (s : Nat) (force : Bool) : Keeps Guarded (release s force) := by
  have users (f : Session → Session) : Keeps Guarded (reviseSession s f) :=
    of_modify fun _ => ⟨rfl, .refl _⟩
  have firmly {α : Type} {x : Action α} (hx : Keeps Firm x) : Keeps Guarded x :=
    hx.mono fun _ _ f => f.guarded
  refine bind guarded (users _) fun _ => get_bind fun h => of_ite (of_pure guarded ()) ?_
  refine bind guarded (of_modify fun h => ?_) fun _ => ?_
  · dsimp only
    split
    · exact ⟨rfl, .refl _⟩
    · exact guarded.refl h
  refine get_bind fun h => of_ite (of_pure guarded ()) (bind guarded (users _) fun _ => ?_)
  refine bind guarded ?_ fun _ => of_ite ?_ (firmly (firm_note _))
  · refine get_bind fun _ => bind guarded (users _) fun _ => ?_
    exact of_forM guarded _ fun _ => firmly (firm_closeStatement _)
  · refine bind guarded (firmly (firm_note _)) fun _ => ?_
    refine bind guarded (firmly (firm_call Remote.Script.later_invalidate)) fun r => ?_
    exact bind guarded (firmly (firm_note _)) fun _ => of_ofExcept guarded r

theorem guarded_giveUpSession (t : Nat) : Keeps Guarded (giveUpSession t) := by
  refine get_bind fun h => bind guarded (of_modify fun _ => ⟨rfl, .refl _⟩) fun _ => ?_
  split
  · exact guarded_release _ true
  · exact of_pure guarded ()

variable {key : LinkKey} {h : Host} {t : Nat}

/-- Behind a session that was given up, no session of a target is shared but another one. -/
theorem alone_giveUpSession (own : ∀ s, sharedSession? h key = some s →
    (h.table t).session = some s) (known : ∀ s, (h.table t).session = some s →
    s < h.sessions.next) : sharedSession? (h.act (giveUpSession t)).2 key = none := by
  have lines := h.lines_giveUpSession t
  generalize (h.act (giveUpSession t)).2 = g at lines ⊢
  cases shared : sharedSession? g key with
  | none => rfl
  | some s' =>
    obtain ⟨shares, value, isOpen⟩ := LineLogic.sharedSession?_some shared
    -- What is shared behind was shared and open before.
    have before (shares : h.lines.shares = true) (value : h.lines.shared.value? key = some s')
        (isOpen : (h.lines.line s').closed = false) : (h.table t).session = some s' := by
      refine own s' ?_
      rw [h.lines_line] at isOpen
      have shares : h.pool.shares = true := shares
      have value : h.pool.shared.value? key = some s' := value
      have isOpen : (h.session s').closed = false := isOpen
      rw [sharedSession?, if_pos shares, value, Option.filter_some, isOpen]
      rfl
    rw [lines, h.lines_heldBy] at shares value isOpen
    cases held : (h.table t).session with
    | none =>
      rw [held] at shares value isOpen
      rw [before shares value isOpen] at held
      cases held
    | some s =>
      rw [held] at shares value isOpen
      dsimp only at shares value isOpen
      by_cases same : s = s'
      · subst same
        have found : (h.lines.withHeld t none).sessions.at? s = some (h.session s).line :=
          Host.lines_at? (known s held)
        have closed := (Lines.released_last true found (.inl rfl)).2
        rw [closed] at isOpen
        cases isOpen
      · rw [Lines.line_released_of_ne same] at isOpen
        rw [Lines.shares_released] at shares
        have value : (h.lines.withHeld t none).shared.value? key = some s' :=
          Lines.shared_of_released value
        have mine := before shares value isOpen
        exact absurd (Option.some.inj (held.symm.trans mine)) same

/-! ### Connecting in front of an open breaker -/

theorem exists_ofKey {url : Remote.Url} (read : Remote.Url.read key.url = .ok url) :
    ∃ url, Remote.Url.ofKey key = .ok url := by
  cases found : Remote.Url.ofKey key with
  | ok url => exact ⟨url, rfl⟩
  | error fault =>
    rw [read_of_ofKey found] at read
    cases read

/-- An open breaker turns a call away. -/
theorem allow_of_opened {breaker : Remote.Breaker} (opened : breaker.state = .opened)
    (lasting : 0 < breaker.resetTimeout) : ∃ text, breaker.allow = .error (.breaker text) := by
  have waiting : ¬ breaker.resetTimeout ≤ 0 := by omega
  refine ⟨"Timeout not elapsed yet, circuit breaker still open", ?_⟩
  simp [Remote.Breaker.allow, Remote.Breaker.isOver, opened, waiting]

section TurnedAway

variable (away : h.TurnsAway key)
include away

theorem stood_connectorFor :
    Reaches (connectorFor key) h fun r h' => (∃ url, r = .ok url) ∧ h.Stood key h' := by
  obtain ⟨url, read⟩ := away.address
  obtain ⟨url', found⟩ := exists_ofKey read
  refine Reaches.get_bind ?_
  dsimp only
  split
  · exact ⟨⟨_, rfl⟩, rfl, away⟩
  · refine Reaches.bind_ofExcept (fun url made => Reaches.modify_bind (Reaches.fromScript_bind ?_))
      fun fault failed => by rw [found] at failed; cases failed
    have later := Remote.Script.later_connector h.script
    refine Reaches.bind_ofExcept (fun _ _ => Reaches.modify_bind ⟨⟨url, rfl⟩, rfl, ?_⟩)
      fun fault failed => absurd (Remote.Script.connector_mem (.refl _) failed)
        (away.connectors fault)
    exact ⟨away.toLatched.guarded ⟨rfl, later⟩, away.alone⟩

/-- A session is not to be had. -/
theorem stood_acquire :
    Reaches (acquire key) h fun r h' => (∃ text, r = .error (.breaker text)) ∧ h.Stood key h' := by
  refine Reaches.get_bind ?_
  rw [away.alone]
  refine Reaches.bind (stood_connectorFor away) (fun url h' came => ?_) fun fault h' came => ?_
  · obtain ⟨-, stood⟩ := came
    obtain ⟨breaker, kept, opened, lasting⟩ := stood.away.opened
    obtain ⟨text, refuses⟩ := allow_of_opened opened lasting
    have found : h'.act (breakerFor key) = (.ok breaker, h') := by
      rw [breakerFor, Host.act_get_bind]
      dsimp only
      rw [kept]
      rfl
    have turned : h'.act (connectGuarded key) = (.error (.breaker text), h') := by
      rw [connectGuarded, Host.act_bind_ok h' found, refuses]
      rfl
    rw [Reaches, Host.act_bind_error h' turned]
    exact ⟨⟨text, rfl⟩, stood⟩
  · obtain ⟨⟨url, ok⟩, -⟩ := came
    cases ok

theorem stood_attemptConnect (target : (h.table t).definition.key = key) :
    Reaches (attemptConnect t) h fun r h' =>
      (∃ failure, r = .ok (.error failure) ∧ failure.kind = .connectFailure) ∧
        h.Stood key h' := by
  refine Reaches.get_bind ?_
  dsimp only
  rw [target]
  refine Reaches.outcome_bind (stood_acquire away) fun r h' came => ?_
  obtain ⟨⟨text, rfl⟩, stood⟩ := came
  exact ⟨⟨_, rfl, rfl⟩, stood⟩

theorem refused_connectFrom (known : t < h.tables.next)
    (target : (h.table t).definition.key = key) (attempt left : Nat) :
    Reaches (connectFrom t attempt left) h (Host.Refused t) := by
  have gaveUp {h' : Host} (known : t < h'.tables.next) {failure : LinkFault}
      (kind : failure.kind = .connectFailure) : Reaches (giveUp t failure) h' (Host.Refused t) := by
    have table := Host.table_of_revise_self known fun table =>
      { table with failure := some failure }
    exact ⟨failure, rfl, kind, congrArg LinkedTable.failure table⟩
  -- Every attempt is turned away by the breaker, so it does not matter how many are left.
  induction left generalizing h attempt with
  | zero =>
    refine Reaches.bind (stood_attemptConnect away target) (fun r h' came => ?_)
      fun fault h' came => ?_
    · obtain ⟨⟨failure, e, kind⟩, stood⟩ := came
      cases e
      exact gaveUp (stood.tables ▸ known) kind
    · obtain ⟨⟨failure, e, -⟩, -⟩ := came
      cases e
  | succ left ih =>
    refine Reaches.bind (stood_attemptConnect away target) (fun r h' came => ?_)
      fun fault h' came => ?_
    · obtain ⟨⟨failure, e, kind⟩, stood⟩ := came
      cases e
      refine Reaches.of_ite (fun final => ?_) fun _ => Reaches.get_bind ?_
      · rw [kind] at final
        cases final
      · have reported (notice : Notice) : Keeps (fun h h' => Calm h h' ∧ Firm h h')
            (report notice) := fun h => ⟨calm_report notice h, firm_report notice h⟩
        refine Reaches.past (report_succeeds _) (reported _) fun _ h₁ kept => ?_
        have tables : h₁.tables = h.tables := kept.1.tables.trans stood.tables
        have table : h₁.table t = h.table t := by rw [Host.table, tables]; rfl
        exact ih (stood.away.firm kept.2) (tables ▸ known) (table ▸ target) _
    · obtain ⟨⟨failure, e, -⟩, -⟩ := came
      cases e

/-- A table that has to connect is refused. -/
theorem refused_connect (known : t < h.tables.next)
    (target : (h.table t).definition.key = key) :
    Reaches (connect t) h (Host.Refused t) := by
  let g : Host := { h with tables := h.tables.revise t fun table => { table with failure := none } }
  have table : g.table t = { h.table t with failure := none } :=
    Host.table_of_revise_self known fun table => { table with failure := none }
  have away' : g.TurnsAway key := ⟨⟨away.address, away.opened, away.connectors⟩, away.alone⟩
  have known' : t < g.tables.next := (Roster.next_revise h.tables t _).symm ▸ known
  exact Reaches.modify_bind
    (refused_connectFrom away' known' (by rw [table]; exact target) 1 maxRetry)

end TurnedAway

/-- A session is given up if it is closed already, or if its connection can be invalidated. -/
theorem act_giveUpSession (lets : (∀ s, (h.table t).session = some s → (h.session s).closed = true)
    ∨ ∀ fault, some fault ∉ h.script.invalidations) :
    h.act (giveUpSession t) = (.ok (), (h.act (giveUpSession t)).2) := by
  refine Prod.ext ?_ rfl
  rw [giveUpSession, Host.act_get_bind]
  dsimp only
  cases held : (h.table t).session with
  | none => rfl
  | some s =>
    show ((h.withSession t none).act (release s true)).1 = .ok ()
    rcases lets with closed | fine
    · have closed : ((h.withSession t none).session s).closed = true := closed s held
      rw [act_release_of_closed closed]
    · have drawn := draws_release s true (h.withSession t none) (.refl h.script)
      rw [Reaches] at drawn
      generalize (h.withSession t none).act (release s true) = p at drawn ⊢
      obtain ⟨fault | _, g⟩ := p
      · exact absurd drawn.2 (fine fault)
      · rfl

/-- A table that connects anew is refused, unless its session has been replaced already or another
one is shared. -/
theorem refused_reconnect (latched : h.Latched key) (known : t < h.tables.next)
    (target : (h.table t).definition.key = key)
    (there : ∀ s, (h.table t).session = some s → s < h.sessions.next)
    (own : ∀ s, sharedSession? h key = some s → (h.table t).session = some s)
    (given : (h.act (giveUpSession t)).1 = .ok ()) {failed : Option Nat}
    (needed : replacement? h t failed = none) :
    Reaches (reconnect t failed) h (Host.Refused t) := by
  refine Reaches.get_bind ?_
  rw [needed]
  have defined := (defines t t).giveUpSession h
  have away : Host.TurnsAway key (h.act (giveUpSession t)).2 :=
    ⟨latched.guarded (guarded_giveUpSession t h), alone_giveUpSession own there⟩
  refine Reaches.bind_of_act (Prod.ext given rfl) ?_
  exact refused_connect away (defined.known.symm ▸ known) (by rw [defined.definition]; exact target)

/-- A new table is refused, unless it is created by force; it remembers the failure then. -/
theorem refused_connectNew (away : h.TurnsAway key) (known : t < h.tables.next)
    (target : (h.table t).definition.key = key) :
    Reaches (connectNew t) h fun r h' => ∃ failure, failure.kind = .connectFailure ∧
      (h'.table t).failure = some failure ∧
      r = if (h.table t).definition.force then .ok () else .error (.link failure) := by
  have defined := (defines t t).connect h
  refine Reaches.outcome_bind (P := fun r g => Host.Refused t r g ∧ Defines t h g)
    ((refused_connect away known target).with_host defined) fun r g came => ?_
  obtain ⟨⟨failure, rfl, kind, remembered⟩, defined⟩ := came
  refine Reaches.get_bind ?_
  rw [← defined.definition]
  refine Reaches.of_ite (fun force => ?_) fun other => ?_
  · refine Reaches.past (report_succeeds _) (calm_report _) fun _ g' kept => ?_
    have known' : t < g'.tables.next := kept.tables.symm ▸ defined.known ▸ known
    have table := Host.table_of_revise_self known' withoutColumns
    have same : g'.table t = g.table t := by rw [Host.table, kept.tables]; rfl
    refine ⟨failure, kind, ?_, (if_pos force).symm⟩
    rw [same] at table
    exact (congrArg LinkedTable.failure table).trans remembered
  · exact ⟨failure, kind, remembered, (if_neg other).symm⟩

/-- A table is refused when its first attempt at a statement fails on its session, unless another
session is shared. -/
theorem refused_execute (latched : h.Latched key) (known : t < h.tables.next)
    (target : (h.table t).definition.key = key) {s : Nat}
    (ready : readySession (h.table t) = .ok s) (there : s < h.sessions.next)
    (own : ∀ s', sharedSession? h key = some s' → s' = s)
    (lets : (h.session s).closed = true ∨ ∀ fault, some fault ∉ h.script.invalidations)
    {sql : String} {params : List Value} {client : Option Nat} {fault : Fault} {g : Host}
    (failed : h.act (attemptExecute t s sql params client) = (.ok (.error fault), g)) :
    Reaches (execute t sql params client) h (Host.Refused t) := by
  obtain ⟨-, held⟩ := readySession_eq_ok.mp ready
  refine Reaches.bind_of_act (act_requireSession ready) (Reaches.bind_of_act failed ?_)
  have tables := Keeps.of_act failed (tables_attemptExecute t s sql params client)
  have firm' := Keeps.of_act failed (firm_attemptExecute t s sql params client)
  refine Reaches.get_bind (Reaches.past (report_succeeds _) (ρ := fun h h' => Calm h h' ∧ Firm h h')
    (fun h => ⟨calm_report _ h, firm_report _ h⟩) fun _ g' ⟨calm₁, firm₁⟩ => ?_)
  -- The attempt leaves the table with its session, so that there is no replacement to be found.
  have kept := firm.trans firm' firm₁
  have tables : g'.tables = h.tables := calm₁.tables.trans tables
  have table : g'.table t = h.table t := by rw [Host.table, tables]; rfl
  have still : replacement? g' t (some s) = none := by simp [replacement?, table, held]
  have given : (g'.act (giveUpSession t)).1 = .ok () := by
    rw [act_giveUpSession]
    refine lets.imp (fun closed s' held' => ?_) fun fine fault there =>
      fine fault (kept.script.invalidations.subset there)
    rw [table, held] at held'
    cases held'
    exact (kept.closed s).trans closed
  -- The session is given up without a fault, and the breaker turns the connect away.
  have refused := refused_reconnect (latched.guarded kept.guarded) (tables ▸ known)
    (table ▸ target)
    (fun s' held' => by
      rw [table, held] at held'
      cases held'
      exact kept.sessions ▸ there)
    (fun s' shared => by
      rw [kept.sharedSession?] at shared
      rw [table, held, own s' shared]) given still
  refine Reaches.bind refused (fun s' g'' came => ?_) fun fault g'' came => ?_
  · obtain ⟨_, ok, -⟩ := came
    cases ok
  · obtain ⟨failure, e, rest⟩ := came
    cases e
    exact ⟨failure, rfl, rest⟩

end Action

namespace Host

open LinkedTables.Action

variable {key : LinkKey} {h : Host}

/-- A table of the target cannot be created, or remembers why it is not connected if it is created
by force. -/
theorem refused_createTable (away : h.TurnsAway key) {table : LinkedTable}
    (target : table.definition.key = key) :
    let p := h.perform (.createTable table)
    ∃ failure, failure.kind = .connectFailure ∧
      (p.2.table h.tables.next).failure = some failure ∧
      p.1 = if table.definition.force then .ok (.table h.tables.next)
        else .error (.link failure) := by
  intro p
  have away' : (h.joining table).TurnsAway key :=
    ⟨⟨away.address, away.opened, away.connectors⟩, away.alone⟩
  have refused := refused_connectNew away' (h.lt_next_joining table)
    ((h.table_joining table).symm ▸ target)
  have made : p = _ := perform_createTable h table
  rw [Reaches, h.table_joining] at refused
  obtain ⟨failure, kind, remembered, e⟩ := refused
  refine ⟨failure, kind, ?_, ?_⟩
  · rw [made]
    exact remembered
  · rw [made]
    dsimp only
    rw [e]
    split <;> rfl

end Host

end LinkedTables
