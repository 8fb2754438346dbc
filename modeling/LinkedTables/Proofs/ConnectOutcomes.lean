import LinkedTables.Proofs.ShapeLasts

/-!
# What a connect comes to

A connect attempts to open a session three times. It foresees the faults of the remote side and of
breakers while a session is opened, and every fault of the handshake. What else is raised by making
a connector, by connecting or by an address that cannot be read goes through it, and so does what
is raised while the connection of a session is invalidated that has failed in its handshake
(`Remote.Script.Unforeseen`). A connect that foresees all faults comes to an open session, which the
table then holds, or to a failure, which the table then remembers (`Host.reaches_connect`).
-/

namespace LinkedTables

/-! ### Faults that are drawn from a script -/

namespace Action

/-- Where only outcomes of a script are to come this stays so, the values are as `V` says, and the
faults as `P` says. -/
def Draws {α : Type} (script : Remote.Script) (x : Action α) (V : α → Prop)
    (P : Fault → Prop) : Prop :=
  ∀ h : Host, script.Later h.script → Reaches x h fun r h' =>
    script.Later h'.script ∧ match r with
      | .ok a => V a
      | .error fault => P fault

/-- Fewer outcomes are to come. -/
def Onward (h h' : Host) : Prop := h.script.Later h'.script

theorem onward : SessionFrame Onward where
  refl h := .refl h.script
  trans a b := Remote.Script.Later.trans a b
  calm c := show Remote.Script.Later _ _ from c.script.symm ▸ .refl _
  script later := later
  session _ := .refl _
  opened _ := .refl _

namespace Draws

variable {α β : Type} {script : Remote.Script} {V : α → Prop} {W : β → Prop} {P : Fault → Prop}

theorem bind {x : Action α} {f : α → Action β} (hx : Draws script x V P)
    (hf : ∀ a, V a → Draws script (f a) W P) : Draws script (x >>= f) W P := by
  intro h later
  refine Reaches.bind (hx h later) (fun a h' came => ?_) fun fault h' came => came
  obtain ⟨later, value⟩ := came
  exact hf a value h' later

theorem get_bind {f : Host → Action β} (hf : ∀ h, script.Later h.script → Draws script (f h) W P) :
    Draws script (get >>= f) W P := fun h later => hf h later h later

theorem of_pure {a : α} (value : V a) : Draws script (pure a) V P := fun _ later => ⟨later, value⟩

theorem of_throw {fault : Fault} (raised : P fault) : Draws script (throw fault : Action α) V P :=
  fun _ later => ⟨later, raised⟩

theorem of_ofExcept {r : Except Fault α} (value : ∀ a, r = .ok a → V a)
    (raised : ∀ fault, r = .error fault → P fault) : Draws script (ofExcept r) V P := by
  cases r with
  | ok a => exact of_pure (value a rfl)
  | error fault => exact of_throw (raised fault rfl)

theorem of_succeeds {x : Action α} (kept : Keeps Onward x) (ok : Succeeds x) :
    Draws script x (fun _ => True) P := by
  intro h later
  obtain ⟨a, came⟩ := ok h
  rw [Reaches, came]
  exact ⟨later.trans (kept h), trivial⟩

/-- Work that is calm and cannot fail. -/
theorem of_calm {x : Action α} (kept : Keeps Calm x) (ok : Succeeds x) :
    Draws script x (fun _ => True) P := of_succeeds (onward.of_calm kept) ok

theorem of_note {event : Event} (silent : event.sent? = none) :
    Draws script (note event) (fun _ => True) P :=
  of_calm (calm_note silent) (.of_modify _)

theorem of_report (notice : Notice) : Draws script (report notice) (fun _ => True) P :=
  of_calm (calm_report notice) (report_succeeds notice)

theorem of_revisePool (f : Pool → Pool) : Draws script (revisePool f) (fun _ => True) P :=
  of_calm (calm_revisePool f) (.of_modify _)

/-- A change that leaves the script alone. -/
theorem of_modify {f : Host → Host} (kept : ∀ h, Onward h (f h)) :
    Draws script (modify f : Action Unit) (fun _ => True) P :=
  of_succeeds (Keeps.of_modify kept) (.of_modify f)

/-- The next outcome of a remote call is one of those that were to come at first. -/
theorem of_call {call : Remote.Script → α × Remote.Script}
    (later : ∀ s : Remote.Script, s.Later (call s).2)
    (value : ∀ s : Remote.Script, script.Later s → V (call s).1) :
    Draws script (fromScript call) V P :=
  fun h earlier => ⟨earlier.trans (later h.script), value h.script earlier⟩

theorem of_ite {c : Prop} [Decidable c] {x y : Action α} (hx : Draws script x V P)
    (hy : Draws script y V P) : Draws script (if c then x else y) V P := by
  split
  · exact hx
  · exact hy

theorem of_forM {ι : Type} {f : ι → Action Unit} (l : List ι)
    (hf : ∀ i, Draws script (f i) (fun _ => True) P) :
    Draws script (l.forM f) (fun _ => True) P := by
  induction l with
  | nil => exact of_pure trivial
  | cons i l ih => exact bind (hf i) fun _ _ => ih

end Draws

end Action

namespace Remote.Script

theorem connector_mem {script s : Script} (later : script.Later s) {fault : Fault}
    (e : s.connector.1 = .error fault) : some fault ∈ script.connectors := by
  refine later.connectors.subset ?_
  unfold connector at e
  split at e
  · cases e
  · cases e
  next here =>
    cases e
    exact here ▸ List.mem_cons_self

theorem connect_mem {script s : Script} (later : script.Later s) {fault : Fault}
    (e : s.connect.1 = .error fault) : some fault ∈ script.connects := by
  refine later.connects.subset ?_
  unfold connect at e
  split at e
  · cases e
  · cases e
  next here =>
    cases e
    exact here ▸ List.mem_cons_self

theorem invalidate_mem {script s : Script} (later : script.Later s) {fault : Fault}
    (e : s.invalidate.1 = .error fault) : some fault ∈ script.invalidations := by
  refine later.invalidations.subset ?_
  unfold invalidate at e
  split at e
  · cases e
  · cases e
  next here =>
    cases e
    exact here ▸ List.mem_cons_self

/-- A fault that goes through a connect for a target: one that opening a session may raise and that
comes neither from the remote side nor from a breaker, and any that invalidating a connection may
raise. -/
def Unforeseen (script : Script) (key : LinkKey) (fault : Fault) : Prop :=
  some fault ∈ script.invalidations ∨ Action.isConnectFault fault = false
    ∧ (some fault ∈ script.connectors ∨ some fault ∈ script.connects
      ∨ Url.read key.url = .error fault)

theorem Unforeseen.of_later {script script' : Script} (later : script.Later script')
    {key : LinkKey} {fault : Fault} (raised : script'.Unforeseen key fault) :
    script.Unforeseen key fault := by
  rcases raised with there | ⟨other, there | there | unreadable⟩
  · exact .inl (later.invalidations.subset there)
  · exact .inr ⟨other, .inl (later.connectors.subset there)⟩
  · exact .inr ⟨other, .inr (.inl (later.connects.subset there))⟩
  · exact .inr ⟨other, .inr (.inr unreadable)⟩

end Remote.Script

/-! ### Opening a session -/

namespace Action

open Draws

variable {script : Remote.Script}

/-- What opening a session for a target may raise. -/
def Opening (script : Remote.Script) (key : LinkKey) (fault : Fault) : Prop :=
  isConnectFault fault = true ∨ script.Unforeseen key fault

theorem Opening.intro {key : LinkKey} {fault : Fault}
    (there : some fault ∈ script.connectors ∨ some fault ∈ script.connects
      ∨ Remote.Url.read key.url = .error fault) : Opening script key fault := by
  cases foreseen : isConnectFault fault with
  | true => exact .inl foreseen
  | false => exact .inr (.inr ⟨foreseen, there⟩)

/-- An address with its driver and account cannot be read only where the address cannot. -/
theorem read_of_ofKey {key : LinkKey} {fault : Fault} (e : Remote.Url.ofKey key = .error fault) :
    Remote.Url.read key.url = .error fault := by
  rw [Remote.Url.ofKey] at e
  cases read : Remote.Url.read key.url with
  | error fault' =>
    rw [read] at e
    cases e
    rfl
  | ok url =>
    rw [read] at e
    cases e

theorem draws_connectorFor (key : LinkKey) :
    Draws script (connectorFor key) (fun _ => True) (Opening script key) := by
  refine get_bind fun h later => ?_
  dsimp only
  split
  · exact of_pure trivial
  · have unreadable (fault : Fault) (e : Remote.Url.ofKey key = .error fault) :
        Opening script key fault := .intro (.inr (.inr (read_of_ofKey e)))
    refine bind (of_ofExcept (V := fun _ => True) (fun _ _ => trivial) unreadable) fun url _ => ?_
    refine bind (of_note rfl) fun _ _ => ?_
    refine bind (of_call Remote.Script.later_connector
      (V := fun r => ∀ fault, r = .error fault → some fault ∈ script.connectors)
      fun s later fault e => Remote.Script.connector_mem later e) fun r made => ?_
    refine bind (of_ofExcept (V := fun _ => True) (fun _ _ => trivial)
      fun fault e => .intro (.inl (made fault e))) fun _ _ => ?_
    exact bind (of_revisePool _) fun _ _ => of_pure trivial

theorem draws_breakerFor (key : LinkKey) :
    Draws script (breakerFor key) (fun _ => True) (Opening script key) := by
  refine get_bind fun h later => ?_
  dsimp only
  split
  · exact of_pure trivial
  · refine bind (of_ofExcept (V := fun _ => True) (fun _ _ => trivial)
      fun fault e => .intro (.inr (.inr e))) fun url _ => ?_
    exact bind (of_revisePool _) fun _ _ => of_pure trivial

theorem draws_connectOnce {P : Fault → Prop} :
    Draws script connectOnce (fun r => ∀ fault, r = .error fault → some fault ∈ script.connects)
      P := by
  refine get_bind fun h later => ?_
  refine bind (of_call Remote.Script.later_connect
    (V := fun r => ∀ fault, r = .error fault → some fault ∈ script.connects)
    fun s later fault e => Remote.Script.connect_mem later e) fun r came => ?_
  refine bind (of_modify fun _ => .refl _) fun _ _ => ?_
  refine bind (of_note rfl) fun _ _ => of_pure fun fault e => ?_
  cases r with
  | ok _ => cases e
  | error fault' =>
    cases e
    exact came fault rfl

/-- A breaker turns a call away as a breaker does. -/
theorem isConnectFault_of_allow {breaker : Remote.Breaker} {fault : Fault}
    (e : breaker.allow = .error fault) : isConnectFault fault = true := by
  unfold Remote.Breaker.allow at e
  split at e
  · cases e
  · split at e
    · cases e
    · cases e
      rfl

/-- Behind a breaker a call fails as it did, or as a breaker does. -/
theorem fault_of_settle {α : Type} {breaker : Remote.Breaker} {counts : Fault → Bool}
    {r : Except Fault α} {fault : Fault} (e : (breaker.settle counts r).1 = .error fault) :
    r = .error fault ∨ isConnectFault fault = true := by
  cases r with
  | ok a => cases e
  | error fault' =>
    simp only [Remote.Breaker.settle] at e
    split at e
    · simp only [Remote.Breaker.fail] at e
      split at e
      · cases e
        exact .inr rfl
      · split at e
        · cases e
          exact .inr rfl
        · exact .inl e
    · exact .inl e

theorem draws_connectGuarded (key : LinkKey) :
    Draws script (connectGuarded key) (fun _ => True) (Opening script key) := by
  refine bind (draws_breakerFor key) fun breaker _ => ?_
  refine bind (of_ofExcept (V := fun _ => True) (fun _ _ => trivial)
    fun fault e => .inl (isConnectFault_of_allow e)) ?_
  rintro ⟨breaker, notices⟩ -
  refine bind (of_revisePool _) fun _ _ => ?_
  refine bind (of_forM notices fun _ => of_report _) fun _ _ => ?_
  refine bind draws_connectOnce fun r came => ?_
  refine bind (of_revisePool _) fun _ _ => ?_
  refine bind (of_forM _ fun _ => of_report _) fun _ _ => ?_
  refine of_ofExcept (fun _ _ => trivial) fun fault e => ?_
  rcases fault_of_settle e with own | foreseen
  · exact .intro (.inr (.inl (came fault own)))
  · exact .inl foreseen

theorem draws_acquire (key : LinkKey) :
    Draws script (acquire key) (fun _ => True) (Opening script key) := by
  refine get_bind fun h later => ?_
  split
  · exact bind (of_modify fun _ => .refl _) fun _ _ =>
      of_pure trivial
  · refine bind (draws_connectorFor key) fun url _ => ?_
    refine bind (draws_connectGuarded key) fun n _ => ?_
    refine bind (of_note rfl) fun _ _ => get_bind fun h _ => ?_
    refine bind (of_modify fun _ => .refl _) fun _ _ => ?_
    refine bind (of_revisePool _) fun _ _ => ?_
    exact bind (of_report _) fun _ _ => of_pure trivial

/-- Only the invalidation of its connection keeps a session from being given up. -/
theorem draws_discard (s : Nat) (force : Bool) :
    Draws script (discard s force) (fun _ => True) fun fault =>
      some fault ∈ script.invalidations := by
  refine get_bind fun h later => ?_
  dsimp only
  refine of_ite (of_pure trivial) ?_
  refine bind (of_modify fun _ => .refl _) fun _ _ => ?_
  refine bind (of_calm (calm_clearStatements s) (clearStatements_succeeds s)) fun _ _ => ?_
  refine of_ite ?_ ?_
  · refine bind (of_note rfl) fun _ _ => ?_
    refine bind (of_call Remote.Script.later_invalidate
      (V := fun r => ∀ fault, r = .error fault → some fault ∈ script.invalidations)
      fun s later fault e => Remote.Script.invalidate_mem later e) fun r came => ?_
    refine bind (of_note rfl) fun _ _ => ?_
    exact of_ofExcept (fun _ _ => trivial) came
  · exact of_note rfl

theorem draws_release (s : Nat) (force : Bool) :
    Draws script (release s force) (fun _ => True) fun fault =>
      some fault ∈ script.invalidations := by
  refine bind (of_modify fun _ => .refl _) fun _ _ => ?_
  refine get_bind fun h later => ?_
  dsimp only
  refine of_ite (of_pure trivial) ?_
  exact bind (of_revisePool _) fun _ _ => draws_discard s force

end Action

/-! ### Attempts -/

/-- The table `t` keeps its definition, and fewer outcomes are to come. -/
structure Defines (t : Nat) (h h' : Host) : Prop where
  script : h.script.Later h'.script
  known : h'.tables.next = h.tables.next
  definition : (h'.table t).definition = (h.table t).definition

/-- The table `t` holds the session and remembers the failure that it did, and fewer outcomes are to
come. -/
structure Attempts (t : Nat) (h h' : Host) : Prop extends Defines t h h' where
  session : (h'.table t).session = (h.table t).session
  failure : (h'.table t).failure = (h.table t).failure

variable {t : Nat}

theorem Defines.of_tables {h h' : Host} (script : h.script.Later h'.script)
    (tables : h'.tables = h.tables) : Defines t h h' :=
  ⟨script, congrArg Roster.next tables, by rw [Host.table, tables]; rfl⟩

theorem Attempts.of_tables {h h' : Host} (script : h.script.Later h'.script)
    (tables : h'.tables = h.tables) : Attempts t h h' := by
  have table : h'.table t = h.table t := by rw [Host.table, tables]; rfl
  exact ⟨.of_tables script tables, by rw [table], by rw [table]⟩

theorem Defines.of_revise {h : Host} {u : Nat} {f : LinkedTable → LinkedTable}
    (same : ∀ table, (f table).definition = table.definition) :
    Defines t h { h with tables := h.tables.revise u f } := by
  refine ⟨.refl _, Roster.next_revise h.tables u f, ?_⟩
  rcases h.table_of_revise u t f with e | ⟨-, e⟩
  · rw [e]
  · rw [e, same]

theorem Attempts.of_revise {h : Host} {u : Nat} {f : LinkedTable → LinkedTable}
    (definition : ∀ table, (f table).definition = table.definition)
    (session : ∀ table, (f table).session = table.session)
    (failure : ∀ table, (f table).failure = table.failure) :
    Attempts t h { h with tables := h.tables.revise u f } := by
  have defined : Defines t h { h with tables := h.tables.revise u f } := .of_revise definition
  rcases h.table_of_revise u t f with e | ⟨-, e⟩
  · exact ⟨defined, by rw [e], by rw [e]⟩
  · exact ⟨defined, by rw [e, session], by rw [e, failure]⟩

theorem definition_of_standing {table table' : LinkedTable}
    (same : table'.standing = table.standing) : table'.definition = table.definition :=
  show table'.standing.definition = table.standing.definition by rw [same]

theorem defines (t u : Nat) : LinkFrame u (Defines t) where
  refl _ := .of_tables (.refl _) rfl
  trans a b := ⟨a.script.trans b.script, b.known.trans a.known, b.definition.trans a.definition⟩
  calm c := .of_tables (c.script.symm ▸ .refl _) c.tables
  script later := .of_tables later rfl
  session _ := .of_tables (.refl _) rfl
  opened _ := .of_tables (.refl _) rfl
  link standing := .of_revise fun table => definition_of_standing (standing table)
  adopt _ _ := .of_revise fun _ => rfl

theorem attempts (t u : Nat) : AttemptFrame u (Attempts t) where
  refl _ := .of_tables (.refl _) rfl
  trans a b := ⟨(defines t u).trans a.toDefines b.toDefines, b.session.trans a.session,
    b.failure.trans a.failure⟩
  calm c := .of_tables (c.script.symm ▸ .refl _) c.tables
  script later := .of_tables later rfl
  session _ := .of_tables (.refl _) rfl
  opened _ := .of_tables (.refl _) rfl
  read standing := .of_revise fun table => definition_of_standing (standing table)
  adopt _ _ := .of_revise (fun _ => rfl) (fun _ => rfl) fun _ => rfl

/-- The sessions that were open are open, and no others. -/
def Faces (h h' : Host) : Prop := ∀ s, (h'.session s).face = (h.session s).face

theorem faces (u : Nat) : HandshakeFrame u Faces where
  refl _ _ := rfl
  trans a b s := (b s).trans (a s)
  calm c := c.face
  script _ _ := rfl
  read _ _ _ _ := rfl
  adopt _ _ _ := rfl
  flags := by
    intro h s flags s'
    simp only [Host.session, Roster.at?_revise]
    split
    · cases h.sessions.at? s' <;> rfl
    · rfl

namespace Action

open Keeps

theorem isOpen_of_sharedSession? {h : Host} {key : LinkKey} {s : Nat}
    (found : sharedSession? h key = some s) : (h.session s).closed = false := by
  unfold sharedSession? at found
  split at found
  · obtain ⟨-, isOpen⟩ := Option.filter_eq_some_iff.mp found
    simpa using isOpen
  · cases found

theorem reaches_openSession (h : Host) (key : LinkKey) : Reaches (openSession key) h fun r h' =>
    ∀ s, r = .ok s → (h'.session s).closed = false := by
  -- Up to the making of the session nothing matters but that it is gone through.
  have before {α β : Type} {x : Action α} {f : α → Action β} {h : Host}
      {Q : Except Fault β → Host → Prop} (value : ∀ a h', Reaches (f a) h' Q)
      (fault : ∀ fault h', Q (.error fault) h') : Reaches (x >>= f) h Q :=
    Reaches.bind (P := fun _ _ => True) trivial (fun a h' _ => value a h') fun e h' _ => fault e h'
  refine before (fun url h => ?_) fun _ _ => nofun
  refine before (fun n h => ?_) fun _ _ => nofun
  refine before (fun _ h => ?_) fun _ _ => nofun
  refine Reaches.get_bind (Reaches.modify_bind ?_)
  generalize made : (⟨key, n, url.dialect, Dialect.Vendor.ofUrl key.url, Dialect.Flags.none, 1,
    false, []⟩ : Session) = session
  have isOpen : (({ h with sessions := h.sessions.join session } : Host).session
      h.sessions.next).closed = false := by
    rw [Host.session, Roster.at?_join_next, ← made]
    rfl
  have told : Keeps Calm (do
      revisePool fun pool =>
        if pool.shares then { pool with shared := pool.shared.put key h.sessions.next } else pool
      report ⟨.debug, "Opened remote session for " ++ url.text true⟩
      return h.sessions.next) :=
    bind calm (calm_revisePool _) fun _ => bind calm (calm_report _) fun _ => of_pure calm _
  rintro s ⟨⟩
  exact (closed_of_face ((told _).face _)).trans isOpen

/-- A session that is acquired is open. -/
theorem reaches_acquire (h : Host) (key : LinkKey) : Reaches (acquire key) h fun r h' =>
    ∀ s, r = .ok s → (h'.session s).closed = false := by
  refine Reaches.get_bind ?_
  cases found : sharedSession? h key with
  | some s =>
    rintro s' ⟨⟩
    have face := h.face_of_revise s (f := fun session =>
      { session with useCount := session.useCount + 1 }) (fun _ => rfl) s
    exact (closed_of_face face).trans (isOpen_of_sharedSession? found)
  | none => exact reaches_openSession h key

/-- An attempt to connect has come to a session that is open, or to a failure; only what is not
foreseen goes through it. -/
inductive AttemptEnds (script : Remote.Script) (key : LinkKey) (h : Host) :
    Except Fault (Except LinkFault Nat) → Prop
  | won {s : Nat} (isOpen : (h.session s).closed = false) : AttemptEnds script key h (.ok (.ok s))
  | lost (failure : LinkFault) : AttemptEnds script key h (.ok (.error failure))
  | escaped {fault : Fault} (raised : script.Unforeseen key fault) :
      AttemptEnds script key h (.error fault)

theorem reaches_attemptConnect (h : Host) (t : Nat) :
    Reaches (attemptConnect t) h fun r h' =>
      AttemptEnds h.script (h.table t).definition.key h' r := by
  refine Reaches.get_bind (Reaches.outcome_bind (P := fun r g => h.script.Later g.script
    ∧ (∀ s, r = .ok s → (g.session s).closed = false)
    ∧ ∀ fault, r = .error fault → Opening h.script (h.table t).definition.key fault) ?_ ?_)
  · have drawn := draws_acquire (h.table t).definition.key h (.refl h.script)
    have isOpen := reaches_acquire h (h.table t).definition.key
    rw [Reaches] at drawn isOpen ⊢
    refine ⟨drawn.1, isOpen, fun fault raised => ?_⟩
    rw [raised] at drawn
    exact drawn.2
  · rintro (fault | s) g ⟨later, isOpen, raised⟩
    · exact Reaches.of_ite (fun _ => .lost _) fun other =>
        .escaped ((raised fault rfl).resolve_left other)
    · refine Reaches.outcome_bind (P := fun _ g' => h.script.Later g'.script
        ∧ (g'.session s).closed = false) ?_ ?_
      · have shaken := (faces t).handshake s g
        have later := later.trans ((attempts t t).handshake s g).script
        exact ⟨later, (closed_of_face (shaken s)).trans (isOpen s rfl)⟩
      · rintro (fault | _) g' ⟨later, isOpen⟩
        · refine Reaches.bind (draws_release s true g' later) (fun _ g'' _ => ?_)
            fun fault g'' raised => .escaped (.inl raised.2)
          cases fault <;> exact .lost _
        · exact .won isOpen

/-! ### Connecting -/

/-- A connect of the table `t` has come to its end. -/
inductive ConnectEnds (t : Nat) (h h' : Host) : Except Fault Nat → Prop
  /-- The table holds a session, which is open. -/
  | held {s : Nat} (session : (h'.table t).session = some s)
      (failure : (h'.table t).failure = none) (isOpen : (h'.session s).closed = false) :
      ConnectEnds t h h' (.ok s)
  /-- The table remembers the failure. -/
  | gaveUp {failure : LinkFault} (session : (h'.table t).session = (h.table t).session)
      (remembered : (h'.table t).failure = some failure) :
      ConnectEnds t h h' (.error (.link failure))
  /-- The table remembers nothing of a fault that was not foreseen. -/
  | escaped {fault : Fault} (session : (h'.table t).session = (h.table t).session)
      (failure : (h'.table t).failure = none)
      (raised : h.script.Unforeseen (h.table t).definition.key fault) :
      ConnectEnds t h h' (.error fault)

section Connect

variable {h g : Host} (same : Attempts t h g) (known : t < g.tables.next)
include same known

theorem reaches_hold {s : Nat} (blank : (h.table t).failure = none)
    (isOpen : (g.session s).closed = false) :
    Reaches (hold t s) g fun r h' => ConnectEnds t h h' r := by
  have table := Host.table_of_revise_self known fun table => { table with session := some s }
  have failure := (congrArg LinkedTable.failure table).trans (same.failure.trans blank)
  exact Reaches.modify_bind (.held (congrArg LinkedTable.session table) failure isOpen)

theorem reaches_giveUp (failure : LinkFault) :
    Reaches (giveUp t failure) g fun r h' => ConnectEnds t h h' r := by
  have table := Host.table_of_revise_self known fun table => { table with failure := some failure }
  have session := (congrArg LinkedTable.session table).trans same.session
  exact Reaches.modify_bind (.gaveUp session (congrArg LinkedTable.failure table))

/-- Every attempt but the last may fail without any notice in the table. -/
theorem reaches_connectFrom (blank : (h.table t).failure = none) (attempt left : Nat) :
    Reaches (connectFrom t attempt left) g fun r h' => ConnectEnds t h h' r := by
  -- One attempt either ends the connect or leaves the table as it was.
  have once {g : Host} (same : Attempts t h g) (known : t < g.tables.next)
      {f : Except LinkFault Nat → Action Nat} (holds : ∀ s, f (.ok s) = hold t s)
      (go : ∀ failure g', Attempts t h g' → t < g'.tables.next →
        Reaches (f (.error failure)) g' fun r h' => ConnectEnds t h h' r) :
      Reaches (attemptConnect t >>= f) g fun r h' => ConnectEnds t h h' r := by
    have ends := reaches_attemptConnect g t
    have kept := (attempts t t).attemptConnect g
    rw [Reaches] at ends
    rw [Reaches, Host.act_bind]
    generalize g.act (attemptConnect t) = p at ends kept ⊢
    obtain ⟨r, g'⟩ := p
    have same' : Attempts t h g' := (attempts t t).trans same kept
    have known' : t < g'.tables.next := kept.known ▸ known
    cases ends with
    | @won s isOpen =>
      have held := reaches_hold same' known' blank isOpen
      rw [← holds] at held
      exact held
    | lost failure => exact go failure g' same' known'
    | escaped raised =>
      refine .escaped same'.session (same'.failure.trans blank) ?_
      exact same.definition ▸ raised.of_later same.script
  induction left generalizing g attempt with
  | zero =>
    exact once same known (fun _ => rfl) fun failure g' same' known' =>
      reaches_giveUp same' known' failure
  | succ left ih =>
    refine once same known (fun _ => rfl) fun failure g' same' known' => Reaches.of_ite
      (fun _ => reaches_giveUp same' known' failure) fun _ => Reaches.get_bind ?_
    have reported (notice : Notice) : Keeps (Attempts t) (report notice) :=
      (attempts t t).of_report notice
    refine Reaches.past (report_succeeds _) (reported _) fun _ g'' kept => ?_
    exact ih ((attempts t t).trans same' kept) (kept.known ▸ known') (attempt + 1)

end Connect

/-- A connect ends with a session that the table holds, with a failure that it remembers, or with a
fault that was not foreseen. -/
theorem reaches_connect {h : Host} (known : t < h.tables.next) :
    Reaches (connect t) h fun r h' => ConnectEnds t h h' r := by
  let g : Host := { h with tables := h.tables.revise t fun table => { table with failure := none } }
  have table : g.table t = { h.table t with failure := none } :=
    Host.table_of_revise_self known fun table => { table with failure := none }
  have known : t < g.tables.next := (Roster.next_revise h.tables t _).symm ▸ known
  have ends := reaches_connectFrom ((attempts t t).refl g) known (by rw [table]) 1 maxRetry
  -- The failure from before is forgotten first, and nothing else of the table has changed.
  refine Reaches.modify_bind ?_
  rw [Reaches] at ends ⊢
  generalize g.act (connectFrom t 1 maxRetry) = p at ends ⊢
  obtain ⟨r, h'⟩ := p
  cases ends with
  | held session failure isOpen => exact .held session failure isOpen
  | gaveUp session remembered => exact .gaveUp (session.trans (by rw [table])) remembered
  | escaped session failure raised =>
    rw [table] at raised
    exact .escaped (session.trans (by rw [table])) failure raised

/-- Where every fault is foreseen, a table that cannot be connected anew remembers why. -/
theorem reaches_reconnect {h : Host} (known : t < h.tables.next) (failed : Option Nat)
    (foreseen : ∀ fault, ¬ h.script.Unforeseen (h.table t).definition.key fault) :
    Reaches (reconnect t failed) h fun r h' => ∀ fault, r = .error fault →
      ∃ failure, fault = .link failure ∧ (h'.table t).failure = some failure := by
  refine Reaches.get_bind ?_
  split
  · intro fault failed
    cases failed
  · have letGo : Keeps (Defines t) (giveUpSession t) := (defines t t).giveUpSession
    -- A fault raised in giving the session up would be one that is not foreseen.
    have given : Reaches (giveUpSession t) h fun r _ => ∀ fault, r ≠ .error fault := by
      refine Reaches.get_bind (Reaches.modify_bind ?_)
      split
      next s _ =>
        intro fault raised
        have releases : Draws h.script (release s true) (fun _ => True) fun fault =>
          some fault ∈ h.script.invalidations := draws_release s true
        have drawn := releases { h with
          tables := h.tables.revise t fun table => { table with session := none } } (.refl _)
        rw [Reaches] at drawn
        rw [raised] at drawn
        exact foreseen fault (.inl drawn.2)
      · intro fault failed
        cases failed
    refine Reaches.bind (P := fun r g => Defines t h g ∧ ∀ fault, r ≠ .error fault)
      ⟨letGo h, given⟩ (fun _ g came => ?_) fun fault g came => absurd rfl (came.2 fault)
    have ends := reaches_connect (came.1.known ▸ known)
    rw [Reaches] at ends ⊢
    generalize g.act (connect t) = p at ends ⊢
    obtain ⟨r, h'⟩ := p
    rintro fault rfl
    cases ends with
    | @gaveUp failure _ remembered => exact ⟨failure, rfl, remembered⟩
    | escaped _ _ raised =>
      rw [came.1.definition] at raised
      exact absurd (raised.of_later came.1.script) (foreseen fault)

end Action

end LinkedTables
