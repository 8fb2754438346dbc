import LinkedTables.Proofs.Shapes
import LinkedTables.Proofs.StatementsWithoutExecution

/-!
# Work on links

Sessions are opened, read over, released and closed by a few steps: work that is calm, taking the
next outcome of a remote call, and changes of sessions. A relation of hosts that every such step
keeps, a `SessionFrame`, is kept by all of the work on sessions; that a session stays as it is but
for its flags, a `ReadFrame`, is enough for reading over it. A connect changes the table that it is
for besides: in the handshake it takes the next catalog over, and the columns and indexes of the
first shape that is read (`HandshakeFrame`, `AttemptFrame`), and at its end the table holds a
session or remembers a failure (`LinkFrame`).
-/

namespace LinkedTables

/-! ### Outcomes to come -/

/-- The outcomes to come are the last of those that were to come. -/
structure Remote.Script.Later (s s' : Remote.Script) : Prop where
  connectors : s'.connectors <:+ s.connectors
  connects : s'.connects <:+ s.connects
  probes : s'.probes <:+ s.probes
  answers : s'.answers <:+ s.answers
  invalidations : s'.invalidations <:+ s.invalidations

namespace Remote.Script

theorem Later.refl (s : Script) : s.Later s :=
  ⟨List.suffix_rfl, List.suffix_rfl, List.suffix_rfl, List.suffix_rfl, List.suffix_rfl⟩

theorem Later.trans {s s' s'' : Script} (a : s.Later s') (b : s'.Later s'') : s.Later s'' :=
  ⟨b.connectors.trans a.connectors, b.connects.trans a.connects, b.probes.trans a.probes,
    b.answers.trans a.answers, b.invalidations.trans a.invalidations⟩

theorem later_connector (s : Script) : s.Later s.connector.2 := by
  unfold connector
  split
  · exact .refl s
  next e => exact { Later.refl s with connectors := e ▸ List.suffix_cons _ _ }
  next e => exact { Later.refl s with connectors := e ▸ List.suffix_cons _ _ }

theorem later_connect (s : Script) : s.Later s.connect.2 := by
  unfold connect
  split
  · exact .refl s
  next e => exact { Later.refl s with connects := e ▸ List.suffix_cons _ _ }
  next e => exact { Later.refl s with connects := e ▸ List.suffix_cons _ _ }

theorem later_probe (s : Script) : s.Later s.probe.2 := by
  unfold probe
  split
  · exact .refl s
  next e => exact { Later.refl s with probes := e ▸ List.suffix_cons _ _ }

theorem later_execute (s : Script) : s.Later s.execute.2 := by
  unfold execute
  split
  · exact .refl s
  next e => exact { Later.refl s with answers := e ▸ List.suffix_cons _ _ }

theorem later_invalidate (s : Script) : s.Later s.invalidate.2 := by
  unfold invalidate
  split
  · exact .refl s
  next e => exact { Later.refl s with invalidations := e ▸ List.suffix_cons _ _ }
  next e => exact { Later.refl s with invalidations := e ▸ List.suffix_cons _ _ }

end Remote.Script

/-! ### Calm work -/

namespace Action

open Keeps

theorem calm_breakerFor (key : LinkKey) : Keeps Calm (breakerFor key) := by
  refine get_bind fun h => ?_
  dsimp only
  split
  · exact of_pure calm _
  · refine bind calm (of_ofExcept calm _) fun url => ?_
    exact bind calm (calm_revisePool _) fun _ => of_pure calm _

theorem calm_ask (catalog : Catalog) (question : CatalogQuestion) (schema : Option String)
    (table : String) : Keeps Calm (ask catalog question schema table) :=
  of_ite (calm_note rfl) (of_pure calm ())

theorem calm_readCatalogColumns (catalog : Catalog) (canonicalName : String → String)
    (schema : Option String) (table : String) :
    Keeps Calm (readCatalogColumns catalog canonicalName schema table) := by
  refine bind calm (calm_ask _ _ _ _) fun _ => bind calm (of_ofExcept calm _) fun found => ?_
  have read : Keeps Calm (do
      ask catalog .columns schema table
      ofExcept (Shape.catalogColumns canonicalName (catalog.columns schema table))) :=
    bind calm (calm_ask _ _ _ _) fun _ => of_ofExcept calm _
  exact of_ite (bind calm (of_throw calm _) fun _ => read) read

theorem calm_readCatalogIndexes (catalog : Catalog) (resolve : Reconstruction.Resolver)
    (schema : Option String) (table : String) :
    Keeps Calm (readCatalogIndexes catalog resolve schema table) := by
  refine bind calm (calm_ask _ _ _ _) fun _ => ?_
  refine bind calm (calm_reportAll _) fun _ => bind calm (of_ofExcept calm _) ?_
  rintro ⟨primary, key⟩
  refine bind calm (calm_ask _ _ _ _) fun _ => ?_
  refine bind calm (calm_reportAll _) fun _ => bind calm (of_ofExcept calm _) fun others => ?_
  exact of_pure calm _

theorem calm_requireSession (u : Nat) : Keeps Calm (requireSession u) :=
  get_bind fun _ => of_ofExcept calm _

end Action

/-! ### Reading shapes -/

/-- A relation that reading the shape of a remote table keeps. -/
structure ReadFrame (ρ : Host → Host → Prop) : Prop extends Frame ρ where
  calm : ∀ {h h'}, Calm h h' → ρ h h'
  script : ∀ {h script}, h.script.Later script → ρ h { h with script }
  /-- A session takes flags over. -/
  flags : ∀ {h s flags}, ρ h { h with
    sessions := h.sessions.revise s fun session => { session with flags } }

namespace ReadFrame

open LinkedTables.Action Keeps

variable {ρ : Host → Host → Prop} (F : ReadFrame ρ) {α : Type}
include F

theorem of_calm {x : Action α} (hx : Keeps Calm x) : Keeps ρ x := hx.mono fun _ _ => F.calm

theorem of_report (notice : Notice) : Keeps ρ (report notice) := F.of_calm (calm_report notice)

theorem of_call {call : Remote.Script → α × Remote.Script}
    (later : ∀ s : Remote.Script, s.Later (call s).2) : Keeps ρ (fromScript call) :=
  fun h => F.script (later h.script)

theorem probe (s : Nat) (name table : String) : Keeps ρ (probe s name table) := by
  refine get_bind fun h => bind F.toFrame (F.of_calm (calm_note rfl)) fun _ => ?_
  refine bind F.toFrame (F.of_call Remote.Script.later_probe) fun r => ?_
  cases r with
  | error fault => exact of_throw F.toFrame _
  | ok description =>
    refine bind F.toFrame (F.of_calm (calm_note rfl)) fun _ => get_bind fun _ => ?_
    exact of_ofExcept F.toFrame _

theorem readShape (d : Definition) (catalog : Catalog) (s : Nat) :
    Keeps ρ (readShape d catalog s) := by
  refine bind F.toFrame (of_modify fun _ => F.flags) fun _ => ?_
  refine get_bind fun h => ?_
  refine of_either F.toFrame (of_pure F.toFrame _)
    (F.of_calm (calm_readCatalogColumns _ _ _ _)) ?_
  rintro ⟨reported, schema⟩
  refine bind F.toFrame (F.probe _ _ _) fun probed => ?_
  refine of_either F.toFrame (of_pure F.toFrame _)
    (F.of_calm (calm_readCatalogIndexes _ _ _ _)) fun others => ?_
  exact bind F.toFrame (F.of_report _) fun _ => of_pure F.toFrame _

end ReadFrame

/-! ### Sessions -/

/-- A relation that the work on sessions keeps. -/
structure SessionFrame (ρ : Host → Host → Prop) : Prop extends ReadFrame ρ where
  /-- A session changes, and keeps no more statements than before. -/
  session : ∀ {h s} {f : Session → Session},
    (∀ session sql st, (f session).cache.value? sql = some st →
      session.cache.value? sql = some st) →
    ρ h { h with sessions := h.sessions.revise s f }
  opened : ∀ {h} {session : Session}, session.cache = [] →
    ρ h { h with sessions := h.sessions.join session }
  flags := session fun _ _ _ found => found

namespace SessionFrame

open LinkedTables.Action Keeps

variable {ρ : Host → Host → Prop} (F : SessionFrame ρ) {α : Type}
include F

theorem of_reviseSession (s : Nat) {f : Session → Session}
    (fewer : ∀ session sql st, (f session).cache.value? sql = some st →
      session.cache.value? sql = some st) : Keeps ρ (reviseSession s f) :=
  of_modify fun _ => F.session fewer

theorem discard (s : Nat) (force : Bool) : Keeps ρ (discard s force) := by
  refine get_bind fun h => ?_
  dsimp only
  have closing : Keeps ρ (do
      reviseSession s fun session => { session with closed := true }
      clearStatements s
      if force then
        note (.invalidated (h.session s).connection)
        let r ← fromScript Remote.Script.invalidate
        note (.closed (h.session s).connection)
        Action.ofExcept r
      else
        note (.closed (h.session s).connection)) := by
    refine bind F.toFrame (F.of_reviseSession s fun _ _ _ found => found) fun _ => ?_
    refine bind F.toFrame (F.of_calm (calm_clearStatements s)) fun _ => of_ite ?_ ?_
    · refine bind F.toFrame (F.of_calm (calm_note rfl)) fun _ => ?_
      refine bind F.toFrame (F.of_call Remote.Script.later_invalidate) fun r => ?_
      exact bind F.toFrame (F.of_calm (calm_note rfl)) fun _ => of_ofExcept F.toFrame r
    · exact F.of_calm (calm_note rfl)
  exact of_ite (of_pure F.toFrame ()) closing

theorem connectorFor (key : LinkKey) : Keeps ρ (connectorFor key) := by
  refine get_bind fun h => ?_
  dsimp only
  split
  · exact of_pure F.toFrame _
  · refine bind F.toFrame (of_ofExcept F.toFrame _) fun url => ?_
    refine bind F.toFrame (F.of_calm (calm_note rfl)) fun _ => ?_
    refine bind F.toFrame (F.of_call Remote.Script.later_connector) fun r => ?_
    refine bind F.toFrame (of_ofExcept F.toFrame r) fun _ => ?_
    exact bind F.toFrame (F.of_calm (calm_revisePool _)) fun _ => of_pure F.toFrame url

theorem connectOnce : Keeps ρ connectOnce := by
  refine get_bind fun h => bind F.toFrame (F.of_call Remote.Script.later_connect) fun r => ?_
  refine bind F.toFrame (of_modify fun _ => F.calm ⟨.of_others, .of_same rfl rfl⟩) fun _ => ?_
  exact bind F.toFrame (F.of_calm (calm_note rfl)) fun _ => of_pure F.toFrame _

theorem connectGuarded (key : LinkKey) : Keeps ρ (connectGuarded key) := by
  refine bind F.toFrame (F.of_calm (calm_breakerFor key)) fun breaker => ?_
  refine bind F.toFrame (of_ofExcept F.toFrame _) ?_
  rintro ⟨breaker, notices⟩
  refine bind F.toFrame (F.of_calm (calm_revisePool _)) fun _ => ?_
  refine bind F.toFrame (F.of_calm (calm_reportAll _)) fun _ => ?_
  refine bind F.toFrame F.connectOnce fun r => ?_
  refine bind F.toFrame (F.of_calm (calm_revisePool _)) fun _ => ?_
  exact bind F.toFrame (F.of_calm (calm_reportAll _)) fun _ => of_ofExcept F.toFrame _

theorem openSession (key : LinkKey) : Keeps ρ (openSession key) := by
  refine bind F.toFrame (F.connectorFor key) fun url => ?_
  refine bind F.toFrame (F.connectGuarded key) fun n => ?_
  refine bind F.toFrame (F.of_calm (calm_note rfl)) fun _ => get_bind fun h => ?_
  refine bind F.toFrame (of_modify fun _ => F.opened rfl) fun _ => ?_
  refine bind F.toFrame (F.of_calm (calm_revisePool _)) fun _ => ?_
  exact bind F.toFrame (F.of_report _) fun _ => of_pure F.toFrame _

theorem acquire (key : LinkKey) : Keeps ρ (acquire key) := by
  refine get_bind fun h => ?_
  split
  · exact bind F.toFrame (F.of_reviseSession _ fun _ _ _ found => found) fun _ =>
      of_pure F.toFrame _
  · exact F.openSession key

theorem release (s : Nat) (force : Bool) : Keeps ρ (release s force) := by
  refine bind F.toFrame (F.of_reviseSession s fun _ _ _ found => found) fun _ => ?_
  refine get_bind fun h => ?_
  dsimp only
  have giving : Keeps ρ (do
      revisePool fun pool =>
        if pool.shared.value? (h.session s).key = some s then
          { pool with shared := pool.shared.drop (h.session s).key }
        else pool
      Action.discard s force) :=
    bind F.toFrame (F.of_calm (calm_revisePool _)) fun _ => F.discard s force
  exact of_ite (of_pure F.toFrame ()) giving

theorem closePool : Keeps ρ closePool := by
  refine get_bind fun h => bind F.toFrame (F.of_calm (calm_revisePool _)) fun _ => ?_
  refine bind F.toFrame (of_forM F.toFrame _ fun _ => F.discard _ _) fun _ => ?_
  exact of_forM F.toFrame _ fun _ => F.of_calm (calm_note rfl)

end SessionFrame

/-! ### Attempts to connect -/

/-- A table but for what its link is at the moment. -/
def LinkedTable.standing (table : LinkedTable) : LinkedTable :=
  { table with flags := Dialect.Flags.none, catalogs := [], session := none, failure := none }

/-- A relation that the handshake of the table `u` with a session keeps. -/
structure HandshakeFrame (u : Nat) (ρ : Host → Host → Prop) : Prop extends ReadFrame ρ where
  /-- Catalogs are taken, and flags are taken over. -/
  read : ∀ {h} {f : LinkedTable → LinkedTable}, (∀ table, (f table).standing = table.standing) →
    (∀ table, (f table).session = table.session) → (∀ table, (f table).failure = table.failure) →
    ρ h { h with tables := h.tables.revise u f }
  /-- A table that has no indexes yet takes a shape over. -/
  adopt : ∀ {h} {shape : Shape}, shape.IsWellFormed → (h.table u).indexes = [] →
    ρ h { h with tables := h.tables.revise u (Action.adopted shape) }

/-- A relation that an attempt to connect the table `u` keeps. -/
structure AttemptFrame (u : Nat) (ρ : Host → Host → Prop) : Prop
    extends SessionFrame ρ, HandshakeFrame u ρ

/-- A relation that connecting and disconnecting the table `u` keeps. -/
structure LinkFrame (u : Nat) (ρ : Host → Host → Prop) : Prop extends SessionFrame ρ where
  /-- The link of the table becomes another. -/
  link : ∀ {h} {f : LinkedTable → LinkedTable}, (∀ table, (f table).standing = table.standing) →
    ρ h { h with tables := h.tables.revise u f }
  /-- A table that has no indexes yet takes a shape over. -/
  adopt : ∀ {h} {shape : Shape}, shape.IsWellFormed → (h.table u).indexes = [] →
    ρ h { h with tables := h.tables.revise u (Action.adopted shape) }

section Connecting

open LinkedTables.Action Keeps

variable {u : Nat} {ρ : Host → Host → Prop}

namespace HandshakeFrame

variable (F : HandshakeFrame u ρ)
include F

theorem nextCatalog : Keeps ρ (nextCatalog u) := by
  refine get_bind fun h => ?_
  split
  · exact of_throw F.toFrame _
  · exact of_pure F.toFrame _
  · exact bind F.toFrame (of_modify fun _ => F.read (fun _ => rfl) (fun _ => rfl) fun _ => rfl)
      fun _ => of_pure F.toFrame _

theorem handshake (s : Nat) : Keeps ρ (handshake u s) := by
  refine get_bind fun h => bind F.toFrame F.nextCatalog fun catalog => ?_
  refine bind_of F.toFrame (F.readShape _ _ _) (readShape_yields _ _ _) fun shape read => ?_
  refine bind F.toFrame (of_modify fun _ => F.read (fun _ => rfl) (fun _ => rfl) fun _ => rfl)
    fun _ => get_bind_at fun h => ?_
  dsimp only
  split
  next blank => exact F.adopt read.isWellFormed (List.isEmpty_iff.mp blank)
  next => exact of_ite (F.of_report _) (of_pure F.toFrame ()) h

end HandshakeFrame

theorem AttemptFrame.attemptConnect (F : AttemptFrame u ρ) : Keeps ρ (attemptConnect u) := by
  refine get_bind fun h => outcome_bind F.toFrame (F.acquire _) fun r => ?_
  cases r with
  | error fault => exact of_ite (of_pure F.toFrame _) (of_throw F.toFrame _)
  | ok s =>
    refine outcome_bind F.toFrame (F.handshake s) fun r => ?_
    cases r with
    | ok _ => exact of_pure F.toFrame _
    | error fault =>
      refine bind F.toFrame (F.release s true) fun _ => ?_
      split <;> exact of_pure F.toFrame _

namespace LinkFrame

variable (F : LinkFrame u ρ)
include F

/-- What is kept by the work on a link is kept for any coarser relation. -/
theorem mono {σ : Host → Host → Prop} (S : Frame σ) (coarser : ∀ {h h'}, ρ h h' → σ h h') :
    LinkFrame u σ where
  toFrame := S
  calm c := coarser (F.calm c)
  script later := coarser (F.script later)
  session fewer := coarser (F.session fewer)
  opened bare := coarser (F.opened bare)
  link standing := coarser (F.link standing)
  adopt formed blank := coarser (F.adopt formed blank)

theorem toAttemptFrame : AttemptFrame u ρ where
  toSessionFrame := F.toSessionFrame
  read standing _ _ := F.link standing
  adopt := F.adopt

theorem giveUp (failure : LinkFault) : Keeps ρ (giveUp u failure) :=
  bind F.toFrame (of_modify fun _ => F.link fun _ => rfl) fun _ => of_throw F.toFrame _

theorem hold (s : Nat) : Keeps ρ (hold u s) :=
  bind F.toFrame (of_modify fun _ => F.link fun _ => rfl) fun _ => of_pure F.toFrame s

theorem connectFrom (attempt left : Nat) : Keeps ρ (connectFrom u attempt left) := by
  induction left generalizing attempt with
  | zero =>
    refine bind F.toFrame F.toAttemptFrame.attemptConnect fun r => ?_
    cases r with
    | ok s => exact F.hold s
    | error failure => exact F.giveUp failure
  | succ left ih =>
    refine bind F.toFrame F.toAttemptFrame.attemptConnect fun r => ?_
    cases r with
    | ok s => exact F.hold s
    | error failure =>
      refine of_ite (F.giveUp failure) (get_bind fun h => ?_)
      exact bind F.toFrame (F.of_report _) fun _ => ih (attempt + 1)

theorem connect : Keeps ρ (connect u) :=
  bind F.toFrame (of_modify fun _ => F.link fun _ => rfl) fun _ => F.connectFrom 1 maxRetry

theorem giveUpSession : Keeps ρ (giveUpSession u) := by
  refine get_bind fun h => bind F.toFrame (of_modify fun _ => F.link fun _ => rfl) fun _ => ?_
  split
  · exact F.release _ true
  · exact of_pure F.toFrame ()

theorem reconnect (failed : Option Nat) : Keeps ρ (reconnect u failed) := by
  refine get_bind fun h => ?_
  split
  · exact of_pure F.toFrame _
  · exact bind F.toFrame F.giveUpSession fun _ => F.connect

theorem closeLink : Keeps ρ (closeLink u) := by
  refine get_bind fun h => bind F.toFrame (of_modify fun _ => F.link fun _ => rfl) fun _ => ?_
  split
  · exact F.release _ false
  · exact of_pure F.toFrame ()

end LinkFrame

end Connecting

end LinkedTables
