import LinkedTables.Proofs.AcquireRelease

/-!
# Connects that succeed

Nothing stands in the way of connecting to a target (`Host.Clear`) where its address can be read,
its breaker is shut, and no fault is to come when connectors are made and connections opened. Then a
session of the target can be acquired (`clear_acquire`). A table whose catalogs can all be read
(`LinkedTable.Welcome`) comes through the handshake over it (`welcome_handshake`), so that a table
without a session is connected at the first attempt (`clear_connect`). In all this no session is
closed, and none comes to keep what is not its own (`Stays`).
-/

namespace LinkedTables

open LinkedTables.Action

/-! ### What stays -/

/-- No session has been closed or taken for another target, and none keeps what is not its own if
it did not before. -/
structure Stays (h h' : Host) : Prop where
  script : h.script.Later h'.script
  sessions : h.sessions.next ≤ h'.sessions.next
  key : ∀ s, s < h.sessions.next → (h'.session s).key = (h.session s).key
  closed : ∀ s, s < h.sessions.next → (h'.session s).closed = (h.session s).closed
  statements : h.statements.next ≤ h'.statements.next
  owns : ∀ s, h.Owns s → h'.Owns s

theorem stays : Frame Stays where
  refl _ := ⟨.refl _, Nat.le_refl _, fun _ _ => rfl, fun _ _ => rfl, Nat.le_refl _, fun _ => id⟩
  trans a b := by
    refine ⟨a.script.trans b.script, Nat.le_trans a.sessions b.sessions, fun s known => ?_,
      fun s known => ?_, Nat.le_trans a.statements b.statements, fun s => b.owns s ∘ a.owns s⟩
    · exact (b.key s (Nat.lt_of_lt_of_le known a.sessions)).trans (a.key s known)
    · exact (b.closed s (Nat.lt_of_lt_of_le known a.sessions)).trans (a.closed s known)

theorem Firm.stays {h h' : Host} (f : Firm h h') : Stays h h' :=
  ⟨f.script, Nat.le_of_eq f.sessions.symm, fun s _ => f.key s, fun s _ => f.closed s, f.statements,
    f.owns⟩

namespace Stays

variable {h h' : Host}

/-- A change of what neither sessions nor statements depend on. -/
theorem of_others (script : h.script.Later h'.script) (sessions : h'.sessions = h.sessions)
    (statements : h'.statements = h.statements) : Stays h h' := by
  have session (s : Nat) : h'.session s = h.session s := by rw [Host.session, sessions]; rfl
  refine ⟨script, Nat.le_of_eq (congrArg Roster.next sessions).symm, fun s _ => by rw [session],
    fun s _ => by rw [session], Nat.le_of_eq (congrArg Roster.next statements).symm,
    fun s owns sql st found => ?_⟩
  rw [session] at found
  rw [Host.statement, statements]
  exact owns sql st found

/-- A session has other users. -/
theorem of_users (s : Nat) {f : Session → Session} (key : ∀ session, (f session).key = session.key)
    (closed : ∀ session, (f session).closed = session.closed)
    (cache : ∀ session, (f session).cache = session.cache) :
    Stays h { h with sessions := h.sessions.revise s f } := by
  have session (s' : Nat) :
      ({ h with sessions := h.sessions.revise s f } : Host).session s' = h.session s'
        ∨ ({ h with sessions := h.sessions.revise s f } : Host).session s' = f (h.session s') := by
    simp only [Host.session, Roster.at?_revise]
    split
    · cases h.sessions.at? s' with
      | none => exact .inl rfl
      | some _ => exact .inr rfl
    · exact .inl rfl
  refine ⟨.refl _, Nat.le_of_eq (Roster.next_revise h.sessions s f).symm, fun s' _ => ?_,
    fun s' _ => ?_, Nat.le_refl _, fun s' owns sql st found => ?_⟩
  · rcases session s' with e | e <;> simp only [e, key]
  · rcases session s' with e | e <;> simp only [e, closed]
  · refine owns sql st ?_
    rcases session s' with e | e <;> simpa only [e, cache] using found

/-- A session is opened, which keeps nothing yet. -/
theorem of_open {session : Session} (bare : session.cache = []) :
    Stays h { h with sessions := h.sessions.join session } := by
  have old {s : Nat} (known : s < h.sessions.next) :
      ({ h with sessions := h.sessions.join session } : Host).session s = h.session s :=
    congrArg (·.getD default) (Roster.at?_join_of_lt known)
  have next := Roster.next_join h.sessions session
  refine ⟨.refl _, next ▸ Nat.le_succ _, fun s known => by rw [old known],
    fun s known => by rw [old known], Nat.le_refl _, fun s owns sql st found => ?_⟩
  by_cases new : s = h.sessions.next
  · rw [Host.session, new, Roster.at?_join_next, Option.getD_some, bare] at found
    cases found
  · refine owns sql st ?_
    rwa [Host.session, Roster.at?_join, if_neg new] at found

end Stays

namespace Action

open Keeps

theorem stays_modify {f : Host → Host} (script : ∀ h, (f h).script = h.script)
    (sessions : ∀ h, (f h).sessions = h.sessions)
    (statements : ∀ h, (f h).statements = h.statements) : Keeps Stays (modify f) :=
  of_modify fun h => .of_others (script h ▸ .refl _) (sessions h) (statements h)

theorem stays_of_firm {α : Type} {x : Action α} (hx : Keeps Firm x) : Keeps Stays x :=
  hx.mono fun _ _ f => f.stays

theorem stays_revisePool (f : Pool → Pool) : Keeps Stays (revisePool f) :=
  stays_modify (fun _ => rfl) (fun _ => rfl) fun _ => rfl

theorem stays_call {α : Type} {call : Remote.Script → α × Remote.Script}
    (later : ∀ s : Remote.Script, s.Later (call s).2) : Keeps Stays (fromScript call) :=
  stays_of_firm (firm_call later)

theorem stays_connectorFor (key : LinkKey) : Keeps Stays (connectorFor key) := by
  refine get_bind fun h => ?_
  dsimp only
  split
  · exact of_pure stays _
  · refine bind stays (of_ofExcept stays _) fun url => ?_
    refine bind stays (stays_of_firm (firm_note _)) fun _ => ?_
    refine bind stays (stays_call Remote.Script.later_connector) fun r => ?_
    refine bind stays (of_ofExcept stays r) fun _ => ?_
    exact bind stays (stays_revisePool _) fun _ => of_pure stays url

theorem stays_connectGuarded (key : LinkKey) : Keeps Stays (connectGuarded key) := by
  have told (notices : List Notice) := stays_of_firm (firm_reportAll notices)
  have breaker : Keeps Stays (breakerFor key) := by
    refine get_bind fun h => ?_
    dsimp only
    split
    · exact of_pure stays _
    · refine bind stays (of_ofExcept stays _) fun url => ?_
      exact bind stays (stays_revisePool _) fun _ => of_pure stays _
  have connected : Keeps Stays connectOnce := by
    refine get_bind fun h => bind stays (stays_call Remote.Script.later_connect) fun r => ?_
    refine bind stays (stays_modify (fun _ => rfl) (fun _ => rfl) fun _ => rfl) fun _ => ?_
    exact bind stays (stays_of_firm (firm_note _)) fun _ => of_pure stays _
  refine bind stays breaker fun breaker => bind stays (of_ofExcept stays _) ?_
  rintro ⟨breaker, notices⟩
  refine bind stays (stays_revisePool _) fun _ => bind stays (told notices) fun _ => ?_
  refine bind stays connected fun r => bind stays (stays_revisePool _) fun _ => ?_
  exact bind stays (told _) fun _ => of_ofExcept stays _

/-- Acquiring a session closes none. -/
theorem stays_acquire (key : LinkKey) : Keeps Stays (acquire key) := by
  refine get_bind fun h => ?_
  split
  · refine bind stays (of_modify fun _ => ?_) fun _ => of_pure stays _
    exact .of_users _ (fun _ => rfl) (fun _ => rfl) fun _ => rfl
  · refine bind stays (stays_connectorFor key) fun url => ?_
    refine bind stays (stays_connectGuarded key) fun n => ?_
    refine bind stays (stays_of_firm (firm_note _)) fun _ => get_bind fun h => ?_
    refine bind stays (of_modify fun _ => .of_open rfl) fun _ => ?_
    refine bind stays (stays_revisePool _) fun _ => ?_
    exact bind stays (stays_of_firm (firm_report _)) fun _ => of_pure stays _

/-- A table gives up a session that is closed already. -/
theorem stays_giveUpSession {h : Host} {t : Nat}
    (closed : ∀ s, (h.table t).session = some s → (h.session s).closed = true) :
    Stays h (h.act (giveUpSession t)).2 := by
  rw [giveUpSession, Host.act_get_bind]
  dsimp only
  cases held : (h.table t).session with
  | none => exact .of_others (.refl _) rfl rfl
  | some s =>
    show Stays h ((h.withSession t none).act (release s true)).2
    have dead : ((h.withSession t none).session s).closed = true := closed s held
    rw [act_release_of_closed dead]
    have users : Stays h { h with sessions := h.sessions.revise s fun session =>
        { session with useCount := session.useCount - 1 } } :=
      .of_users s (fun _ => rfl) (fun _ => rfl) fun _ => rfl
    exact stays.trans users (.of_others (.refl _) rfl rfl)

end Action

/-! ### Acquiring a session -/

/-- Nothing stands in the way of connecting to a target. -/
structure Host.Clear (key : LinkKey) (h : Host) : Prop where
  address : ∃ url, Remote.Url.read key.url = .ok url
  shut : ∀ breaker, h.pool.breakers.value? key = some breaker → breaker.state = .shut
  connectors : ∀ fault, some fault ∉ h.script.connectors
  connects : ∀ fault, some fault ∉ h.script.connects

theorem Host.Clear.guarded {key : LinkKey} {h h' : Host} (clear : h.Clear key)
    (same : Guarded h h') : h'.Clear key where
  address := clear.address
  shut := same.breakers ▸ clear.shut
  connectors fault there := clear.connectors fault (same.script.connectors.subset there)
  connects fault there := clear.connects fault (same.script.connects.subset there)

/-- A breaker that is shut takes the place of another. -/
theorem Host.Clear.of_put {key : LinkKey} {h h' : Host} (clear : h.Clear key)
    {breaker : Remote.Breaker} (shut : breaker.state = .shut)
    (breakers : h'.pool.breakers = h.pool.breakers.put key breaker)
    (script : h.script.Later h'.script) : h'.Clear key := by
  refine ⟨clear.address, ?_, ?_, ?_⟩
  · intro breaker' found
    rw [breakers, Ledger.value?_put_self] at found
    exact Option.some.inj found ▸ shut
  · exact fun fault there => clear.connectors fault (script.connectors.subset there)
  · exact fun fault there => clear.connects fault (script.connects.subset there)

namespace Action

variable {key : LinkKey} {h : Host} (clear : h.Clear key)
include clear

theorem clear_connectorFor :
    Reaches (connectorFor key) h fun r h' => (∃ url, r = .ok url) ∧ h'.Clear key := by
  obtain ⟨url, read⟩ := clear.address
  obtain ⟨url', found⟩ := exists_ofKey read
  refine Reaches.get_bind ?_
  dsimp only
  split
  · exact ⟨⟨_, rfl⟩, clear⟩
  · refine Reaches.bind_ofExcept (fun url made => Reaches.modify_bind (Reaches.fromScript_bind ?_))
      fun fault failed => by rw [found] at failed; cases failed
    have later := Remote.Script.later_connector h.script
    refine Reaches.bind_ofExcept (fun _ _ => Reaches.modify_bind ⟨⟨url, rfl⟩, ?_⟩)
      fun fault failed => absurd (Remote.Script.connector_mem (.refl _) failed)
        (clear.connectors fault)
    exact clear.guarded ⟨rfl, later⟩

theorem clear_breakerFor : Reaches (breakerFor key) h fun r h' =>
    (∃ breaker, r = .ok breaker ∧ breaker.state = .shut) ∧ h'.Clear key := by
  obtain ⟨url, read⟩ := clear.address
  refine Reaches.get_bind ?_
  dsimp only
  split
  next breaker found => exact ⟨⟨breaker, rfl, clear.shut breaker found⟩, clear⟩
  next =>
    refine Reaches.bind_ofExcept (fun url' _ => Reaches.modify_bind ?_)
      fun fault failed => by rw [read] at failed; cases failed
    exact ⟨⟨_, rfl, rfl⟩, clear.of_put rfl rfl (.refl _)⟩

theorem clear_connectOnce :
    Reaches connectOnce h fun r h' => (∃ n, r = .ok (.ok n)) ∧ h'.Clear key := by
  refine Reaches.get_bind (Reaches.fromScript_bind (Reaches.modify_bind (Reaches.modify_bind ?_)))
  cases dialled : h.script.connect.1 with
  | error fault =>
    exact absurd (Remote.Script.connect_mem (.refl _) dialled) (clear.connects fault)
  | ok _ => exact ⟨⟨_, rfl⟩, clear.guarded ⟨rfl, Remote.Script.later_connect h.script⟩⟩

omit clear in
/-- A breaker that is shut lets calls through, and stays shut behind one that succeeded. -/
theorem keeps_clear {breaker : Remote.Breaker} (shut : breaker.state = .shut) {h : Host}
    (clear : h.Clear key) :
    Reaches (keepBreaker key breaker) h fun r h' => r = .ok () ∧ h'.Clear key := by
  exact ⟨rfl, clear.of_put shut rfl (.refl _)⟩

theorem clear_connectGuarded :
    Reaches (connectGuarded key) h fun r h' => (∃ n, r = .ok n) ∧ h'.Clear key := by
  have told (notices : List Notice) {h : Host} (clear : h.Clear key) {β : Type}
      {f : Unit → Action β} {Q : Except Fault β → Host → Prop}
      (next : ∀ h', h'.Clear key → Reaches (f ()) h' Q) : Reaches (reportAll notices >>= f) h Q :=
    Reaches.past (.of_forM notices report_succeeds) (firm_reportAll notices) fun _ h' same =>
      next h' (clear.guarded same.guarded)
  refine Reaches.bind (clear_breakerFor clear) (fun breaker h₁ came => ?_) fun fault h₁ came => ?_
  · obtain ⟨⟨_, e, shut⟩, clear₁⟩ := came
    obtain rfl := Except.ok.inj e
    -- A breaker that is shut lets the connect through as it is.
    have allowed : breaker.allow = .ok (breaker, []) := by
      simp [Remote.Breaker.allow, shut]
    rw [allowed]
    refine Reaches.bind_ofExcept (fun p e => ?_) fun _ e => by cases e
    obtain rfl := Except.ok.inj e
    refine Reaches.bind (keeps_clear shut clear₁) (fun _ h₂ came => ?_) fun fault h₂ came => ?_
    · refine told [] came.2 fun h₃ clear₃ => ?_
      refine Reaches.bind (clear_connectOnce clear₃) (fun r h₄ came => ?_) fun fault h₄ came => ?_
      · obtain ⟨⟨n, e⟩, clear₄⟩ := came
        obtain rfl := Except.ok.inj e
        -- The connect succeeds, so the breaker forgets the failures and stays shut.
        have shut' : ({ breaker with failures := 0 } : Remote.Breaker).state = .shut := shut
        have settled : breaker.settle (fun _ => true) (.ok n : Except Fault Nat)
            = (.ok n, { breaker with failures := 0 }, []) := by
          simp [Remote.Breaker.settle, Remote.Breaker.succeed, shut]
        rw [settled]
        refine Reaches.bind (keeps_clear shut' clear₄) (fun _ h₅ came => ?_) fun fault h₅ came => ?_
        · exact told [] came.2 fun h₆ clear₆ => ⟨⟨n, rfl⟩, clear₆⟩
        · cases came.1
      · obtain ⟨⟨_, e⟩, -⟩ := came
        cases e
    · cases came.1
  · obtain ⟨⟨_, e, -⟩, -⟩ := came
    cases e

/-- A session is to be had. -/
theorem clear_acquire :
    Reaches (acquire key) h fun r h' => (∃ s, r = .ok s) ∧ h'.Clear key := by
  refine Reaches.get_bind ?_
  cases sharedSession? h key with
  | some s => exact Reaches.modify_bind ⟨⟨s, rfl⟩, clear.guarded ⟨rfl, .refl _⟩⟩
  | none =>
    refine Reaches.bind (clear_connectorFor clear) (fun url h₁ came => ?_) fun fault h₁ came => ?_
    · refine Reaches.bind (clear_connectGuarded came.2) (fun n h₂ came => ?_)
        fun fault h₂ came => ?_
      · refine Reaches.past (.of_modify _) (firm_note _) fun _ h₃ same => Reaches.get_bind ?_
        have clear₃ := came.2.guarded same.guarded
        refine Reaches.modify_bind (Reaches.modify_bind ?_)
        refine Reaches.past (report_succeeds _) (firm_report _) fun _ h₄ same => ⟨⟨_, rfl⟩, ?_⟩
        have kept := same.guarded
        refine clear₃.guarded ⟨kept.breakers.trans ?_, kept.script⟩
        dsimp only
        split <;> rfl
      · obtain ⟨⟨_, e⟩, -⟩ := came
        cases e
    · obtain ⟨⟨_, e⟩, -⟩ := came
      cases e

end Action

/-! ### Coming through the handshake -/

/-- The shape of a remote table can be read from a catalog over every session, whichever of the
outcomes that are to come have come. -/
def Catalog.Readable (catalog : Catalog) (d : Definition) (script : Remote.Script) : Prop :=
  ∀ (h : Host) (s : Nat), script.Later h.script →
    ∃ shape, (h.act (readShape d catalog s)).1 = .ok shape

/-- Every handshake of a table succeeds: it has catalogs, all of which can be read. -/
structure LinkedTable.Welcome (table : LinkedTable) (script : Remote.Script) : Prop where
  some : table.catalogs ≠ []
  readable : ∀ catalog ∈ table.catalogs, catalog.Readable table.definition script

/-- A query can be read whatever the catalog is, if nothing goes wrong when it is described. -/
theorem Catalog.readable_of_query (catalog : Catalog) {d : Definition} (query : d.isQuery = true)
    {script : Remote.Script} (silent : script.probes = []) : catalog.Readable d script := by
  intro h s later
  have probes : h.script.probes = [] := List.suffix_nil.mp (silent ▸ later.probes)
  have probe : h.script.probe = (.ok (some []), h.script) := by rw [Remote.Script.probe, probes]
  have described (name : String) {g : Host} (same : g.script = h.script) :
      Reaches (Action.probe s name d.remoteTable) g fun r _ => r = .ok [] := by
    refine Reaches.get_bind (Reaches.modify_bind (Reaches.fromScript_bind ?_))
    dsimp only
    rw [same, probe]
    exact rfl
  show Reaches (readShape d catalog s) h fun r _ => ∃ shape, r = .ok shape
  refine Reaches.modify_bind (Reaches.get_bind ?_)
  dsimp only
  rw [query]
  -- The catalog is asked for nothing.
  refine Reaches.bind (P := fun r g => r = .ok ([], none) ∧ g.script = h.script) ⟨rfl, rfl⟩ ?_
    fun _ _ came => by cases came.1
  rintro _ g ⟨e, same⟩
  obtain rfl := Except.ok.inj e
  refine Reaches.bind (described _ same) ?_ fun _ _ came => by cases came
  intro probed g' came
  exact ⟨_, rfl⟩

/-- The tables have their definitions, and of the catalogs to come the last are left. -/
structure Furnished (h h' : Host) : Prop where
  script : h.script.Later h'.script
  known : h'.tables.next = h.tables.next
  definition : ∀ t, (h'.table t).definition = (h.table t).definition
  fewer : ∀ t, (h'.table t).catalogs <:+ (h.table t).catalogs
  some : ∀ t, (h.table t).catalogs ≠ [] → (h'.table t).catalogs ≠ []

theorem LinkedTable.Welcome.of_furnished {h h' : Host} {t : Nat}
    (welcome : (h.table t).Welcome h.script) (same : Furnished h h') :
    (h'.table t).Welcome h'.script where
  some := same.some t welcome.some
  readable catalog there := by
    rw [same.definition]
    exact fun g s later =>
      welcome.readable catalog ((same.fewer t).subset there) g s (same.script.trans later)

theorem Furnished.of_tables {h h' : Host} (script : h.script.Later h'.script)
    (tables : h'.tables = h.tables) : Furnished h h' := by
  have table (t : Nat) : h'.table t = h.table t := by rw [Host.table, tables]; rfl
  exact ⟨script, congrArg Roster.next tables, fun t => by rw [table],
    fun t => by rewrite [table]; exact List.suffix_rfl, fun t has => by rwa [table]⟩

/-- A table changes, but for its definition, and takes a catalog at most. -/
theorem Furnished.of_revise {h : Host} {u : Nat} {f : LinkedTable → LinkedTable}
    (definition : ∀ table, (f table).definition = table.definition)
    (fewer : (f (h.table u)).catalogs <:+ (h.table u).catalogs)
    (some : (h.table u).catalogs ≠ [] → (f (h.table u)).catalogs ≠ []) :
    Furnished h { h with tables := h.tables.revise u f } := by
  refine ⟨.refl _, Roster.next_revise h.tables u f, fun t => ?_, fun t => ?_, fun t has => ?_⟩
  · rcases h.table_of_revise u t f with e | ⟨-, e⟩
    · rw [e]
    · rw [e, definition]
  · rcases h.table_of_revise u t f with e | ⟨rfl, e⟩
    · rewrite [e]
      exact List.suffix_rfl
    · rwa [e]
  · rcases h.table_of_revise u t f with e | ⟨rfl, e⟩
    · rwa [e]
    · rw [e]
      exact some has

theorem furnished : SessionFrame Furnished where
  refl _ := .of_tables (.refl _) rfl
  trans a b := ⟨a.script.trans b.script, b.known.trans a.known,
    fun t => (b.definition t).trans (a.definition t), fun t => (b.fewer t).trans (a.fewer t),
    fun t has => b.some t (a.some t has)⟩
  calm c := .of_tables (c.script.symm ▸ .refl _) c.tables
  script later := .of_tables later rfl
  session _ := .of_tables (.refl _) rfl
  opened _ := .of_tables (.refl _) rfl

namespace Action

open Keeps

/-- A change of a table that leaves its definition and its catalogs alone. -/
theorem furnished_reviseTable (t : Nat) {f : LinkedTable → LinkedTable}
    (definition : ∀ table, (f table).definition = table.definition)
    (catalogs : ∀ table, (f table).catalogs = table.catalogs) :
    Keeps Furnished (reviseTable t f) :=
  of_modify fun _ => .of_revise definition (by rewrite [catalogs]; exact List.suffix_rfl)
    fun has => by rwa [catalogs]

theorem furnished_nextCatalog (t : Nat) : Keeps Furnished (nextCatalog t) := by
  refine get_bind_at fun h => ?_
  split
  next => exact furnished.refl h
  next => exact furnished.refl h
  next catalog rest more here =>
    refine .of_revise (fun _ => rfl) ?_ fun _ => ?_
    · rw [here]
      exact List.suffix_cons catalog rest
    · rintro rfl
      exact more rfl

theorem furnished_handshake (t s : Nat) : Keeps Furnished (handshake t s) := by
  have F := furnished.toReadFrame
  refine get_bind fun h => bind F.toFrame (furnished_nextCatalog t) fun catalog => ?_
  refine bind F.toFrame (F.readShape _ _ _) fun shape => ?_
  refine bind F.toFrame (furnished_reviseTable t (fun _ => rfl) fun _ => rfl) fun _ => ?_
  refine get_bind fun h => of_ite (furnished_reviseTable t (fun _ => rfl) fun _ => rfl) ?_
  exact of_ite (F.of_report _) (of_pure F.toFrame ())

theorem furnished_giveUpSession (t : Nat) : Keeps Furnished (giveUpSession t) := by
  refine get_bind fun h => bind furnished.toFrame ?_ fun _ => ?_
  · exact furnished_reviseTable t (fun _ => rfl) fun _ => rfl
  · split
    · exact furnished.release _ true
    · exact of_pure furnished.toFrame ()

/-- A table with catalogs takes one of them. -/
theorem exists_nextCatalog {h : Host} {t : Nat} (some : (h.table t).catalogs ≠ []) :
    ∃ catalog ∈ (h.table t).catalogs, (h.act (nextCatalog t)).1 = .ok catalog := by
  rw [nextCatalog, Host.act_get_bind]
  split
  next none => exact absurd none some
  next catalog here => exact ⟨catalog, here ▸ List.mem_cons_self, rfl⟩
  next catalog rest _ here => exact ⟨catalog, here ▸ List.mem_cons_self, rfl⟩

theorem welcome_handshake {h : Host} {t : Nat} (welcome : (h.table t).Welcome h.script) (s : Nat) :
    (h.act (handshake t s)).1 = .ok () := by
  obtain ⟨catalog, there, taken⟩ := exists_nextCatalog welcome.some
  have later := (furnished_nextCatalog t h).script
  generalize took : h.act (nextCatalog t) = p at taken later
  obtain ⟨_, g⟩ := p
  obtain rfl := taken
  obtain ⟨shape, read⟩ := welcome.readable catalog there g s later
  generalize reads : g.act (readShape (h.table t).definition catalog s) = p at read
  obtain ⟨_, g'⟩ := p
  obtain rfl := read
  have settled : Succeeds (do
      reviseTable t fun table => { table with flags := shape.flags }
      let table := (← get).table t
      if table.indexes.isEmpty then reviseTable t (adopted shape)
      else if shape.columnNames ≠ table.columns.map (·.name) then
        report (changedNotice shape table)) :=
    .bind (.of_modify _) fun _ => .get_bind fun _ =>
      .of_ite (.of_modify _) (.of_ite (report_succeeds _) (.of_pure ()))
  obtain ⟨_, done⟩ := settled g'
  rw [handshake, Host.act_get_bind, Host.act_bind_ok h took, Host.act_bind_ok g reads]
  exact done

end Action

/-! ### Connecting a table -/

/-- The session `s` was had for a target, without any harm to others. -/
structure Gained (key : LinkKey) (s : Nat) (h h' : Host) : Prop where
  clear : h'.Clear key
  stays : Stays h h'
  furnished : Furnished h h'
  target : (h'.session s).key = key
  connects : h'.connects ≤ h.connects + 1

/-- Firm work behind a session that was had does it no harm. -/
theorem gained_of_firm {key : LinkKey} {s : Nat} {h g h' : Host} (gained : Gained key s h g)
    (firm' : Firm g h') (same : Furnished g h') (connects : h'.connects = g.connects) :
    Gained key s h h' where
  clear := gained.clear.guarded firm'.guarded
  stays := stays.trans gained.stays firm'.stays
  furnished := furnished.trans gained.furnished same
  target := (firm'.key s).trans gained.target
  connects := connects.symm ▸ gained.connects

/-- The session that is shared under a target is one of the target. -/
def Host.Sorted (key : LinkKey) (h : Host) : Prop :=
  ∀ s, h.lines.shared.value? key = some s → (h.lines.line s).key = key

/-- What is acquired is a session of the target. -/
theorem Lines.Acquires.key {key : LinkKey} {l l' : Lines} {s : Nat}
    (acquires : l.Acquires key (.ok s) l')
    (sorted : ∀ s, l.shared.value? key = some s → (l.line s).key = key) :
    (l'.line s).key = key := by
  cases acquires with
  | shared _ value _ =>
    have own := sorted s value
    rw [Lines.line] at own ⊢
    rw [Lines.withUsers, Roster.at?_revise_self]
    cases found : l.sessions.at? s with
    | none => rwa [found] at own
    | some line => rwa [found] at own
  | opened _ =>
    have found := Roster.at?_join_next l.sessions (⟨key, l.connects + 1, 1, false⟩ : Line)
    exact congrArg (fun found : Option Line => (found.getD default).key) found

namespace Action

open Keeps

variable {key : LinkKey} {h : Host} {t : Nat} (clear : h.Clear key) (sorted : h.Sorted key)
include clear sorted

theorem gained_acquire :
    Reaches (acquire key) h fun r h' => ∃ s, r = .ok s ∧ Gained key s h h' := by
  have lines := lines_acquire key h
  obtain ⟨⟨s, came⟩, clear'⟩ := clear_acquire clear
  rw [Reaches, came] at lines
  have target : ((h.act (acquire key)).2.session s).key = key := by
    have own := Lines.Acquires.key lines sorted
    rwa [Host.lines_line] at own
  exact ⟨s, came, clear', stays_acquire key h, furnished.acquire key h, target,
    lines.steps.connects⟩

variable (target : (h.table t).definition.key = key) (welcome : (h.table t).Welcome h.script)
include target welcome

theorem gained_attemptConnect :
    Reaches (attemptConnect t) h fun r h' => ∃ s, r = .ok (.ok s) ∧ Gained key s h h' := by
  refine Reaches.get_bind ?_
  dsimp only
  rw [target]
  refine Reaches.outcome_bind (gained_acquire clear sorted) ?_
  rintro _ g ⟨s, rfl, gained⟩
  have shaken := welcome_handshake (welcome.of_furnished gained.furnished) s
  refine Reaches.outcome_bind (P := fun r h' => r = .ok () ∧ Gained key s h h')
    ⟨shaken, gained_of_firm gained (firm_handshake t s g) (furnished_handshake t s g) ?_⟩ ?_
  · exact congrArg Lines.connects (lines_handshake t s g)
  · rintro _ h' ⟨rfl, gained⟩
    exact ⟨s, rfl, gained⟩

/-- A table is connected at the first attempt. -/
theorem clear_connect :
    Reaches (connect t) h fun r h' => ∃ s, r = .ok s ∧ Gained key s h h' := by
  let g : Host := { h with tables := h.tables.revise t fun table => { table with failure := none } }
  have same : Furnished h g :=
    .of_revise (fun _ => rfl) List.suffix_rfl id
  have forgot : Firm h g := .of_others (.refl _) rfl rfl rfl rfl
  refine Reaches.modify_bind (Reaches.bind (gained_attemptConnect (clear.guarded forgot.guarded)
    sorted (same.definition t ▸ target) (welcome.of_furnished same)) (h := g) ?_ ?_)
  · rintro _ g' ⟨s, e, gained⟩
    obtain rfl := Except.ok.inj e
    have held : Furnished g' { g' with
        tables := g'.tables.revise t fun table => { table with session := some s } } :=
      .of_revise (fun _ => rfl) List.suffix_rfl id
    refine ⟨s, rfl, ?_⟩
    have gained : Gained key s h g' := ⟨gained.clear, stays.trans forgot.stays gained.stays,
      furnished.trans same gained.furnished, gained.target, gained.connects⟩
    exact gained_of_firm gained (.of_others (.refl _) rfl rfl rfl rfl) held rfl
  · rintro _ _ ⟨_, e, -⟩
    cases e

end Action

end LinkedTables
