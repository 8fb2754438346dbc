import LinkedTables.Proofs.UnreadyLink

/-!
# Links that have been closed

Closing the link of a table, or removing the table, lets its session go for good: the table holds no
session until it is connected by a call (`severed_of_closing`). What was open for it can still be
brought to an end, which closes results and does nothing else on the remote side (`Unwinds`): a
statement that is handed back is closed, and a cursor reads what has arrived. Whatever is begun
anew is refused (`refusal_of_closed`).
-/

namespace LinkedTables

/-- A result is closed. -/
def Event.Closes : Event → Prop
  | resultClosed .. => True
  | _ => False

/-- Nothing happens on the remote side but that results are closed, and neither the tables nor the
sessions with their statements change. -/
structure Unwinds (h h' : Host) : Prop where
  journal : ∃ events, h'.journal = events ++ h.journal ∧ ∀ event ∈ events, event.Closes
  sessions : h'.sessions = h.sessions
  tables : h'.tables = h.tables
  cursors : ∀ c, (h'.cursor c).table = (h.cursor c).table

theorem unwinds : Frame Unwinds where
  refl _ := ⟨⟨[], rfl, nofun⟩, rfl, rfl, fun _ => rfl⟩
  trans := by
    rintro h h' h'' ⟨⟨events, e, closing⟩, sessions, tables, cursors⟩
      ⟨⟨events', e', closing'⟩, sessions', tables', cursors'⟩
    refine ⟨⟨events' ++ events, by rw [e', e, List.append_assoc], fun event among => ?_⟩,
      sessions'.trans sessions, tables'.trans tables, fun c => (cursors' c).trans (cursors c)⟩
    rcases List.mem_append.mp among with among | among
    · exact closing' event among
    · exact closing event among

theorem Unwinds.of_same {h h' : Host} (journal : h'.journal = h.journal)
    (sessions : h'.sessions = h.sessions) (tables : h'.tables = h.tables)
    (cursors : h'.cursors = h.cursors) : Unwinds h h' :=
  ⟨⟨[], journal, nofun⟩, sessions, tables, fun c => by rw [Host.cursor, cursors]; rfl⟩

namespace Action

open Keeps

theorem unwinds_reviseCursor (c : Nat) {f : Cursor → Cursor}
    (own : ∀ cursor, (f cursor).table = cursor.table) : Keeps Unwinds (reviseCursor c f) := by
  refine of_modify fun h => ⟨⟨[], rfl, nofun⟩, rfl, rfl, fun c' => ?_⟩
  simp only [Host.cursor, Roster.at?_revise]
  split
  · cases h.cursors.at? c' with
    | none => rfl
    | some cursor => exact own cursor
  · rfl

theorem unwinds_closeResult (st : Nat) : Keeps Unwinds (closeResult st) := by
  refine get_bind fun h => ?_
  split
  · exact of_pure unwinds ()
  · have closing (n : Nat) (r : Option Nat) : Keeps Unwinds (note (.resultClosed n r)) :=
      of_modify fun _ =>
        ⟨⟨[_], rfl, fun _ among => List.mem_singleton.mp among ▸ trivial⟩, rfl, rfl, fun _ => rfl⟩
    exact bind unwinds (closing _ _) fun _ =>
      bind unwinds (of_modify fun _ => .of_same rfl rfl rfl rfl) fun _ =>
        of_modify fun _ => .of_same rfl rfl rfl rfl

theorem unwinds_closeStatement (st : Nat) : Keeps Unwinds (closeStatement st) :=
  bind unwinds (unwinds_closeResult st) fun _ => of_modify fun _ => .of_same rfl rfl rfl rfl

theorem unwinds_fetch (r : Nat) : Keeps Unwinds (fetch r) := by
  refine get_bind fun h => ?_
  dsimp only
  split
  · exact of_pure unwinds none
  next row rest _ =>
    have taken : Keeps Unwinds (reviseResult r fun result => { result with rows := rest }) :=
      of_modify fun _ => .of_same rfl rfl rfl rfl
    refine of_ite (of_throw unwinds _) (bind unwinds taken fun _ => ?_)
    cases row with
    | ok values => exact of_pure unwinds _
    | error fault => exact of_throw unwinds fault

end Action

/-! ### Tables without a session -/

/-- The table `t` is there and holds no session, and its link cannot be used. -/
structure Host.Severed (t : Nat) (failure : LinkFault) (h : Host) : Prop
    extends h.Unready t failure where
  lost : (h.table t).session = none

namespace Host

open LinkedTables.Action

variable {h : Host} {t : Nat} {failure : LinkFault}

theorem Severed.rests {h' : Host} (severed : h.Severed t failure) (kept : Rests t failure h h') :
    h'.Severed t failure :=
  have kept := kept severed.toUnready
  { kept.1 with lost := kept.2 severed.lost }

theorem Severed.unwinds {h' : Host} (severed : h.Severed t failure) (kept : Unwinds h h') :
    h'.Severed t failure :=
  severed.rests (.of_tables kept.tables)

/-! ### What was open -/

/-- Without a session there is no one to keep a statement. -/
theorem act_handBack_lost (lost : (h.table t).session = none) (st : Nat) (sql : String) :
    h.act (handBack t st sql) = h.act (closeStatement st) := by
  rw [handBack, act_get_bind, lost]

theorem result_of_closeResult {st : Nat} (known : st < h.statements.next) :
    ((h.act (closeResult st)).2.statement st).result = none := by
  rw [closeResult, act_get_bind]
  split
  next none => exact none
  next r _ =>
    have closed := statement_of_revise_self (h := { h with
        journal := .resultClosed (h.result r).connection (some r) :: h.journal
        results := h.results.revise r fun result => { result with closed := true } }) known
      fun statement => { statement with result := none }
    exact congrArg Statement.result closed

theorem statement_of_closeStatement {st : Nat} (known : st < h.statements.next) :
    ((h.act (closeStatement st)).2.statement st).closed = true
      ∧ ((h.act (closeStatement st)).2.statement st).result = none := by
  have known' : st < (h.act (closeResult st)).2.statements.next :=
    Nat.lt_of_lt_of_le known (calm_closeResult st h).shelved.next
  have none := result_of_closeResult known
  obtain ⟨_, ok⟩ := closeResult_succeeds st h
  have behind : (h.act (closeStatement st)).2
      = { (h.act (closeResult st)).2 with
        statements := (h.act (closeResult st)).2.statements.revise st fun statement =>
          { statement with closed := true } } := by
    rw [closeStatement, act_bind_ok h (Prod.ext ok rfl)]
    rfl
  rw [behind, statement_of_revise_self known']
  exact ⟨rfl, none⟩

/-- What a cursor reads has arrived. -/
theorem unwinds_readNext (severed : h.Severed t failure) (c : Nat) {cursor : Cursor}
    (own : cursor.table = t) (st r : Nat) : Unwinds h (h.act (readNext c cursor st r)).2 := by
  have fetched := unwinds_fetch r h
  have ended : Keeps Unwinds (endCursor c) := unwinds_reviseCursor c fun _ => rfl
  rw [readNext, act_outcome_bind]
  generalize h.act (fetch r) = p at fetched ⊢
  obtain ⟨found, g⟩ := p
  refine unwinds.trans fetched ?_
  have severed := severed.unwinds fetched
  rcases found with fault | _ | row
  · exact Keeps.bind unwinds ended (fun _ => Keeps.bind unwinds (unwinds_closeStatement st)
      fun _ => Keeps.of_throw unwinds fault) g
  · -- The table is looked at behind the end of the cursor, which has not changed it.
    have lost := (severed.unwinds (ended g)).lost
    have behind : g.act (endCursor c) = (.ok (), (g.act (endCursor c)).2) := rfl
    refine unwinds.trans (ended g) ?_
    show Unwinds _ (g.act (endCursor c >>= fun _ => handBack cursor.table st cursor.sql >>= fun _ =>
      pure none)).2
    rw [act_bind_ok g behind, snd_act_map _ (handBack cursor.table st cursor.sql) fun _ => none,
      own, act_handBack_lost lost]
    exact unwinds_closeStatement st _
  · exact unwinds.refl g

/-- A cursor of the table goes on with what has arrived, or cannot begin. -/
theorem unwinds_next (severed : h.Severed t failure) {c : Nat} (own : (h.cursor c).table = t) :
    Unwinds h (h.act (next c)).2 := by
  cases phase : (h.cursor c).phase with
  | ended =>
    rw [next, act_get_bind]
    dsimp only
    rw [phase]
    exact unwinds.refl h
  | reading st r =>
    rw [next, act_get_bind]
    dsimp only
    rw [phase]
    exact unwinds_readNext severed c own st r
  | fresh =>
    rw [act_next_unready phase (own ▸ severed.refuses)]
    have ended : Keeps Unwinds (endCursor c) := unwinds_reviseCursor c fun _ => rfl
    exact ended h

theorem unwinds_drainFrom (severed : h.Severed t failure) {c : Nat} (own : (h.cursor c).table = t)
    (fuel : Nat) : Unwinds h (h.act (drainFrom c fuel)).2 := by
  induction fuel generalizing h with
  | zero => exact unwinds.refl h
  | succ fuel ih =>
    have step := unwinds_next severed own
    rw [drainFrom, act_bind]
    generalize h.act (next c) = p at step ⊢
    obtain ⟨fault | _ | row, g⟩ := p
    · exact step
    · exact step
    · refine unwinds.trans step ?_
      show Unwinds g (g.act (drainFrom c fuel >>= fun rows => pure (row :: rows))).2
      rw [snd_act_map g (drainFrom c fuel) fun rows => row :: rows]
      exact ih (severed.unwinds step) ((step.cursors c).trans own)

theorem unwinds_drain (severed : h.Severed t failure) {c : Nat} (own : (h.cursor c).table = t) :
    Unwinds h (h.act (drain c)).2 := by
  have step := unwinds_next severed own
  rw [drain, act_bind]
  generalize h.act (next c) = p at step ⊢
  obtain ⟨fault | _ | row, g⟩ := p
  · exact step
  · exact step
  · refine unwinds.trans step ?_
    show Unwinds g (g.act (drainFrom c (remaining g c + 1) >>= fun rows => pure (row :: rows))).2
    rw [snd_act_map g (drainFrom c (remaining g c + 1)) fun rows => row :: rows]
    exact unwinds_drainFrom (severed.unwinds step) ((step.cursors c).trans own) _

/-- A cursor that is given up closes its statement. -/
theorem unwinds_closeCursor (h : Host) (c : Nat) : Unwinds h (h.act (closeCursor c)).2 := by
  have ended : Keeps Unwinds (endCursor c) := unwinds_reviseCursor c fun _ => rfl
  have closing : Keeps Unwinds (closeCursor c) := by
    refine Keeps.get_bind fun h => Keeps.bind unwinds ended fun _ => ?_
    split
    · exact unwinds_closeStatement _
    · exact Keeps.of_pure unwinds ()
  exact closing h

/-- A statement that is handed back is closed, and so is its result. -/
theorem closes_handBack (severed : h.Severed t failure) {st : Nat} (known : st < h.statements.next)
    (sql : String) :
    ∃ g, h.act (handBack t st sql) = (.ok (), g) ∧ Unwinds h g
      ∧ (g.statement st).closed = true ∧ (g.statement st).result = none := by
  have given := act_handBack_lost severed.lost st sql
  obtain ⟨_, ok⟩ := closeStatement_succeeds st h
  obtain ⟨closed, none⟩ := statement_of_closeStatement known
  exact ⟨_, given.trans (Prod.ext ok rfl), unwinds_closeStatement st h, closed, none⟩

end Host

/-! ### Closing -/

/-- The operation closes the link of the table `t` of a host, or removes the table. -/
def Operation.Closes (t : Nat) (h : Host) : Operation → Prop
  | closeLink u => u = t
  | o => o.Removes t h

namespace Host

open LinkedTables.Action

variable {h : Host} {t : Nat} {failure : LinkFault}

theorem Severed.act_bind {α β : Type} {x : Action α} {f : α → Action β}
    (severed : (h.act x).2.Severed t failure) (rest : ∀ a, Keeps (Rests t failure) (f a)) :
    (h.act (x >>= f)).2.Severed t failure := by
  rw [Host.act_bind]
  generalize h.act x = p at severed ⊢
  obtain ⟨fault | a, h'⟩ := p
  · exact severed
  · exact severed.rests (rest a h')

/-- A table that lets go of its session is severed, whether it remembers a failure or not. -/
theorem severed_of_letGo (known : t < h.tables.next) :
    ∃ failure, ({ h with
      tables := h.tables.revise t fun table => { table with session := none } } : Host).Severed t
        failure := by
  let lost : Host :=
    { h with tables := h.tables.revise t fun table => { table with session := none } }
  have none : (lost.table t).session = none := by
    rcases h.table_of_revise t t fun table => { table with session := none } with e | ⟨-, e⟩
    · -- Only a table that is not there stays as it is.
      obtain ⟨table, found⟩ : ∃ table, h.tables.at? t = some table :=
        ⟨_, List.getElem?_eq_getElem known⟩
      simp only [lost, Host.table, Roster.at?_revise_self, found]
      rfl
    · rw [e]
  have refuses : ∃ failure, readySession (lost.table t) = .error (.link failure) := by
    rw [readySession, none]
    cases (lost.table t).failure with
    | none => exact ⟨_, rfl⟩
    | some failure => exact ⟨failure, rfl⟩
  obtain ⟨failure, refuses⟩ := refuses
  have known : t < lost.tables.next := (Roster.next_revise h.tables t _).symm ▸ known
  exact ⟨failure, ⟨known, refuses⟩, none⟩

theorem severed_of_closeLink (known : t < h.tables.next) :
    ∃ failure, (h.act (closeLink t)).2.Severed t failure := by
  obtain ⟨failure, severed⟩ := severed_of_letGo known
  refine ⟨failure, ?_⟩
  rw [closeLink, act_get_bind]
  refine severed.act_bind (x := reviseTable t fun table => { table with session := none })
    fun _ => ?_
  split
  · exact (restsUse t failure).toSessionFrame.release _ false
  · exact Keeps.of_pure (rests t failure) ()

theorem severed_of_removeTable (known : t < h.tables.next) :
    ∃ failure, (h.act (removeTable t)).2.Severed t failure := by
  obtain ⟨failure, severed⟩ := severed_of_closeLink known
  have removed : Keeps (Rests t failure)
      (reviseTable t fun table => { table with indexes := [], valid := false }) :=
    Keeps.of_modify fun _ => .of_revise fun _ refuses => ⟨refuses, id⟩
  refine ⟨failure, severed.act_bind fun _ => Keeps.bind (rests t failure) removed fun _ => ?_⟩
  exact Keeps.get_bind fun _ => (restsUse t failure).of_calm (calm_report _)

theorem severed_of_dropTable {schema name : String} {variant : Variant Nat}
    (known : t < h.tables.next) (found : h.registry.value? (schema, name) = some variant)
    (own : variant.table = t) :
    ∃ failure, (h.act (dropTable schema name)).2.Severed t failure := by
  subst own
  let dropped : Host := { h with registry := h.registry.drop (schema, name) }
  obtain ⟨failure, severed⟩ := severed_of_removeTable (h := dropped) known
  rw [dropTable, act_get_bind, Registry.remove, found]
  have noticed : ∀ _ : Unit, Keeps (Rests variant.table failure)
      (report (Registry.notice "Dropped" schema variant)) :=
    fun _ => (restsUse variant.table failure).of_calm (calm_report _)
  exact ⟨failure, severed.act_bind noticed⟩

/-- Closing severs a table. -/
theorem severed_of_closing {closing : Operation} (known : t < h.tables.next)
    (closes : closing.Closes t h) : ∃ failure, (h.perform closing).2.Severed t failure := by
  have silent {x : Action Unit} (severed : ∃ failure, (h.act x).2.Severed t failure) :
      ∃ failure, (h.act (silently x)).2.Severed t failure := by
    rwa [silently, snd_act_map]
  cases closing with
  | closeLink u =>
    obtain rfl : u = t := closes
    exact silent (severed_of_closeLink known)
  | removeTable u =>
    obtain rfl : u = t := closes
    exact silent (severed_of_removeTable known)
  | dropTable schema name =>
    obtain ⟨variant, found, own⟩ := closes
    exact silent (severed_of_dropTable known found own)
  | _ => exact closes.elim

/-- Closing is final. Once the link of a table has been closed, or the table removed, and until it is
connected by a call, every access to it is refused with a failure of the link, and nothing happens
to the host but that a command is begun or a cursor opened. A cursor that was opened before sends
nothing when it is read or given up, and cannot begin; a statement that was kept is closed when it
is handed back, and not kept for later. -/
theorem refusal_of_closed {h made : Host} {schema name : String} {id : Int} {d : Definition}
    {fetchSize : Nat} {catalogs : List Catalog} {t : Nat} {closing : Operation}
    {before later : List Call}
    (created : h.perform (.createTable (.unconnected schema id name d fetchSize catalogs))
      = (.ok (.table t), made))
    (closes : closing.Closes t (made.afterCalls before))
    (apart : ∀ call ∈ later, ¬ call.Connects t) :
    let closed := ((made.afterCalls before).perform closing).2.afterCalls later
    (∀ a : Access, a.Fits (closed.table t) → ∃ failure cancelled cursors,
      closed.act (a.perform t) = (.error (.link failure), { closed with cancelled, cursors }))
    ∧ (∀ c, (closed.cursor c).table = t →
      Unwinds closed (closed.act (next c)).2 ∧ Unwinds closed (closed.act (drain c)).2
        ∧ Unwinds closed (closed.act (closeCursor c)).2
        ∧ ((closed.cursor c).phase = .fresh →
          ∃ failure, (closed.act (next c)).1 = .error (.link failure)))
    ∧ (∀ st sql, st < closed.statements.next → ∃ g, closed.act (handBack t st sql) = (.ok (), g)
      ∧ Unwinds closed g ∧ (g.statement st).closed = true ∧ (g.statement st).result = none) := by
  intro closed
  have columned := columned_of_calls rfl created before
  obtain ⟨failure, severed⟩ := severed_of_closing columned.known closes
  have severed : closed.Severed t failure := severed.rests (rests_calls _ apart)
  have columned : closed.Columned t :=
    (numbersLife t).calls _ later ((numbersLife t).operation closing _ columned)
  refine ⟨fun a fits => ?_, fun c own => ⟨unwinds_next severed own, unwinds_drain severed own,
    unwinds_closeCursor closed c, fun fresh => ?_⟩, fun st sql known =>
      closes_handBack severed known sql⟩
  · obtain ⟨cancelled, cursors, refused⟩ := act_access severed.refuses columned.numbered fits
    obtain ⟨f, link⟩ := (OnLink.checks a (closed.table t)).firstFault failure
    exact ⟨f, cancelled, cursors, refused.trans (by rw [link])⟩
  · rw [act_next_unready fresh (own ▸ severed.refuses)]
    exact ⟨failure, rfl⟩

/-- A table is removed while a scan of it is read and a statement kept. -/
theorem refusal_of_removed :
    let table := LinkedTable.unconnected "PUBLIC" 1 "FIRST" .bare 100 [Catalog.listing ["a"]]
    let script : Remote.Script :=
      { Remote.Script.quiet with answers := [.ok ⟨[.ok [.int 1], .ok [.int 2]], false⟩] }
    let made := ((start script (.bare false) .error).perform (.createTable table)).2
    let used := made.afterCalls [.operation (.openScan 0 none), .operation (.next 0),
      .operation (.execute 0 none "SELECT 1" [] true)]
    let removed := (used.perform (.removeTable 0)).2.afterCalls [.access 0 (.scan none)]
    (∃ failure cancelled cursors, removed.act ((Access.readIndex none).perform 0)
      = (.error (.link failure), { removed with cancelled, cursors }))
    ∧ (removed.cursor 0).phase = .reading 0 0 ∧ Unwinds removed (removed.act (next 0)).2
    ∧ ∃ g, removed.act (handBack 0 1 "SELECT 1") = (.ok (), g) ∧ (g.statement 1).closed = true := by
  intro table script made used removed
  have created : (start script (.bare false) .error).perform (.createTable table)
      = (.ok (.table 0), made) :=
    Prod.ext (Reply.eq_table (by decide +kernel)) rfl
  have closes : (Operation.removeTable 0).Closes 0 used := (rfl : 0 = 0)
  have apart : ∀ call ∈ [Call.access 0 (.scan none)], ¬ call.Connects 0 := by
    rintro call among
    cases List.mem_singleton.mp among
    exact id
  obtain ⟨refused, read, given⟩ := refusal_of_closed created closes apart
  have own : (removed.cursor 0).table = 0 := by decide +kernel
  have kept : 1 < removed.statements.next := by decide +kernel
  have reading : (removed.cursor 0).phase = .reading 0 0 := by decide +kernel
  obtain ⟨g, handed, -, closed, -⟩ := given 1 "SELECT 1" kept
  exact ⟨refused (.readIndex none) trivial, reading, (read 0 own).1, g, handed, closed⟩

end Host

end LinkedTables
