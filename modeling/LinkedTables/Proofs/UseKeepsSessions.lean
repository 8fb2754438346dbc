import LinkedTables.Proofs.StatementsHealLinks

/-!
# Tables that thrive

Where nothing fails for a target, the use of one of its tables leaves everything fair, whatever
comes of it: no table loses an open session, and if a statement was sent for the table it holds an
open session itself (`Thrives`).
-/

namespace LinkedTables

open LinkedTables.Action

/-! ### The relation -/

/-- The table `t` holds an open session. -/
def Host.InTouch (t : Nat) (h : Host) : Prop :=
  ∃ s, (h.table t).session = some s ∧ (h.session s).closed = false

/-- The cursor `c` reads from the table `t`, over a statement that is there. -/
def Host.ReadsFrom (t c : Nat) (h : Host) : Prop :=
  (h.cursor c).table = t ∧ ∀ st r, (h.cursor c).phase = .reading st r → st < h.statements.next

/-- Nothing fails for a target and its table `t`, which is used through the cursor `c`, if any. -/
structure Host.Serene (key : LinkKey) (t : Nat) (c : Option Nat) (h : Host) : Prop
    extends h.Fair key where
  has : h.Has key t
  reads : ∀ c', c = some c' → h.ReadsFrom t c'

/-- The table `t` has been used where everything was serene. -/
structure Prospers (key : LinkKey) (t : Nat) (c : Option Nat) (h h' : Host) : Prop where
  serene : h'.Serene key t c
  steadfast : Steadfast h h'
  inTouch : h'.sent = h.sent ∨ h'.InTouch t

/-- Everything stays fair, no table loses an open session, and the table `t` holds one if anything
was sent. -/
def Thrives (key : LinkKey) (t : Nat) (c : Option Nat) (h h' : Host) : Prop :=
  h.Serene key t c → Prospers key t c h h'

/-- Statements were worked with, and none was sent. -/
structure Mute (h h' : Host) : Prop extends Slight h h' where
  sent : h'.sent = h.sent

theorem Steadfast.inTouch {t : Nat} {h h' : Host} (same : Steadfast h h')
    (linked : h.InTouch t) : h'.InTouch t :=
  have ⟨s, held, isOpen⟩ := linked
  ⟨s, same t s held isOpen⟩

theorem mute : Frame Mute where
  refl h := ⟨slight.refl h, rfl⟩
  trans a b := ⟨slight.trans a.toSlight b.toSlight, b.sent.trans a.sent⟩

section Thriving

variable {key : LinkKey} {t : Nat} {c : Option Nat}

theorem thrives (key : LinkKey) (t : Nat) (c : Option Nat) : Frame (Thrives key t c) where
  refl h serene := ⟨serene, steadfast.refl h, .inl rfl⟩
  trans {h g h'} a b serene := by
    obtain ⟨serene, kept, linked⟩ := a serene
    obtain ⟨serene, kept', linked'⟩ := b serene
    refine ⟨serene, steadfast.trans kept kept', ?_⟩
    -- A table that has come to an open session does not lose it.
    rcases linked' with same | linked'
    · rcases linked with same' | linked
      · exact .inl (same.trans same')
      · exact .inr (kept'.inTouch linked)
    · exact .inr linked'

theorem Host.ReadsFrom.of_cursors {h h' : Host} {c : Nat} (reads : h.ReadsFrom t c)
    (cursors : h'.cursors = h.cursors) (statements : h.statements.next ≤ h'.statements.next) :
    h'.ReadsFrom t c := by
  have cursor : h'.cursor c = h.cursor c := by rw [Host.cursor, cursors]; rfl
  rw [ReadsFrom, cursor]
  exact ⟨reads.1, fun st r phase => Nat.lt_of_lt_of_le (reads.2 st r phase) statements⟩

theorem Fares.serene {h h' : Host} (serene : h.Serene key t c) (fares : Fares key h h') :
    h'.Serene key t c where
  toFair := fares.fair
  has := serene.has.of_furnished fares.furnished
  reads c' own := (serene.reads c' own).of_cursors fares.cursors fares.statements

theorem Mute.thrives {h h' : Host} (same : Mute h h') : Thrives key t c h h' := fun serene =>
  ⟨(serene.toFair.fares same.toSlight).serene serene, same.steadfast, .inl same.sent⟩

namespace Action

variable {α β : Type}

open Keeps

/-! ### Work that sends nothing -/

theorem mute_of {x : Action α} (calm : Keeps Calm x) (firm : Keeps Firm x) : Keeps Mute x :=
  fun h => ⟨slight_of calm firm h, (calm h).sent⟩

theorem thrives_of_mute {x : Action α} (hx : Keeps Mute x) : Keeps (Thrives key t c) x :=
  hx.mono fun _ _ same => same.thrives

/-- A change of what neither tables nor sessions nor statements depend on. -/
theorem mute_modify {f : Host → Host} (script : ∀ h, (f h).script = h.script)
    (pool : ∀ h, (f h).pool = h.pool) (cursors : ∀ h, (f h).cursors = h.cursors)
    (sessions : ∀ h, (f h).sessions = h.sessions)
    (statements : ∀ h, (f h).statements = h.statements) (tables : ∀ h, (f h).tables = h.tables)
    (sent : ∀ h, (f h).sent = h.sent) : Keeps Mute (modify f) :=
  of_modify fun h => ⟨⟨.of_others (script h ▸ .refl _) (pool h) (cursors h) (sessions h)
    (statements h), tables h⟩, sent h⟩

theorem mute_closeStatement (st : Nat) : Keeps Mute (closeStatement st) :=
  mute_of (calm_closeStatement st) (firm_closeStatement st)

theorem mute_fetch (r : Nat) : Keeps Mute (fetch r) := mute_of (calm_fetch r) (firm_fetch r)

theorem mute_checkChange (u : Nat) : Keeps Mute (checkChange u) :=
  get_bind fun _ => bind mute (of_ofExcept mute _) fun _ => of_ofExcept mute _

theorem mute_checkCancelled : Keeps Mute checkCancelled := get_bind fun _ => of_ofExcept mute _

theorem mute_beginCommand (cancelled : Bool) : Keeps Mute (beginCommand cancelled) :=
  mute_modify (fun _ => rfl) (fun _ => rfl) (fun _ => rfl) (fun _ => rfl) (fun _ => rfl)
    (fun _ => rfl) fun _ => rfl

theorem mute_recordChange (client : Nat) (record : UndoRecord) :
    Keeps Mute (recordChange client record) :=
  mute_modify (fun _ => rfl) (fun _ => rfl) (fun _ => rfl) (fun _ => rfl) (fun _ => rfl)
    (fun _ => rfl) fun _ => rfl

/-- Nothing is sent when a statement is handed back. -/
theorem sent_handBack (u st : Nat) (sql : String) :
    Keeps (fun h h' => h'.sent = h.sent) (handBack u st sql) := by
  have same : Frame fun h h' : Host => h'.sent = h.sent := ⟨fun _ => rfl, fun a b => b.trans a⟩
  have closed {x : Action Unit} (hx : Keeps Calm x) : Keeps (fun h h' => h'.sent = h.sent) x :=
    hx.mono fun _ _ kept => kept.sent
  refine get_bind fun h => ?_
  split
  · exact closed (calm_closeStatement st)
  · refine of_ite (closed (calm_closeStatement st)) ?_
    refine bind same (closed (calm_closeResult st)) fun _ => get_bind fun h => ?_
    dsimp only
    refine of_ite (closed (calm_closeStatement st)) ?_
    refine bind same (of_modify fun _ => rfl) fun _ => ?_
    split
    · exact of_ite (closed (calm_closeStatement _)) (of_pure same ())
    · exact of_pure same ()

/-- A statement that is there is handed back. -/
theorem mute_handBack {h : Host} {st : Nat} (there : st < h.statements.next) (u : Nat)
    (sql : String) : Mute h (h.act (handBack u st sql)).2 :=
  ⟨⟨firm_handBack there u sql, tablesUse.handBack u st sql h⟩, sent_handBack u st sql h⟩

/-- A statement that is there is handed back, and a value is returned. -/
theorem mute_handBack_pure {h : Host} {st : Nat} (there : st < h.statements.next) (u : Nat)
    (sql : String) (a : α) : Mute h (h.act (handBack u st sql >>= fun _ => pure a)).2 := by
  have handed := mute_handBack there u sql
  rw [Host.act_bind]
  generalize h.act (handBack u st sql) = p at handed ⊢
  obtain ⟨_ | _, _⟩ := p <;> exact handed

theorem thrives_inLink (name : String) {x : Action α} (hx : Keeps (Thrives key t c) x) :
    Keeps (Thrives key t c) (inLink name x) :=
  of_inLink (thrives key t c)
    (fun _ _ => Mute.thrives ⟨⟨.of_others (.refl _) rfl rfl rfl rfl, rfl⟩, rfl⟩) name hx

/-! ### Statements -/

section Statements

variable (sql : String) (params : List Value) (client : Option Nat)

/-- A statement for a table that is not ready is refused. -/
theorem act_execute_unready {h : Host} {fault : Fault}
    (unready : readySession (h.table t) = .error fault) :
    h.act (execute t sql params client) = (.error fault, h) := by
  have required : h.act (requireSession t) = (.error fault, h) := by
    rw [requireSession, Host.act_get_bind, unready]
    rfl
  rw [execute, Host.act_bind_error h required]

/-- Whatever comes of a statement, everything is serene behind it, and if it is executed the table
holds an open session. -/
theorem prospers_execute {h : Host} (serene : h.Serene key t c) :
    Reaches (execute t sql params client) h fun r h' =>
      Prospers key t c h h' ∧ ∀ st, r = .ok st → st < h'.statements.next := by
  have failed {fault : Fault} : Prospers key t c h h ∧
      ∀ st, (.error fault : Except Fault Nat) = .ok st → st < h.statements.next :=
    ⟨(thrives key t c).refl h serene, nofun⟩
  cases ready : readySession (h.table t) with
  | error fault =>
    rw [Reaches, act_execute_unready sql params client ready]
    exact failed
  | ok s =>
    cases bound : params.mapM (h.converted client) with
    | error fault =>
      have unbound : h.act (attemptExecute t s sql params client) = (.error fault, h) :=
        Host.act_bind_error h ((Host.act_convert ..).trans (congrArg (·, h) bound))
      rw [Reaches, execute, Host.act_bind_ok h (act_requireSession ready), maxRetry, executeFrom,
        Host.act_bind_error h unbound]
      exact failed
    | ok values =>
      obtain ⟨st, z, n, h', ran, -, executed⟩ :=
        executed_execute serene.toFair bound serene.has ready sql
      have held := (readySession_eq_ok.mp executed.ready).2
      rw [Reaches, ran]
      refine ⟨⟨executed.toFares.serene serene, executed.steadfast,
        .inr ⟨z, held, executed.isOpen⟩⟩, ?_⟩
      rintro _ ⟨⟩
      exact executed.there

/-- What is done with the outcome of a statement, which is there if it was executed. -/
theorem thrives_outcome_execute {f : Except Fault Nat → Action β}
    (hf : ∀ st g, st < g.statements.next → Thrives key t c g (g.act (f (.ok st))).2)
    (error : ∀ fault, Keeps (Thrives key t c) (f (.error fault))) :
    Keeps (Thrives key t c) (outcome (execute t sql params client) >>= f) := by
  intro h serene
  refine Reaches.outcome_bind (Q := fun _ h' => Prospers key t c h h')
    (prospers_execute sql params client serene) ?_
  rintro (fault | st) g ⟨came, there⟩
  · exact (thrives key t c).trans (fun _ => came) (error fault g) serene
  · exact (thrives key t c).trans (fun _ => came) (hf st g (there st rfl)) serene

theorem thrives_execute_bind {f : Nat → Action β} (hf : ∀ st g, st < g.statements.next →
    Thrives key t c g (g.act (f st)).2) :
    Keeps (Thrives key t c) (execute t sql params client >>= f) := by
  intro h serene
  refine Reaches.bind (Q := fun _ h' => Prospers key t c h h')
    (prospers_execute sql params client serene) (fun st g came => ?_) fun _ _ came => came.1
  exact (thrives key t c).trans (fun _ => came.1) (hf st g (came.2 st rfl)) serene

theorem thrives_run : Keeps (Thrives key t c) (run t sql params client) :=
  thrives_execute_bind sql params client fun _ _ there => (mute_handBack there t sql).thrives

theorem thrives_reading {read : Nat → Action α} (hr : ∀ st, Keeps Mute (read st)) :
    Keeps (Thrives key t c) (reading t sql params client read) := by
  refine thrives_execute_bind sql params client fun st g there => Mute.thrives ?_
  rw [Host.act_outcome_bind]
  have same := hr st g
  generalize g.act (read st) = p at same ⊢
  obtain ⟨fault | a, g'⟩ := p
  · exact mute.trans same (bind mute (mute_closeStatement st) (fun _ => of_throw mute fault) g')
  · have there' := Nat.lt_of_lt_of_le there same.statements
    exact mute.trans same (mute_handBack_pure there' t sql a)

end Statements

/-! ### Rows -/

theorem thrives_executeNamed {work : Action α} (hw : Keeps (Thrives key t c) work) :
    Keeps (Thrives key t c) (executeNamed t work) :=
  get_bind fun _ => bind (thrives key t c) (of_ofExcept (thrives key t c) _) fun _ =>
    thrives_inLink _ hw

theorem thrives_runRows (client : Option Nat) (statement : Except Fault Sql.RowStatement) :
    Keeps (Thrives key t c) (runRows t client statement) :=
  bind (thrives key t c) (of_ofExcept (thrives key t c) _) fun _ => get_bind fun _ =>
    thrives_executeNamed (thrives_run _ _ client)

theorem thrives_addRow (client : Option Nat) (row : List Value) :
    Keeps (Thrives key t c) (addRow t client row) :=
  bind (thrives key t c) (thrives_of_mute (mute_checkChange t)) fun _ => get_bind fun _ =>
    thrives_runRows client _

theorem thrives_removeRow (client : Option Nat) (row : List Value) :
    Keeps (Thrives key t c) (removeRow t client row) :=
  bind (thrives key t c) (thrives_of_mute (mute_checkChange t)) fun _ => get_bind fun _ =>
    thrives_runRows client _

theorem thrives_updateRows (client : Nat) (pairs : List (List Value × List Value)) :
    Keeps (Thrives key t c) (updateRows t client pairs) := by
  have T := thrives key t c
  have record (row : List Value) (change : Change) : Keeps (Thrives key t c) (do
      recordChange client ⟨((← get).table t).label, change, row⟩) :=
    get_bind fun _ => thrives_of_mute (mute_recordChange client _)
  have check : Keeps (Thrives key t c) checkCancelled := thrives_of_mute mute_checkCancelled
  refine bind T (thrives_of_mute (mute_checkChange t)) fun _ => get_bind fun h => ?_
  refine thrives_inLink _ (of_ite ?_ ?_)
  · refine of_forM T pairs fun pair => bind T check fun _ => ?_
    refine bind T (get_bind fun _ => thrives_runRows (some client) _) fun _ => get_bind fun _ => ?_
    exact thrives_of_mute (bind mute (mute_recordChange client _) fun _ =>
      mute_recordChange client _)
  · refine bind T (of_forM T pairs fun pair => bind T check fun _ => ?_) fun _ =>
      of_forM T pairs fun pair => bind T check fun _ => ?_
    · exact bind T (thrives_removeRow (some client) pair.1) fun _ => record pair.1 .delete
    · exact bind T (thrives_addRow (some client) pair.2) fun _ => record pair.2 .insert

theorem thrives_rowCount (client : Option Nat) : Keeps (Thrives key t c) (rowCount t client) := by
  refine get_bind fun h => thrives_executeNamed ?_
  refine outcome_bind (thrives key t c) (thrives_reading _ [] client fun st => ?_) fun r => ?_
  · exact bind mute (mute_of (calm_readSingle st) (firm_readSingle st)) fun _ =>
      of_ofExcept mute _
  · cases r with
    | ok a => exact of_pure (thrives key t c) a
    | error fault => exact of_throw (thrives key t c) _

theorem thrives_executeFor (client : Option Nat) (sql : String) (params : List Value)
    (keep : Bool) : Keeps (Thrives key t c) (executeFor t client sql params keep) := by
  refine thrives_executeNamed ?_
  cases keep with
  | true => exact thrives_execute_bind sql params client fun _ g _ => (thrives key t c).refl g
  | false =>
    have T := thrives key t c
    exact bind T (thrives_run sql params client) fun _ => of_pure T _

theorem thrives_query (client : Option Nat) (sql : String) (params : List Value)
    (failure : Option Fault) : Keeps (Thrives key t c) (query t client sql params failure) := by
  refine thrives_reading sql params client fun st => ?_
  cases failure with
  | some fault => exact of_throw mute fault
  | none => exact mute_of (calm_readRows st) (firm_readRows st)

/-! ### Cursors -/

/-- A cursor moves to another phase, over a statement that is there. -/
theorem thrives_phase {h : Host} (c' : Nat) {phase : CursorPhase}
    (there : ∀ st r, phase = .reading st r → st < h.statements.next) :
    Thrives key t c h { h with
      cursors := h.cursors.revise c' fun cursor => { cursor with phase } } := by
  intro serene
  have fair := serene.toFair
  have has := serene.has
  refine ⟨⟨⟨⟨fair.counted, fair.keyed, fair.owns⟩, ⟨fair.address, fair.shut, fair.connectors,
    fair.connects⟩, fair.answers⟩, ⟨has.known, has.target, has.welcome⟩, fun c'' own => ?_⟩,
    fun _ _ held isOpen => ⟨held, isOpen⟩, .inl rfl⟩
  obtain ⟨table, known⟩ := serene.reads c'' own
  rw [Host.cursor] at table known
  rw [Host.ReadsFrom, Host.cursor, Roster.at?_revise]
  split
  · cases found : h.cursors.at? c'' with
    | none => exact ⟨by rw [found] at table; exact table, fun _ _ reading => by cases reading⟩
    | some cursor =>
      rw [found] at table
      exact ⟨table, there⟩
  · exact ⟨table, known⟩

theorem thrives_endCursor (c' : Nat) : Keeps (Thrives key t c) (endCursor c') :=
  of_modify fun _ => thrives_phase c' nofun

theorem thrives_readNext {h : Host} {st : Nat} (there : st < h.statements.next) (c' : Nat)
    (cursor : Cursor) (r : Nat) : Thrives key t c h (h.act (readNext c' cursor st r)).2 := by
  have T := thrives key t c
  rw [readNext, Host.act_outcome_bind]
  have same := mute_fetch r h
  generalize h.act (fetch r) = p at same ⊢
  obtain ⟨fault | _ | row, g⟩ := p
  · exact T.trans same.thrives (bind T (thrives_endCursor c') (fun _ =>
      thrives_of_mute (bind mute (mute_closeStatement st) fun _ => of_throw mute fault)) g)
  · refine T.trans same.thrives (T.trans (thrives_endCursor c' g) (Mute.thrives ?_))
    have there' := Nat.lt_of_lt_of_le there same.statements
    exact mute_handBack_pure (h := (g.act (endCursor c')).2) there' cursor.table cursor.sql none
  · exact same.thrives

variable {c : Nat}

/-- The first row of a cursor needs a statement. -/
theorem thrives_next : Keeps (Thrives key t (some c)) (next c) := by
  intro h serene
  obtain ⟨table, there⟩ := serene.reads c rfl
  rw [next, Host.act_get_bind]
  dsimp only
  cases phase : (h.cursor c).phase with
  | ended => exact (thrives key t (some c)).refl h serene
  | reading st r => exact thrives_readNext (there st r phase) c _ r serene
  | fresh =>
    dsimp only
    rw [table]
    refine thrives_outcome_execute _ _ _ (fun st g there => ?_) (fun fault => ?_) h serene
    · show Thrives key t (some c) g (g.act (_ : Action (Option (List Value)))).2
      rw [Host.act_get_bind]
      split
      · exact thrives_endCursor c g
      next r _ =>
        let g' : Host := { g with
          cursors := g.cursors.revise c fun cursor => { cursor with phase := .reading st r } }
        have moved : Thrives key t (some c) g g' := thrives_phase c fun st' r' phase => by
          cases phase
          exact there
        have T := thrives key t (some c)
        exact T.trans moved (thrives_readNext (h := g') there c (h.cursor c) r)
    · exact bind (thrives key t (some c)) (thrives_endCursor c) fun _ =>
        of_throw (thrives key t (some c)) fault

theorem thrives_drainFrom (fuel : Nat) : Keeps (Thrives key t (some c)) (drainFrom c fuel) := by
  have T := thrives key t (some c)
  induction fuel with
  | zero => exact of_pure T []
  | succ fuel ih =>
    refine bind T thrives_next fun row => ?_
    cases row with
    | none => exact of_pure T []
    | some row => exact bind T ih fun _ => of_pure T _

theorem thrives_drain : Keeps (Thrives key t (some c)) (drain c) := by
  have T := thrives key t (some c)
  refine bind T thrives_next fun row => ?_
  cases row with
  | none => exact of_pure T []
  | some row => exact get_bind fun _ => bind T (thrives_drainFrom _) fun _ => of_pure T _

end Action

end Thriving

end LinkedTables
