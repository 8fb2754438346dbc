import LinkedTables.Proofs.ActionLogic
import LinkedTables.Proofs.OperationLogic
import LinkedTables.Proofs.TwinLinks

/-!
# Operations on twins

An operation on one host and its counterpart on the other (`Operation.Like`), which names what is
paired with what the first one names, end alike: both are done, or both end in the same fault
(`Scene.coupled_perform`).
-/

namespace LinkedTables

namespace Scene

open LinkedTables.Action

variable {S : Scene} {K K' : Matching} {α β : Type} {t t' : Nat}

/-! ### Work in the name of a link -/

/-- What is known behind two actions does not depend on what was logged. -/
def Enduring (Q : α → β → Host → Host → Prop) : Prop :=
  ∀ ⦃a b h g h' g'⦄, Q a b h g → Unnoticed h h' → Unnoticed g g' → Q a b h' g'

theorem enduring_alike : Enduring fun (a b : α) h g => a = b ∧ S.At K h g :=
  fun _ _ _ _ _ _ q left right => ⟨q.1, q.2.unnoticed left right⟩

theorem unnoticed_link (h : Host) (link : Option String) : Unnoticed h { h with link } :=
  ⟨fun k => by cases k <;> rfl, rfl, rfl, rfl, rfl, rfl⟩

theorem coupled_inLink {x : Action α} {y : Action β} {Q : α → β → Host → Host → Prop}
    (name : String) (hQ : Enduring Q) (hx : Coupled (S.At K) x y Q (S.At K)) :
    Coupled (S.At K) (inLink name x) (inLink name y) Q (S.At K) := by
  intro h g r
  have ends := hx (r.unnoticed (unnoticed_link h (some name)) (unnoticed_link g (some name)))
  rw [Host.act_inLink, Host.act_inLink]
  generalize ({ h with link := some name } : Host).act x = p at ends ⊢
  generalize ({ g with link := some name } : Host).act y = q at ends ⊢
  obtain ⟨_, h'⟩ := p
  obtain ⟨_, g'⟩ := q
  cases ends with
  | value q => exact .value (hQ q (unnoticed_link _ _) (unnoticed_link _ _))
  | fault e => exact .fault (e.unnoticed (unnoticed_link _ _) (unnoticed_link _ _))

/-- A table that has been removed executes nothing. -/
theorem coupled_executeNamed (ht : K .tables t t') {x : Action α} {y : Action β}
    {Q : α → β → Host → Host → Prop} (hQ : Enduring Q)
    (hx : Coupled (S.At K) x y Q (S.At K)) :
    Coupled (S.At K) (executeNamed t x) (executeNamed t' y) Q (S.At K) := by
  refine Coupled.get_bind' fun h g r => ?_
  obtain ⟨-, session, e, -⟩ := r.table ht
  rw [e]
  exact Leads.bind (Steady.of_ofExcept (LinkedTable.checkValid _)) fun _ =>
    coupled_inLink _ hQ hx

/-! ### Making and removing tables -/

theorem alike_connectNew (ht : K .tables t t') :
    Alike (S.At K) (connectNew t) (connectNew t') := by
  refine Coupled.outcome_bind (brings_connect ht) (fun _ _ => ?_) fun fault => ?_
  · exact Leads.of_pure () fun _ _ r => r.mono Matching.within_and
  · cases fault with
    | link failure =>
      refine Coupled.get_bind' fun h g r => ?_
      obtain ⟨-, session, e, -⟩ := r.table ht
      rw [e]
      dsimp only
      split
      · exact Leads.bind (leads_report _ _) fun _ =>
          leads_reviseTable ht (fun _ => rfl) (fun _ _ => rfl) fun _ => rfl
      · exact Steady.of_throw _
    | _ => exact Steady.of_throw _

theorem brings_createTable {table : LinkedTable} (key : table.definition.key = S.key)
    (none : table.session = none) :
    S.Brings K .tables (createTable table) (createTable table) := by
  refine Coupled.get_bind fun h g r => ?_
  refine Coupled.modify_bind (T := S.At (K.and .tables h.tables.next g.tables.next)) ?_ ?_
  · rintro h g ⟨rfl, rfl, r⟩
    refine r.joined (k := .tables) (x := table) (y := table) trivial ⟨key, Option.none, ?_, ?_⟩
    · rw [← none]
    · rw [none]
      exact .none
  · refine Leads.bind (show Leads _ _ _
      (fun _ => S.At (K.and .tables h.tables.next g.tables.next)) _ from ?_) fun _ =>
      Coupled.of_pure fun _ _ r => r
    refine Leads.behind (coupled_inLink _ enduring_alike (alike_connectNew Matching.and_self))
      (fun _ _ _ r => r) fun _ _ r => r.mono Matching.within_and

theorem alike_removeTable (ht : K .tables t t') :
    Alike (S.At K) (removeTable t) (removeTable t') := by
  refine Leads.bind (alike_letGoSession ht false) fun _ => ?_
  refine Leads.bind (leads_reviseTable ht (fun _ => rfl) (fun _ _ => rfl) fun _ => rfl) fun _ => ?_
  exact Coupled.get_bind' fun h g r => leads_report _ _

/-! ### Rows -/

theorem At.quoteFor {h g : Host} (r : S.At K h g) (ht : K .tables t t') :
    quoteFor g t' = quoteFor h t := by
  obtain ⟨-, session, e, held⟩ := r.table ht
  rw [Action.quoteFor, Action.quoteFor, e]
  dsimp only
  generalize (h.table t).session = o at held
  cases held with
  | none => rfl
  | some hs =>
    obtain ⟨connection, cache, e⟩ := At.session (K := S.pairs h) ⟨r.1, .refl _⟩ hs
    simp only [e]

theorem alike_runRows (ht : K .tables t t') (client : Option Nat)
    (statement : Except Fault Sql.RowStatement) :
    Alike (S.At K) (runRows t client statement) (runRows t' client statement) := by
  refine Leads.bind (Steady.of_ofExcept statement) fun statement => ?_
  refine Coupled.get_bind' fun h g r => ?_
  obtain ⟨-, session, e, -⟩ := r.table ht
  rw [r.quoteFor ht, e]
  exact coupled_executeNamed ht enduring_alike (alike_run ht _ _ client)

theorem readiness_withSession {h g : Host} (r : S.At K h g) (ht : K .tables t t') :
    readiness (g.table t') = readiness (h.table t) := by
  obtain ⟨-, session, e, held⟩ := r.table ht
  rw [e, readiness, readiness, readySession.eq_def, readySession.eq_def]
  dsimp only
  generalize (h.table t).session = o at held
  cases (h.table t).failure <;> cases held <;> rfl

theorem alike_checkChange (ht : K .tables t t') :
    Alike (S.At K) (checkChange t) (checkChange t') := by
  refine Coupled.get_bind' fun h g r => ?_
  obtain ⟨-, session, e, -⟩ := r.table ht
  rw [e]
  exact Leads.bind (Steady.of_ofExcept (LinkedTable.checkWritable _)) fun _ =>
    Steady.of_ofExcept (LinkedTable.checkValid _)

/-- A change of rows whose statement is made of what a table has. -/
theorem alike_changeRows (ht : K .tables t t') (client : Option Nat)
    (statement : Except Fault Unit → LinkedTable → Except Fault Sql.RowStatement)
    (same : ∀ ready table session,
      statement ready { table with session } = statement ready table) :
    Alike (S.At K)
      (do
        let table := (← get).table t
        runRows t client (statement (readiness table) table))
      (do
        let table := (← get).table t'
        runRows t' client (statement (readiness table) table)) := by
  refine Coupled.get_bind' fun h g r => ?_
  dsimp only
  obtain ⟨-, session, e, -⟩ := r.table ht
  rw [readiness_withSession r ht, e, same _ (h.table t) session]
  exact alike_runRows ht client _

theorem alike_addRow (ht : K .tables t t') (client : Option Nat) (row : List Value) :
    Alike (S.At K) (addRow t client row) (addRow t' client row) :=
  Leads.bind (alike_checkChange ht) fun _ =>
    alike_changeRows ht client (fun ready table =>
      Sql.insertRow ready table.columns row) fun _ _ _ => rfl

theorem alike_removeRow (ht : K .tables t t') (client : Option Nat) (row : List Value) :
    Alike (S.At K) (removeRow t client row) (removeRow t' client row) :=
  Leads.bind (alike_checkChange ht) fun _ =>
    alike_changeRows ht client (fun ready table =>
      Sql.deleteRow ready table.name table.columns row) fun _ _ _ => rfl

theorem alike_updateRow (ht : K .tables t t') (client : Option Nat) (old new : List Value) :
    Alike (S.At K) (updateRow t client old new) (updateRow t' client old new) :=
  alike_changeRows ht client (fun ready table =>
    Sql.updateRow ready table.name table.columns old new) fun _ _ _ => rfl

/-! ### Updates -/

theorem unnoticed_clients (h : Host) (client : Nat) {f : Client → Client}
    (same : ∀ c, (f c).convert = c.convert) :
    Unnoticed h { h with clients := h.clients.revise client f } :=
  ⟨fun k => by cases k <;> rfl, Roster.map_revise_same same _ _, rfl, rfl, rfl, rfl⟩

theorem leads_recordChange {E : Host → Host → Prop} (client : Nat) (record record' : UndoRecord) :
    Leads (S.At K) (recordChange client record) (recordChange client record') (fun _ => S.At K)
      E :=
  leads_unnoticed (fun h => unnoticed_clients h client fun _ => rfl) fun g =>
    unnoticed_clients g client fun _ => rfl

theorem leads_recordLabelled {E : Host → Host → Prop} (client : Nat) (change : Change)
    (row : List Value) :
    Leads (S.At K) (do recordChange client ⟨((← get).table t).label, change, row⟩)
      (do recordChange client ⟨((← get).table t').label, change, row⟩) (fun _ => S.At K) E :=
  Coupled.get_bind' fun _ _ _ => leads_recordChange client _ _

/-- It matters from now on whether the command has been cancelled. -/
def strictly (S : Scene) : Scene := { S with strict := True }

theorem At.strictly {h g : Host} (r : S.At K h g) (same : h.cancelled = g.cancelled) :
    S.strictly.At K h g :=
  ⟨⟨r.1.twin, r.1.script, fun _ => same, r.1.pace, r.1.left, r.1.right, r.1.dialled⟩, r.2⟩

theorem At.loosely {h g : Host} (r : S.strictly.At K h g) : S.At K h g :=
  ⟨⟨r.1.twin, r.1.script, fun _ => r.1.cancelled trivial, r.1.pace, r.1.left, r.1.right,
    r.1.dialled⟩, r.2⟩

theorem alike_checkCancelled : Alike (S.strictly.At K) checkCancelled checkCancelled := by
  refine Coupled.get_bind' fun h g r => ?_
  rw [r.1.cancelled trivial]
  exact Steady.of_ofExcept _

theorem alike_emitUpdates (ht : K .tables t t') (client : Nat)
    (rows : List (List Value × List Value)) :
    Alike (S.strictly.At K) (emitUpdates t client rows) (emitUpdates t' client rows) := by
  refine Alike.of_forM rows fun (old, new) => ?_
  refine Leads.bind alike_checkCancelled fun _ => ?_
  refine Leads.bind (alike_updateRow ht (some client) old new) fun _ => ?_
  refine Coupled.get_bind' fun h g r => ?_
  exact Leads.bind (leads_recordChange client _ _) fun _ => leads_recordChange client _ _

theorem alike_replace (ht : K .tables t t') (client : Nat)
    (rows : List (List Value × List Value)) :
    Alike (S.strictly.At K) ((rowStore t client).replace rows)
      ((rowStore t' client).replace rows) := by
  refine Leads.bind (Alike.of_forM rows fun (old, _) => ?_) fun _ =>
    Alike.of_forM rows fun (_, new) => ?_
  · refine Leads.bind alike_checkCancelled fun _ => ?_
    exact Leads.bind (alike_removeRow ht (some client) old) fun _ =>
      leads_recordLabelled client .delete old
  · refine Leads.bind alike_checkCancelled fun _ => ?_
    exact Leads.bind (alike_addRow ht (some client) new) fun _ =>
      leads_recordLabelled client .insert new

/-- A command begins with its own mark of being cancelled. -/
theorem alike_updateRows (ht : K .tables t t') (client : Nat) (cancelled : Bool)
    (rows : List (List Value × List Value)) :
    Alike (S.At K)
      (do
        beginCommand cancelled
        updateRows t client rows)
      (do
        beginCommand cancelled
        updateRows t' client rows) := by
  refine Leads.bind (show Leads _ _ _ (fun _ => S.strictly.At K) _ from ?_) fun _ => ?_
  · exact Coupled.of_modify fun h g r => ⟨rfl, (r.cancelled fun _ => rfl).strictly rfl⟩
  refine Leads.behind (show Leads _ _ _ (fun _ => S.strictly.At K) (S.strictly.At K) from ?_)
    (fun _ _ _ r => r.loosely) fun _ _ r => r.loosely
  refine Leads.bind (alike_checkChange ht) fun _ => ?_
  refine Coupled.get_bind' fun h g r => ?_
  obtain ⟨-, session, e, -⟩ := r.table ht
  rw [e]
  refine coupled_inLink _ enduring_alike ?_
  dsimp only
  split
  · exact alike_emitUpdates ht client rows
  · exact alike_replace ht client rows

/-! ### Counting, queries and conversions -/

theorem alike_rowCount (ht : K .tables t t') (client : Option Nat) :
    Alike (S.At K) (rowCount t client) (rowCount t' client) := by
  refine Coupled.get_bind' fun h g r => ?_
  obtain ⟨-, session, e, -⟩ := r.table ht
  rw [e]
  refine coupled_executeNamed ht enduring_alike (Coupled.wrapping _ ?_)
  refine alike_reading ht _ _ client fun st st' => ?_
  exact Leads.bind (alike_readSingle Matching.and_self) fun v => Steady.of_ofExcept _

theorem alike_query (ht : K .tables t t') (client : Option Nat) (sql : String)
    (params : List Value) (failure : Option Fault) :
    Alike (S.At K) (query t client sql params failure) (query t' client sql params failure) := by
  refine alike_reading ht sql params client fun st st' => ?_
  cases failure with
  | some fault => exact Steady.of_throw fault
  | none => exact alike_readRows Matching.and_self

/-- A statement that is kept may be named from then on. -/
theorem coupled_executeFor (ht : K .tables t t') (client : Option Nat) (sql : String)
    (params : List Value) (keep : Bool) :
    Coupled (S.At K) (executeFor t client sql params keep) (executeFor t' client sql params keep)
      (fun _ _ => S.At K) (S.At K) := by
  refine coupled_executeNamed ht (fun _ _ _ _ _ _ q left right => q.unnoticed left right) ?_
  cases keep with
  | true =>
    exact (brings_execute ht sql params client).bind fun _ _ =>
      Coupled.of_pure fun _ _ r => r.mono Matching.within_and
  | false =>
    exact Leads.bind (alike_run ht sql params client) fun _ => Coupled.of_pure fun _ _ r => r

theorem alike_convertRow (ht : K .tables t t') (row : List Value) :
    Alike (S.At K) (convertRow t row) (convertRow t' row) := by
  refine Coupled.get_bind' fun h g r => ?_
  obtain ⟨-, session, e, -⟩ := r.table ht
  rw [e]
  exact Leads.bind (leads_reviseTable ht (fun _ => rfl) (fun _ _ => rfl) fun _ => rfl) fun _ =>
    Steady.of_pure _

theorem alike_setFetchSize (ht : K .tables t t') (n : Int) :
    Alike (S.At K) (setFetchSize t n) (setFetchSize t' n) := by
  refine Coupled.get_bind fun h g r => ?_
  obtain ⟨target, session, e, held⟩ := r.table ht
  rw [e, LinkedTable.withFetchSize, LinkedTable.withFetchSize]
  split
  · exact Coupled.of_throw fun _ _ q => by rw [q.1, q.2.1]; exact r
  · refine Coupled.ok_bind (Coupled.of_modify ?_)
    rintro h g ⟨rfl, rfl, r⟩
    refine ⟨rfl, r.revised (k := .tables) ht trivial fun x y _ => ?_⟩
    exact ⟨target, session, rfl, held⟩

/-! ### Cursors -/

section Cursors

variable {c c' : Nat}

theorem At.cursor {h g : Host} (r : S.At K h g) (hc : K .cursors c c') :
    ∃ table phase, g.cursor c' = { h.cursor c with table, phase } ∧
      S.pairs h .tables (h.cursor c).table table ∧
      (h.cursor c).phase.Resembles (S.pairs h) phase :=
  r.resembles hc

theorem brings_openCursor (ht : K .tables t t') (sql : String) (params : List Value)
    (client : Option Nat) :
    S.Brings K .cursors (openCursor ⟨t, sql, params, client, .fresh⟩)
      (openCursor ⟨t', sql, params, client, .fresh⟩) :=
  brings_join (k := .cursors) (x := ⟨t, sql, params, client, .fresh⟩)
    (y := ⟨t', sql, params, client, .fresh⟩) trivial fun _ within =>
    ⟨t', .fresh, rfl, within _ _ _ ht, .fresh⟩

theorem brings_openScan (ht : K .tables t t') (client : Option Nat) :
    S.Brings K .cursors (openScan t client) (openScan t' client) := by
  refine Coupled.get_bind' fun h g r => ?_
  obtain ⟨-, session, e, -⟩ := r.table ht
  rw [e]
  exact brings_openCursor ht _ [] client

theorem brings_openFind (ht : K .tables t t') (index : Index) (client : Option Nat)
    (first last : Option (List Value)) :
    S.Brings K .cursors (openFind t index client first last)
      (openFind t' index client first last) := by
  refine Coupled.get_bind' fun h g r => ?_
  obtain ⟨-, session, e, -⟩ := r.table ht
  dsimp only
  rw [readiness_withSession r ht, r.quoteFor ht, e]
  refine Leads.bind (Steady.of_ofExcept _) fun statement => ?_
  exact brings_openCursor ht _ _ client

/-- How far a cursor has come is changed on both sides. -/
theorem leads_phase {E : Host → Host → Prop} (hc : K .cursors c c') {phase phase' : CursorPhase}
    (come : phase.Resembles K phase') :
    Leads (S.At K) (reviseCursor c fun cursor => { cursor with phase })
      (reviseCursor c' fun cursor => { cursor with phase := phase' }) (fun _ => S.At K) E := by
  refine leads_revise (k := .cursors) hc (fun _ => trivial) fun φ x y within same => ?_
  obtain ⟨table, phase, rfl, own, -⟩ := same
  exact ⟨table, _, rfl, own, come.mono within⟩

theorem alike_readNext (hc : K .cursors c c') {cursor cursor' : Cursor} {st st' r r' : Nat}
    (ht : K .tables cursor.table cursor'.table) (sql : cursor'.sql = cursor.sql)
    (hst : K .statements st st') (hr : K .results r r') :
    Alike (S.At K) (readNext c cursor st r) (readNext c' cursor' st' r') := by
  have ended : Alike (S.At K) (endCursor c) (endCursor c') := leads_phase hc .ended
  refine Leads.outcome_bind (alike_fetch hr) (fun row => ?_) fun fault => ?_
  · cases row with
    | some row => exact Steady.of_pure _
    | none =>
      rw [sql]
      exact Leads.bind ended fun _ => Leads.bind (alike_handBack ht hst _) fun _ =>
        Steady.of_pure none
  · exact Leads.bind ended fun _ => Leads.bind (alike_closeStatement hst) fun _ =>
      Steady.of_throw fault

theorem alike_next (hc : K .cursors c c') : Alike (S.At K) (next c) (next c') := by
  refine alike_get fun h g r within => ?_
  have hc := within _ _ _ hc
  obtain ⟨table, phase, e, ht, come⟩ := r.cursor hc
  rw [e]
  dsimp only
  generalize (h.cursor c).phase = own at come ⊢
  -- The cursors are at the same point: at the end, in a result, or before the statement is run.
  cases come with
  | ended => exact Steady.of_pure none
  | reading hst hr => exact alike_readNext hc ht rfl hst hr
  | fresh =>
    refine Coupled.outcome_bind (brings_execute ht _ _ _) (fun st st' => ?_) fun fault => ?_
    · refine Leads.behind (E := S.At ((S.pairs h).and .statements st st')) ?_
        (fun _ _ _ r => r) fun _ _ r => r.mono Matching.within_and
      refine Leads.behind
        (show Leads _ _ _ (fun _ => S.At ((S.pairs h).and .statements st st')) _ from ?_)
        (fun _ _ _ r => r.mono Matching.within_and) fun _ _ r => r
      refine alike_get fun h' g' r' within' => ?_
      have hc := within' _ _ _ (.inl hc)
      have ht := within' _ _ _ (.inl ht)
      have hst := within' _ _ _ Matching.and_self
      obtain ⟨_, result, e, -, opened⟩ := r'.statement hst
      rw [e]
      dsimp only
      generalize (h'.statement st).result = o at opened ⊢
      cases opened with
      | none => exact Leads.bind (leads_phase hc .ended) fun _ => Steady.of_pure none
      | some hr =>
        exact Leads.bind (leads_phase hc (.reading hst hr)) fun _ =>
          alike_readNext hc ht rfl hst hr
    · exact Leads.bind (leads_phase hc .ended) fun _ => Steady.of_throw fault

theorem alike_drainFrom (hc : K .cursors c c') (fuel : Nat) :
    Alike (S.At K) (drainFrom c fuel) (drainFrom c' fuel) := by
  induction fuel with
  | zero => exact Steady.of_pure []
  | succ fuel ih =>
    refine Leads.bind (alike_next hc) fun row => ?_
    cases row with
    | none => exact Steady.of_pure []
    | some row => exact Leads.bind ih fun rows => Steady.of_pure (row :: rows)

theorem At.remaining {h g : Host} (r : S.At K h g) (hc : K .cursors c c') :
    remaining g c' = remaining h c := by
  obtain ⟨table, phase, e, -, come⟩ := r.cursor hc
  rw [Action.remaining, Action.remaining, e]
  dsimp only
  generalize (h.cursor c).phase = own at come
  cases come with
  | reading _ hr =>
    obtain ⟨connection, e⟩ := At.result (K := S.pairs h) ⟨r.1, .refl _⟩ hr
    simp only [e]
  | _ => rfl

theorem alike_drain (hc : K .cursors c c') : Alike (S.At K) (drain c) (drain c') := by
  refine Leads.bind (alike_next hc) fun row => ?_
  cases row with
  | none => exact Steady.of_pure []
  | some row =>
    refine Coupled.get_bind' fun h g r => ?_
    rw [r.remaining hc]
    exact Leads.bind (alike_drainFrom hc _) fun rows => Steady.of_pure (row :: rows)

theorem alike_closeCursor (hc : K .cursors c c') :
    Alike (S.At K) (closeCursor c) (closeCursor c') := by
  refine alike_get fun h g r within => ?_
  have hc := within _ _ _ hc
  obtain ⟨table, phase, e, -, come⟩ := r.cursor hc
  rw [e]
  dsimp only
  refine Leads.bind (leads_phase hc .ended) fun _ => ?_
  generalize (h.cursor c).phase = own at come ⊢
  cases come with
  | reading hst _ => exact alike_closeStatement hst
  | _ => exact Steady.of_pure ()

end Cursors

end Scene

/-! ### Operations -/

/-- An operation for a target on one host and its counterpart on another: what the one names is
paired with what the other names. Under the name of a table that is registered or dropped both
hosts find a table, which then are paired if the table is dropped, or neither does. -/
inductive Operation.Like (key : LinkKey) (φ : Matching) (h g : Host) :
    Operation → Operation → Prop
  | clearUndo (client : Nat) : Like key φ h g (.clearUndo client) (.clearUndo client)
  | createTable {table : LinkedTable} (target : table.definition.key = key)
      (none : table.session = none) : Like key φ h g (.createTable table) (.createTable table)
  | addRow {t t' : Nat} (ht : φ .tables t t') (client : Option Nat) (row : List Value) :
      Like key φ h g (.addRow t client row) (.addRow t' client row)
  | removeRow {t t' : Nat} (ht : φ .tables t t') (client : Option Nat) (row : List Value) :
      Like key φ h g (.removeRow t client row) (.removeRow t' client row)
  | updateRows {t t' : Nat} (ht : φ .tables t t') (client : Nat) (cancelled : Bool)
      (pairs : List (List Value × List Value)) :
      Like key φ h g (.updateRows t client cancelled pairs) (.updateRows t' client cancelled pairs)
  | rowCount {t t' : Nat} (ht : φ .tables t t') (client : Option Nat) :
      Like key φ h g (.rowCount t client) (.rowCount t' client)
  | openScan {t t' : Nat} (ht : φ .tables t t') (client : Option Nat) :
      Like key φ h g (.openScan t client) (.openScan t' client)
  | openFind {t t' : Nat} (ht : φ .tables t t') (index : Index) (client : Option Nat)
      (first last : Option (List Value)) :
      Like key φ h g (.openFind t index client first last) (.openFind t' index client first last)
  | next {c c' : Nat} (hc : φ .cursors c c') : Like key φ h g (.next c) (.next c')
  | drain {c c' : Nat} (hc : φ .cursors c c') : Like key φ h g (.drain c) (.drain c')
  | closeCursor {c c' : Nat} (hc : φ .cursors c c') :
      Like key φ h g (.closeCursor c) (.closeCursor c')
  | execute {t t' : Nat} (ht : φ .tables t t') (client : Option Nat) (sql : String)
      (params : List Value) (keep : Bool) :
      Like key φ h g (.execute t client sql params keep) (.execute t' client sql params keep)
  | query {t t' : Nat} (ht : φ .tables t t') (client : Option Nat) (sql : String)
      (params : List Value) (failure : Option Fault) :
      Like key φ h g (.query t client sql params failure) (.query t' client sql params failure)
  | handBack {t t' st st' : Nat} (ht : φ .tables t t') (hst : φ .statements st st')
      (sql : String) : Like key φ h g (.handBack t st sql) (.handBack t' st' sql)
  | convertRow {t t' : Nat} (ht : φ .tables t t') (row : List Value) :
      Like key φ h g (.convertRow t row) (.convertRow t' row)
  | setReadOnly {t t' : Nat} (ht : φ .tables t t') (b : Bool) :
      Like key φ h g (.setReadOnly t b) (.setReadOnly t' b)
  | setGlobalTemporary {t t' : Nat} (ht : φ .tables t t') (b : Bool) :
      Like key φ h g (.setGlobalTemporary t b) (.setGlobalTemporary t' b)
  | setFetchSize {t t' : Nat} (ht : φ .tables t t') (n : Int) :
      Like key φ h g (.setFetchSize t n) (.setFetchSize t' n)
  | setDefault {t t' : Nat} (ht : φ .tables t t') (c : Column) (default : Option Default) :
      Like key φ h g (.setDefault t c default) (.setDefault t' c default)
  | setSequence {t t' : Nat} (ht : φ .tables t t') (c : Column) (sequence : Option Sequence) :
      Like key φ h g (.setSequence t c sequence) (.setSequence t' c sequence)
  | reconnect {t t' : Nat} (ht : φ .tables t t') {failed failed' : Option Nat}
      (hf : failed.Rel (φ .sessions) failed') :
      Like key φ h g (.reconnect t failed) (.reconnect t' failed')
  | giveUpSession {t t' : Nat} (ht : φ .tables t t') :
      Like key φ h g (.giveUpSession t) (.giveUpSession t')
  | closeLink {t t' : Nat} (ht : φ .tables t t') : Like key φ h g (.closeLink t) (.closeLink t')
  | removeTable {t t' : Nat} (ht : φ .tables t t') :
      Like key φ h g (.removeTable t) (.removeTable t')
  | registerTable {t t' : Nat} (ht : φ .tables t t') (schema : String)
      (taken : (h.registry.value? (schema, (h.table t).name)).isSome
        = (g.registry.value? (schema, (h.table t).name)).isSome) :
      Like key φ h g (.registerTable schema t) (.registerTable schema t')
  | dropTable (schema name : String)
      (found : (h.registry.value? (schema, name)).Rel (fun v v' => φ .tables v.table v'.table)
        (g.registry.value? (schema, name))) :
      Like key φ h g (.dropTable schema name) (.dropTable schema name)
  | fetchAll {r r' : Nat} (hr : φ .results r r') : Like key φ h g (.fetchAll r) (.fetchAll r')
  | closeStatement {st st' : Nat} (hst : φ .statements st st') :
      Like key φ h g (.closeStatement st) (.closeStatement st')

namespace Scene

open LinkedTables.Action

variable {S : Scene} {K : Matching} {α : Type}

/-- The numbers that come back do not matter here. -/
theorem coupled_reply {x y : Action α} {R : α → α → Host → Host → Prop} (f : α → Reply)
    (hx : Coupled (S.At K) x y R (S.At K)) (hR : ∀ a b h g, R a b h g → S.At K h g) :
    Coupled (S.At K) (do return f (← x)) (do return f (← y)) (fun _ _ => S.At K) (S.At K) :=
  Coupled.bind hx fun _ _ => Coupled.of_pure fun _ _ => hR _ _ _ _

theorem unnoticed_registry (h : Host) (registry : Registry Nat) : Unnoticed h { h with registry } :=
  ⟨fun k => by cases k <;> rfl, rfl, rfl, rfl, rfl, rfl⟩

/-- What two hosts register makes no difference to what they have in common. -/
theorem leads_registry (registry registry' : Registry Nat) :
    Leads (S.At K) (modify fun h => { h with registry })
      (modify fun g => { g with registry := registry' }) (fun _ => S.At K) (S.At K) :=
  leads_unnoticed (fun h => unnoticed_registry h registry) fun g => unnoticed_registry g registry'

/-- A table is registered under its name on both hosts, unless both have one of that name. -/
theorem alike_registerTable {h g : Host} {t t' : Nat} (ht : K .tables t t') {schema : String}
    (taken : (h.registry.value? (schema, (h.table t).name)).isSome
      = (g.registry.value? (schema, (h.table t).name)).isSome) :
    Leads (fun h' g' => h' = h ∧ g' = g ∧ S.At K h g) (registerTable schema t)
      (registerTable schema t') (fun _ => S.At K) (S.At K) := by
  refine Coupled.get_bind ?_
  rintro h g ⟨rfl, rfl, r⟩
  refine Coupled.before (R := S.At K) ?_ fun _ _ ⟨eh, eg, _⟩ => eh ▸ eg ▸ r
  obtain ⟨-, session, e, -⟩ := r.table ht
  have name : (g.table t').name = (h.table t).name := by rw [e]
  unfold Registry.register LinkedTable.variant
  dsimp only
  rw [name]
  generalize h.registry.value? _ = o, g.registry.value? _ = o' at taken ⊢
  cases o <;> cases o' <;> cases taken
  · exact Coupled.ok_bind (Leads.bind (leads_registry _ _) fun _ => leads_report _ _)
  · exact Steady.of_throw _

/-- A table is dropped in the name under which both hosts have it. -/
theorem alike_dropTable {h g : Host} {schema name : String}
    (found : (h.registry.value? (schema, name)).Rel (fun v v' => K .tables v.table v'.table)
      (g.registry.value? (schema, name))) :
    Leads (fun h' g' => h' = h ∧ g' = g ∧ S.At K h g) (dropTable schema name)
      (dropTable schema name) (fun _ => S.At K) (S.At K) := by
  refine Coupled.get_bind ?_
  rintro h g ⟨rfl, rfl, r⟩
  refine Coupled.before (R := S.At K) ?_ fun _ _ ⟨eh, eg, _⟩ => eh ▸ eg ▸ r
  unfold Registry.remove
  generalize h.registry.value? _ = o, g.registry.value? _ = o' at found ⊢
  cases found with
  | none => exact Steady.of_throw _
  | some ht =>
    refine Coupled.ok_bind (Leads.bind (leads_registry _ _) fun _ => ?_)
    exact Leads.bind (alike_removeTable ht) fun _ => leads_report _ _

/-- An operation and its counterpart are both done, or end in the same fault. -/
theorem perform_like {h g : Host} {o o' : Operation} (like : o.Like S.key K h g o')
    (r : S.At K h g) :
    Ends (fun _ _ => S.At K) (S.At K) (h.perform o).1 (g.perform o').1 (h.perform o).2
      (g.perform o').2 := by
  -- What is replied is made of what the work comes to, so the work is all that matters.
  have unheard {R : Host → Host → Prop} {x y : Action Unit}
      (hx : Leads R x y (fun _ => S.At K) (S.At K)) :
      Coupled R (silently x) (silently y) (fun _ _ => S.At K) (S.At K) :=
    Coupled.behind (Leads.silently hx) (fun _ _ _ _ q => q.2) fun _ _ e => e
  have silent {x y : Action Unit} (hx : Alike (S.At K) x y) :
      Coupled (S.At K) (silently x) (silently y) (fun _ _ => S.At K) (S.At K) :=
    unheard hx
  have alike {α : Type} {x y : Action α} (f : α → Reply) (hx : Alike (S.At K) x y) :
      Coupled (S.At K) (do return f (← x)) (do return f (← y)) (fun _ _ => S.At K) (S.At K) :=
    coupled_reply f hx fun _ _ _ _ q => q.2
  have brings {x y : Action Nat} {k : Book} (f : Nat → Reply) (hx : S.Brings K k x y) :
      Coupled (S.At K) (do return f (← x)) (do return f (← y)) (fun _ _ => S.At K) (S.At K) :=
    coupled_reply f hx fun _ _ _ _ q => q.mono Matching.within_and
  have setting {t t' : Nat} (ht : K .tables t t') (f : LinkedTable → LinkedTable)
      (definition : ∀ table, (f table).definition = table.definition)
      (held : ∀ table session, f { table with session } = { f table with session })
      (session : ∀ table, (f table).session = table.session) :
      Coupled (S.At K) (silently (reviseTable t f)) (silently (reviseTable t' f))
        (fun _ _ => S.At K) (S.At K) :=
    silent (leads_reviseTable ht definition held session)
  cases like with
  | clearUndo client =>
    have still (h : Host) : Unnoticed h { h with
        clients := h.clients.revise client fun c => { c with undo := [] } } :=
      unnoticed_clients h client fun _ => rfl
    exact silent (leads_unnoticed still still) r
  | createTable target none => exact brings .table (brings_createTable target none) r
  | addRow ht client row => exact silent (alike_addRow ht client row) r
  | removeRow ht client row => exact silent (alike_removeRow ht client row) r
  | updateRows ht client cancelled pairs =>
    exact silent (alike_updateRows ht client cancelled pairs) r
  | rowCount ht client => exact alike .number (alike_rowCount ht client) r
  | openScan ht client => exact brings .cursor (brings_openScan ht client) r
  | openFind ht index client first last =>
    exact brings .cursor (brings_openFind ht index client first last) r
  | next hc => exact alike .row (alike_next hc) r
  | drain hc => exact alike .rows (alike_drain hc) r
  | closeCursor hc => exact silent (alike_closeCursor hc) r
  | execute ht client sql params keep =>
    exact coupled_reply .statement (coupled_executeFor ht client sql params keep)
      (fun _ _ _ _ q => q) r
  | query ht client sql params failure =>
    exact alike .rows (alike_query ht client sql params failure) r
  | handBack ht hst sql => exact silent (alike_handBack ht hst sql) r
  | convertRow ht row =>
    exact alike (fun given => .converted given.1 given.2) (alike_convertRow ht row) r
  | setReadOnly ht b =>
    exact setting ht (fun table => { table with readOnly := b }) (fun _ => rfl)
      (fun _ _ => rfl) (fun _ => rfl) r
  | setGlobalTemporary ht b =>
    exact setting ht (fun table => { table with globalTemporary := b }) (fun _ => rfl)
      (fun _ _ => rfl) (fun _ => rfl) r
  | setFetchSize ht n => exact silent (alike_setFetchSize ht n) r
  | setDefault ht c default =>
    exact setting ht (fun table =>
      table.withFilling c fun filling => { filling with default }) (fun _ => rfl)
      (fun _ _ => rfl) (fun _ => rfl) r
  | setSequence ht c sequence =>
    exact setting ht (fun table =>
      table.withFilling c fun filling => { filling with sequence }) (fun _ => rfl)
      (fun _ _ => rfl) (fun _ => rfl) r
  | reconnect ht hf => exact brings .session (brings_reconnect ht hf) r
  | giveUpSession ht => exact silent (alike_letGoSession ht true) r
  | closeLink ht => exact silent (alike_letGoSession ht false) r
  | removeTable ht => exact silent (alike_removeTable ht) r
  | registerTable ht schema taken =>
    exact unheard (alike_registerTable ht taken) ⟨rfl, rfl, r⟩
  | dropTable schema name found => exact unheard (alike_dropTable found) ⟨rfl, rfl, r⟩
  | fetchAll hr => exact alike .rows (alike_fetchAll hr) r
  | closeStatement hst => exact silent (alike_closeStatement hst) r

end Scene

end LinkedTables
