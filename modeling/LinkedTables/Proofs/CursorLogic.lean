import LinkedTables.Proofs.TableLogic

/-!
# The logic of cursors

A cursor that is read keeps a statement busy between operations. A `CursorLogic` is a `LinkLogic`
with a rule for each step of a cursor: it starts, suspends the statement that it has executed,
resumes it, and concludes. From it follows what the operations of a table come to (`perform`). The
rules may be given for some cursors only, and then serve for work that reads no other.
-/

namespace LinkedTables

namespace Host

/-- The host with one more cursor. -/
def withCursor (h : Host) (cursor : Cursor) : Host :=
  { h with cursors := h.cursors.join cursor }

/-- The host with another phase for a cursor. -/
def withPhase (h : Host) (c : Nat) (phase : CursorPhase) : Host :=
  { h with cursors := h.cursors.revise c fun cursor => { cursor with phase } }

theorem cursor_withPhase (h : Host) (c : Nat) (phase : CursorPhase) :
    (h.withPhase c phase).cursor c
      = if c < h.cursors.next then { h.cursor c with phase } else default := by
  simp only [cursor, withPhase, Roster.at?_revise_self]
  cases hc : h.cursors.at? c with
  | none =>
    have known : ¬c < h.cursors.next := Nat.not_lt.mpr (List.getElem?_eq_none_iff.mp hc)
    rw [if_neg known]
    rfl
  | some cursor =>
    have known : c < h.cursors.next := (List.getElem?_eq_some_iff.mp hc).1
    rw [if_pos known]
    rfl

/-- A cursor that nobody opened is no other in another phase. -/
theorem cursor_of_unknown {h : Host} {c : Nat} (hc : ¬c < h.cursors.next) :
    h.cursor c = default := by
  rw [cursor, Roster.at?, List.getElem?_eq_none (Nat.not_lt.mp hc)]
  rfl

theorem cursor_withPhase_table (h : Host) (c : Nat) (phase : CursorPhase) :
    ((h.withPhase c phase).cursor c).table = (h.cursor c).table := by
  rw [cursor_withPhase]
  split
  · rfl
  next hc => rw [cursor_of_unknown hc]

theorem cursor_withPhase_sql (h : Host) (c : Nat) (phase : CursorPhase) :
    ((h.withPhase c phase).cursor c).sql = (h.cursor c).sql := by
  rw [cursor_withPhase]
  split
  · rfl
  next hc => rw [cursor_of_unknown hc]

/-- A cursor in a phase other than the last one has been opened. -/
theorem cursor_known {h : Host} {c : Nat} (hc : (h.cursor c).phase ≠ .ended) :
    c < h.cursors.next := by
  refine Classical.byContradiction fun unknown => hc ?_
  rw [cursor_of_unknown unknown]
  rfl

theorem cursor_withPhase_phase {h : Host} {c : Nat} (phase : CursorPhase)
    (hc : (h.cursor c).phase ≠ .ended) : ((h.withPhase c phase).cursor c).phase = phase := by
  rw [cursor_withPhase, if_pos (cursor_known hc)]

theorem phase_ended (h : Host) (c : Nat) : ((h.withPhase c .ended).cursor c).phase = .ended := by
  rw [cursor_withPhase]
  split <;> rfl

/-- A cursor that reads is not fresh any more, whether it is there or not. -/
theorem phase_of_reading (h : Host) (c st r : Nat) :
    ((h.withPhase c (.reading st r)).cursor c).phase ≠ .fresh := by
  rw [cursor_withPhase]
  split <;> nofun

end Host

/-- A relation for every phase of the work on a table, with a rule for each step of the cursors
that may be read. What is known of the cursors besides is kept by the link. -/
structure CursorLogic (e e' : Executor) (t : Nat) (mine : Nat → Prop)
    (K : Phase → Host → Host → Prop) : Prop where
  link : ∀ F : Roster Cursor → Roster Cursor → Prop,
    LinkLogic e e' t fun p h g => K p h g ∧ F h.cursors g.cursors
  start : ∀ {h g cursor}, K .settled h g → cursor.phase = .fresh →
    K .settled (h.withCursor cursor) (g.withCursor cursor)
  suspend : ∀ {h g c r k st st'}, mine c → K (.busy (h.cursor c).sql r st st') h g →
    (h.cursor c).phase = .fresh → (g.cursor c).phase = .fresh →
    (h.statement st).result = some k →
    K .settled (h.withPhase c (.reading st k)) (g.withPhase c (.reading st' k))
  resume : ∀ {h g c r st st'}, mine c → K .settled h g →
    (h.cursor c).phase = .reading st r → (g.cursor c).phase = .reading st' r →
    K (.spent (h.cursor c).sql r st st') (h.withPhase c .ended) (g.withPhase c .ended)
  conclude : ∀ {h g c}, mine c → K .settled h g → (∀ st r, (h.cursor c).phase ≠ .reading st r) →
    (∀ st r, (g.cursor c).phase ≠ .reading st r) →
    K .settled (h.withPhase c .ended) (g.withPhase c .ended)
  /-- A statement without a result is nothing to be given back. -/
  idle : ∀ {h g sql r st st'}, K (.busy sql r st st') h g → (h.statement st).result = none →
    K .settled h g

namespace CursorLogic

open LinkedTables.Action

variable {e e' : Executor} {t : Nat} {mine : Nat → Prop} {K : Phase → Host → Host → Prop}
  (L : CursorLogic e e' t mine K)

/-- Between two steps of a cursor that works for the table. -/
def Works (t : Nat) (K : Phase → Host → Host → Prop) (c : Nat) (h g : Host) : Prop :=
  K .settled h g ∧ (h.cursor c).table = t

/-- What is known of a cursor that reads. -/
def Reads (t : Nat) (K : Phase → Host → Host → Prop) (c : Nat) (sql : String) (r st st' : Nat)
    (h g : Host) : Prop :=
  K .settled h g ∧ (h.cursor c).table = t ∧ (h.cursor c).sql = sql ∧
    (h.cursor c).phase = .reading st r ∧ (g.cursor c).phase = .reading st' r

include L

theorem plain : LinkLogic e e' t K := by
  have l := L.link fun _ _ => True
  have e : (fun p h g => K p h g ∧ (fun (_ _ : Roster Cursor) => True) h.cursors g.cursors)
      = K := by
    funext p h g
    exact propext ⟨fun k => k.1, fun k => ⟨k, trivial⟩⟩
  rw [e] at l
  exact l

theorem agree {p : Phase} {h g : Host} (k : K p h g) : h.outline = g.outline :=
  (L.plain.quiet p).agree k

/-- What is known besides of cursors that the work does not read is kept as well. -/
theorem beside (others : Nat → Prop) {F : Roster Cursor → Roster Cursor → Prop}
    (fewer : ∀ c, others c → mine c)
    (starts : ∀ {cs cs'} {cursor : Cursor}, F cs cs' → cursor.phase = .fresh →
      F (cs.join cursor) (cs'.join cursor))
    (moves : ∀ {cs cs' c} (f f' : Cursor → Cursor), others c → F cs cs' →
      F (cs.revise c f) (cs'.revise c f')) :
    CursorLogic e e' t others fun p h g => K p h g ∧ F h.cursors g.cursors where
  link G := by
    have l := L.link fun cs cs' => F cs cs' ∧ G cs cs'
    simp only [← and_assoc] at l
    exact l
  start k phase := ⟨L.start k.1 phase, starts k.2 phase⟩
  suspend own k phase phase' result :=
    ⟨L.suspend (fewer _ own) k.1 phase phase' result, moves _ _ own k.2⟩
  resume own k phase phase' := ⟨L.resume (fewer _ own) k.1 phase phase', moves _ _ own k.2⟩
  conclude own k idle idle' := ⟨L.conclude (fewer _ own) k.1 idle idle', moves _ _ own k.2⟩
  idle k result := ⟨L.idle k.1 result, k.2⟩

/-! ### The rows of a cursor -/

theorem readNext {c st st' r : Nat} (own : mine c) {cursor cursor' : Cursor}
    (ht : cursor.table = t) (ht' : cursor'.table = t) (hs : cursor'.sql = cursor.sql) :
    Leads (Reads t K c cursor.sql r st st') (e.readNext c cursor st r)
      (e'.readNext c cursor' st' r) (fun _ => Works t K c) (Works t K c) := by
  have l := L.link fun cs _ => ((cs.at? c).getD default).table = t
  have quiet : Quiet (Reads t K c cursor.sql r st st') :=
    (L.plain.quiet .settled).and_cursors fun cs cs' => ((cs.at? c).getD default).table = t ∧
      ((cs.at? c).getD default).sql = cursor.sql ∧
      ((cs.at? c).getD default).phase = .reading st r ∧
      ((cs'.at? c).getD default).phase = .reading st' r
  have ended : Coupled (Reads t K c cursor.sql r st st') (endCursor c) (endCursor c)
      (fun _ _ h g => K (.spent cursor.sql r st st') h g ∧ (h.cursor c).table = t)
      (Works t K c) := by
    refine Coupled.of_modify ?_
    rintro h g ⟨k, table, sql, phase, phase'⟩
    refine ⟨?_, (h.cursor_withPhase_table c .ended).trans table⟩
    rw [← sql]
    exact L.resume own k phase phase'
  -- The cursor ends at the last row and at a fault: its statement is spent from then on.
  refine Leads.outcome_bind (steady_fetch quiet r) (fun row => ?_) fun fault => ?_
  · cases row with
    | some row => exact Leads.of_pure _ fun _ _ q => ⟨q.1, q.2.1⟩
    | none =>
      refine Coupled.bind ended fun _ _ => ?_
      rw [ht, ht', hs]
      exact Coupled.bind (l.handBack cursor.sql r st st') fun _ _ =>
        Leads.of_pure none fun _ _ w => w
  · refine Coupled.bind ended fun _ _ => ?_
    exact Coupled.bind (l.close cursor.sql r st st') fun _ _ => Coupled.of_throw fun _ _ w => w

/-- Ending a cursor that reads nothing. -/
theorem conclude_works {c : Nat} (own : mine c) {h g : Host} (w : Works t K c h g)
    (hp : ∀ st r, (h.cursor c).phase ≠ .reading st r)
    (gp : ∀ st r, (g.cursor c).phase ≠ .reading st r) :
    Works t K c (h.withPhase c .ended) (g.withPhase c .ended) :=
  ⟨L.conclude own w.1 hp gp, (h.cursor_withPhase_table c .ended).trans w.2⟩

theorem readFirst {c : Nat} (own : mine c) {cursor cursor' : Cursor} (ht : cursor.table = t)
    (same : cursor.outline = cursor'.outline) :
    Leads (fun h g => Works t K c h g ∧ (h.cursor c).sql = cursor.sql ∧
        (h.cursor c).phase = .fresh ∧ (g.cursor c).phase = .fresh)
      (e.readFirst c cursor) (e'.readFirst c cursor') (fun _ => Works t K c) (Works t K c) := by
  have ht' : cursor'.table = t := (congrArg Cursor.table same).symm.trans ht
  have hs : cursor'.sql = cursor.sql := (congrArg Cursor.sql same).symm
  have hp : cursor'.params = cursor.params := (congrArg Cursor.params same).symm
  have hc : cursor'.client = cursor.client := (congrArg Cursor.client same).symm
  -- The cursor is found after the execution as it was before.
  have l := L.link fun cs cs' => ((cs.at? c).getD default).table = t ∧
    ((cs.at? c).getD default).sql = cursor.sql ∧ ((cs.at? c).getD default).phase = .fresh ∧
    ((cs'.at? c).getD default).phase = .fresh
  have ended : ∀ {h g : Host}, K .settled h g → (h.cursor c).table = t →
      (h.cursor c).phase = .fresh → (g.cursor c).phase = .fresh →
      Works t K c (h.withPhase c .ended) (g.withPhase c .ended) := by
    intro h g k table phase phase'
    exact L.conclude_works own ⟨k, table⟩ (fun _ _ q => by rw [phase] at q; cases q)
      fun _ _ q => by rw [phase'] at q; cases q
  unfold Executor.readFirst
  rw [ht, ht', hs, hp, hc]
  refine Coupled.before (Coupled.outcome_bind (l.execute _ _ _) (fun st st' => ?_) fun fault => ?_)
    fun h g q => ⟨q.1.1, q.1.2, q.2⟩
  · refine Coupled.get_bind ?_
    rintro h g ⟨r, k, table, sql, phase, phase'⟩
    rw [← L.plain.result k]
    cases result : (h.statement st).result with
    | none =>
      refine Coupled.modify_bind (T := Works t K c) ?_ (Leads.of_pure none fun _ _ w => w)
      rintro _ _ ⟨rfl, rfl, -⟩
      exact ended (L.idle k result) table phase phase'
    | some n =>
      refine Coupled.modify_bind (T := Reads t K c cursor.sql n st st') ?_
        (L.readNext own ht ht' hs)
      rintro _ _ ⟨rfl, rfl, -⟩
      rw [← sql] at k
      refine ⟨L.suspend own k phase phase' result, ?_, ?_, ?_, ?_⟩
      · exact (Host.cursor_withPhase_table ..).trans table
      · exact (Host.cursor_withPhase_sql ..).trans sql
      · exact Host.cursor_withPhase_phase _ fun q => by cases phase.symm.trans q
      · exact Host.cursor_withPhase_phase _ fun q => by cases phase'.symm.trans q
  · refine Coupled.modify_bind (T := Works t K c) ?_ (Coupled.of_throw fun _ _ w => w)
    rintro h g ⟨k, table, -, phase, phase'⟩
    exact ended k table phase phase'

theorem next {c : Nat} (own : mine c) :
    Leads (Works t K c) (e.next c) (e'.next c) (fun _ => Works t K c) (Works t K c) := by
  refine Coupled.get_bind fun h g w => ?_
  have same := cursor_agree (L.agree w.1) c
  have table : (g.cursor c).table = t := (congrArg Cursor.table same).symm.trans w.2
  have sql : (g.cursor c).sql = (h.cursor c).sql := (congrArg Cursor.sql same).symm
  obtain ⟨phase, phase'⟩ | ⟨phase, phase'⟩ | ⟨r, st, st', phase, phase'⟩ :=
    Cursor.phases_of_outline same
  · simp only [phase, phase']
    refine (L.readFirst own w.2 same).before ?_
    rintro _ _ ⟨rfl, rfl, w⟩
    exact ⟨w, rfl, phase, phase'⟩
  · simp only [phase, phase']
    refine Leads.of_pure none ?_
    rintro _ _ ⟨rfl, rfl, w⟩
    exact w
  · simp only [phase, phase']
    refine (L.readNext own w.2 table sql).before ?_
    rintro _ _ ⟨rfl, rfl, w⟩
    exact ⟨w.1, w.2, rfl, phase, phase'⟩

theorem drainFrom {c : Nat} (own : mine c) (fuel : Nat) :
    Leads (Works t K c) (e.drainFrom c fuel) (e'.drainFrom c fuel) (fun _ => Works t K c)
      (Works t K c) := by
  induction fuel with
  | zero => exact Leads.of_pure [] fun _ _ w => w
  | succ fuel ih =>
    refine Leads.bind (L.next own) fun row => ?_
    cases row with
    | none => exact Leads.of_pure [] fun _ _ w => w
    | some row => exact Leads.bind ih fun rows => Leads.of_pure (row :: rows) fun _ _ w => w

omit L in
/-- The rows that a cursor can still have do not depend on the number of its statement. -/
theorem remaining_agree {h g : Host} (agree : h.outline = g.outline) (c : Nat) :
    remaining h c = remaining g c := by
  unfold remaining
  obtain ⟨phase, phase'⟩ | ⟨phase, phase'⟩ | ⟨r, st, st', phase, phase'⟩ :=
    Cursor.phases_of_outline (cursor_agree agree c)
  · rw [phase, phase']
  · rw [phase, phase']
  · rw [phase, phase']
    simp only [result_agree agree]

theorem drain {c : Nat} (own : mine c) :
    Leads (Works t K c) (e.drain c) (e'.drain c) (fun _ => Works t K c) (Works t K c) := by
  refine Leads.bind (L.next own) fun row => ?_
  cases row with
  | none => exact Leads.of_pure [] fun _ _ w => w
  | some row =>
    refine Coupled.get_bind' fun h g w => ?_
    rw [remaining_agree (L.agree w.1)]
    exact Leads.bind (L.drainFrom own _) fun rows => Leads.of_pure (row :: rows) fun _ _ w => w

theorem closeCursor {c : Nat} (own : mine c) :
    Coupled (Works t K c) (closeCursor c) (closeCursor c) (fun _ _ => Works t K c)
      (Works t K c) := by
  refine Coupled.get_bind fun h g w => ?_
  have same := cursor_agree (L.agree w.1) c
  obtain ⟨phase, phase'⟩ | ⟨phase, phase'⟩ | ⟨r, st, st', phase, phase'⟩ :=
    Cursor.phases_of_outline same
  · simp only [phase, phase']
    refine Coupled.modify_bind (T := Works t K c) ?_ (Coupled.of_pure fun _ _ w => w)
    rintro _ _ ⟨rfl, rfl, w⟩
    exact L.conclude_works own w (fun _ _ q => by cases phase.symm.trans q)
      fun _ _ q => by cases phase'.symm.trans q
  · simp only [phase, phase']
    refine Coupled.modify_bind (T := Works t K c) ?_ (Coupled.of_pure fun _ _ w => w)
    rintro _ _ ⟨rfl, rfl, w⟩
    exact L.conclude_works own w (fun _ _ q => by cases phase.symm.trans q)
      fun _ _ q => by cases phase'.symm.trans q
  · simp only [phase, phase']
    have l := L.link fun cs _ => ((cs.at? c).getD default).table = t
    refine Coupled.modify_bind (T := fun k k' =>
      K (.spent (h.cursor c).sql r st st') k k' ∧ (k.cursor c).table = t) ?_ ?_
    · rintro _ _ ⟨rfl, rfl, w⟩
      exact ⟨L.resume own w.1 phase phase', (Host.cursor_withPhase_table ..).trans w.2⟩
    · exact l.close _ r st st'

end CursorLogic

end LinkedTables
