import LinkedTables.Proofs.UndoLog

/-!
# Updates that nothing disturbs

A remote side that never fails answers every statement, and a table whose link is ready on an open
session finds it there: `Host.Undisturbed`. Then an attempt is won at once, so that what is sent are
the statements themselves, each one time and in their order, and nothing that a later statement
depends on has changed behind it (`Host.Executed`). An update is carried out as a whole
(`executed_updateRows`).
-/

namespace LinkedTables

open LinkedTables.Action

namespace Remote.Script

/-- Every statement to come is answered, and no command is cancelled meanwhile. -/
def Willing (s : Script) : Prop := ∀ answer ∈ s.answers, ∃ rows, answer = .ok ⟨rows, false⟩

theorem execute_of_willing {s : Script} (willing : s.Willing) :
    (∃ rows, s.execute.1 = .ok ⟨rows, false⟩) ∧ s.execute.2.Willing := by
  obtain ⟨connectors, connects, probes, answers, invalidations, typeObjects⟩ := s
  cases answers with
  | nil => exact ⟨⟨[], rfl⟩, willing⟩
  | cons answer rest =>
    exact ⟨willing answer (List.mem_cons_self ..),
      fun later there => willing later (List.mem_cons_of_mem _ there)⟩

end Remote.Script

/-- Nothing keeps the statements for a table from being executed: the table may be changed, its link
is ready on an open session, and the remote side answers. -/
structure Host.Undisturbed (t : Nat) (h : Host) : Prop where
  writable : (h.table t).readOnly = false
  valid : (h.table t).valid = true
  ready : ∃ s, readySession (h.table t) = .ok s ∧ (h.session s).closed = false
  willing : h.script.Willing

/-- The statements were sent and executed in their order, and nothing else; whatever was on the way
of a statement before is so still. -/
structure Host.Executed (ms : List Sent) (h h' : Host) : Prop where
  tables : h'.tables = h.tables
  converted : h'.converted = h.converted
  cancelled : h'.cancelled = h.cancelled
  face : ∀ s, (h'.session s).face = (h.session s).face
  willing : h.script.Willing → h'.script.Willing
  shelved : Shelved h h'
  sent : h'.sent = ms.reverse ++ h.sent

variable {t : Nat} {h h' h'' : Host}

namespace Host.Executed

variable {ms ms' : List Sent}

theorem trans (a : Executed ms h h') (b : Executed ms' h' h'') : Executed (ms ++ ms') h h'' :=
  ⟨b.tables.trans a.tables, b.converted.trans a.converted, b.cancelled.trans a.cancelled,
    fun s => (b.face s).trans (a.face s), fun willing => b.willing (a.willing willing),
    LinkedTables.shelved.trans a.shelved b.shelved,
    by rw [b.sent, a.sent, List.reverse_append, List.append_assoc]⟩

theorem of_calm (c : Calm h h') : Executed [] h h' :=
  ⟨c.tables, converted_of_clients c.clients, c.cancelled, c.face, fun w => c.script.symm ▸ w,
    c.shelved, c.sent⟩

/-- Work behind statements that sends nothing. -/
theorem behind (a : Executed ms h h') (c : Calm h' h'') : Executed ms h h'' :=
  List.append_nil ms ▸ a.trans (of_calm c)

/-- Work before statements that sends nothing. -/
theorem before (c : Calm h h') (a : Executed ms h' h'') : Executed ms h h'' := (of_calm c).trans a

theorem table (a : Executed ms h h') (u : Nat) : h'.table u = h.table u := by
  rw [Host.table, a.tables]
  rfl

/-- Recording changes no client's way to convert values. -/
theorem of_recording (h : Host) (client : Nat) (records : List UndoRecord) :
    Executed [] h { h with clients := h.recording client records } := by
  refine ⟨rfl, ?_, rfl, fun _ => rfl, id, .of_same rfl rfl, rfl⟩
  funext of v
  cases of with
  | none => rfl
  | some c =>
    simp only [Host.converted, recording, Roster.at?_revise]
    split
    · cases h.clients.at? c <;> rfl
    · rfl

/-- What was undisturbed stays so. -/
theorem undisturbed (a : Executed ms h h') (u : h.Undisturbed t) : h'.Undisturbed t := by
  obtain ⟨s, ready, opened⟩ := u.ready
  refine ⟨?_, ?_, ⟨s, ?_, (closed_of_face (a.face s)).trans opened⟩, a.willing u.willing⟩
  · rw [a.table, u.writable]
  · rw [a.table, u.valid]
  · rw [a.table, ready]

/-- A statement is written and bound as it was before. -/
theorem rowMessage (a : Executed ms h h') (client : Option Nat)
    (statement : Except Fault Sql.RowStatement) :
    rowMessage h' t client statement = rowMessage h t client statement := by
  have quote : quoteFor h' t = quoteFor h t := by
    rw [quoteFor, quoteFor, a.table]
    cases (h.table t).session with
    | none => rfl
    | some s =>
      dsimp only
      rw [dialect_of_face (a.face s)]
  simp only [Action.rowMessage, Host.message, quote, a.table, a.converted]

theorem message (a : Executed ms h h') (client : Nat) (edit : Edit) :
    edit.message h' t client = edit.message h t client := by
  rw [Edit.message, Edit.message, a.rowMessage, a.table]

end Host.Executed

namespace Action

open Host

/-! ### One statement -/

/-- A statement that an open session has prepared is executed. -/
theorem executed_executeStatement {s st : Nat} {sql : String} {values : List Value}
    (prepared : h.Prepared s sql st) (opened : (h.session s).closed = false)
    (willing : h.script.Willing) :
    Reaches (executeStatement st values) h fun r h' =>
      r.toBool = true ∧ Host.Executed [⟨(Sql.numberMarkers sql).1, values⟩] h h' := by
  refine .past (closeResult_succeeds st) (calm_closeResult st) fun _ h₁ closed => .get_bind ?_
  obtain ⟨-, here, own⟩ := closed.shelved.prepared prepared
  replace opened : (h₁.session s).closed = false := (closed_of_face (closed.face s)).trans opened
  replace willing : h₁.script.Willing := closed.script.symm ▸ willing
  dsimp only
  rw [here, own]
  generalize Sql.numberMarkers sql = marked
  obtain ⟨text, n⟩ := marked
  refine .modify_bind ?_
  rw [opened]
  obtain ⟨⟨rows, answered⟩, left⟩ := Remote.Script.execute_of_willing willing
  refine .of_ite nofun fun _ => .fromScript_bind (.bind_ofExcept (fun answer e => ?_) fun _ e => ?_)
  · obtain rfl : ⟨rows, false⟩ = answer := Except.ok.inj (answered.symm.trans e)
    -- The result is opened, and put to the statement.
    refine .get_bind (.modify_bind (.past (.of_modify _)
      (calm_reviseStatement st (fun _ => rfl) fun _ => rfl) fun _ _ put => ⟨rfl, ?_⟩))
    refine .before closed (.behind ?_ put)
    exact ⟨rfl, rfl, Bool.or_false _, fun _ => rfl, fun _ => left, .of_same rfl rfl, rfl⟩
  · rw [answered] at e
    cases e

/-- An attempt on an open session is won. -/
theorem executed_attemptExecute (u : Nat) {s : Nat} (sql : String) {params values : List Value}
    {client : Option Nat} (truthful : h.Truthful)
    (bound : params.mapM (h.converted client) = .ok values)
    (opened : (h.session s).closed = false) (willing : h.script.Willing) :
    Reaches (attemptExecute u s sql params client) h fun r h' =>
      ∃ st, r = .ok (.ok st) ∧ h'.Prepared s sql st
        ∧ Host.Executed [⟨(Sql.numberMarkers sql).1, values⟩] h h' := by
  refine reaches_attemptExecute truthful bound fun st g found prepared => ?_
  refine .outcome_bind (executed_executeStatement prepared
    ((closed_of_face (found.face s)).trans opened) (found.script.symm ▸ willing)) ?_
  rintro (_ | _) h' ⟨won, executed⟩
  · cases won
  · exact ⟨st, rfl, executed.shelved.prepared prepared, .before found executed⟩

/-- A statement on an open session needs no other attempt. -/
theorem executed_executeFrom (t : Nat) {s : Nat} (sql : String) {params values : List Value}
    {client : Option Nat} (truthful : h.Truthful)
    (bound : params.mapM (h.converted client) = .ok values)
    (opened : (h.session s).closed = false) (willing : h.script.Willing) (left : Nat) :
    Reaches (executeFrom t sql params client s left) h fun r h' =>
      ∃ st, r = .ok st ∧ h'.Prepared s sql st
        ∧ Host.Executed [⟨(Sql.numberMarkers sql).1, values⟩] h h' := by
  have won := executed_attemptExecute t sql truthful bound opened willing
  cases left with
  | zero =>
    refine .bind won ?_ fun _ _ lost => nomatch lost
    rintro _ h' ⟨st, e, executed⟩
    cases e
    exact ⟨st, rfl, executed⟩
  | succ left =>
    refine .bind won ?_ fun _ _ lost => nomatch lost
    rintro _ h' ⟨st, e, executed⟩
    cases e
    exact ⟨st, rfl, executed⟩

/-- A statement is executed on the open session of its table, and handed back. -/
theorem executed_run (sql : String) {params values : List Value} {client : Option Nat}
    (truthful : h.Truthful) (undisturbed : h.Undisturbed t)
    (bound : params.mapM (h.converted client) = .ok values) :
    Reaches (run t sql params client) h fun r h' =>
      r = .ok () ∧ Host.Executed [⟨(Sql.numberMarkers sql).1, values⟩] h h' := by
  obtain ⟨s, ready, opened⟩ := undisturbed.ready
  have required : h.act (requireSession t) = (.ok s, h) := by
    rw [requireSession, act_get_bind, ready]
    rfl
  refine .bind (P := fun r h' => ∃ st, r = .ok st ∧ h'.Prepared s sql st
    ∧ Host.Executed [⟨(Sql.numberMarkers sql).1, values⟩] h h') ?_ ?_ fun _ _ lost => nomatch lost
  · rw [execute, Reaches, act_bind, required]
    exact executed_executeFrom t sql truthful bound opened undisturbed.willing maxRetry
  · rintro st h₁ ⟨_, e, ⟨known, -, own⟩, executed⟩
    cases e
    obtain ⟨_, succeeded⟩ := handBack_succeeds t st sql h₁
    exact ⟨succeeded, executed.behind (calm_handBack known own)⟩

/-- A message is that of a text with bound values. -/
theorem exists_of_message {client : Option Nat} {sql : String} {params : List Value} {m : Sent}
    (made : h.message client sql params = .ok m) :
    ∃ values, params.mapM (h.converted client) = .ok values
      ∧ m = ⟨(Sql.numberMarkers sql).1, values⟩ := by
  obtain ⟨values, bound, made⟩ := Success.exists_of_bind made
  cases made
  exact ⟨values, bound, rfl⟩

/-- What is worked in the name of a link is the same work. -/
theorem executed_inLink {name : String} {x : Action Unit} {ms : List Sent}
    (worked : Reaches x { h with link := some name } fun r h' =>
      r = .ok () ∧ Host.Executed ms { h with link := some name } h') :
    Reaches (inLink name x) h fun r h' => r = .ok () ∧ Host.Executed ms h h' := by
  rw [Reaches, act_inLink]
  exact ⟨worked.1, .behind (.before (Calm.link h _) worked.2) (Calm.link _ _)⟩

/-- A statement about rows is executed in the name of its table. -/
theorem executed_runRows {client : Option Nat} {statement : Except Fault Sql.RowStatement}
    {m : Sent} (truthful : h.Truthful) (undisturbed : h.Undisturbed t)
    (made : rowMessage h t client statement = .ok m) :
    Reaches (runRows t client statement) h fun r h' => r = .ok () ∧ Host.Executed [m] h h' := by
  cases statement with
  | error _ => cases made
  | ok statement =>
    obtain ⟨values, bound, rfl⟩ := exists_of_message made
    refine .bind_ofExcept (fun _ e => ?_) nofun
    cases e
    refine .get_bind (.get_bind (.bind_ofExcept (fun _ _ => ?_) fun _ invalid => ?_))
    · have entered := Calm.link h (some (h.table t).name)
      exact executed_inLink (executed_run (statement.text (quoteFor h t) (h.table t).qualifiedName)
        (entered.shelved.truthful truthful) ((Host.Executed.of_calm entered).undisturbed undisturbed)
        bound)
    · rw [LinkedTable.checkValid, undisturbed.valid] at invalid
      cases invalid

/-! ### Edits -/

/-- A table that may be changed passes the check for it. -/
theorem act_checkChange (undisturbed : h.Undisturbed t) : h.act (checkChange t) = (.ok (), h) := by
  rw [checkChange, act_get_bind]
  dsimp only
  rw [LinkedTable.checkWritable, LinkedTable.checkValid, undisturbed.writable, undisturbed.valid]
  rfl

section

variable {client : Nat} {edit : Edit} {m : Sent} (truthful : h.Truthful)
  (undisturbed : h.Undisturbed t) (made : edit.message h t client = .ok m)
include truthful undisturbed made

theorem executed_work :
    Reaches (edit.work t client) h fun r h' => r = .ok () ∧ Host.Executed [m] h h' := by
  have checked {x : Action Unit} {Q : Except Fault Unit → Host → Prop} (hx : Reaches x h Q) :
      Reaches (do checkChange t; x) h Q := by
    rw [Reaches, act_bind, act_checkChange undisturbed]
    exact hx
  cases edit with
  | update old new => exact .get_bind (executed_runRows truthful undisturbed made)
  | delete row => exact checked (.get_bind (executed_runRows truthful undisturbed made))
  | insert row => exact checked (.get_bind (executed_runRows truthful undisturbed made))

/-- An edit is carried out, with its statement executed once. -/
theorem executed_apply (going : h.cancelled = false) :
    Reaches (edit.apply t client) h fun r h' => r = .ok () ∧ Host.Executed [m] h h' := by
  refine .bind (P := fun r h' => r = .ok () ∧ h = h') ?_ ?_ fun _ _ lost => nomatch lost.1
  · rw [checkCancelled, Reaches, act_get_bind, going]
    exact ⟨rfl, rfl⟩
  · rintro _ _ ⟨-, rfl⟩
    refine .bind (executed_work truthful undisturbed made) ?_ fun _ _ lost => nomatch lost.1
    rintro _ h₁ ⟨-, executed⟩
    refine .get_bind ?_
    rw [Reaches, act_record]
    have recorded := executed.trans (Host.Executed.of_recording h₁ client
      (edit.records (h₁.table t).label))
    exact ⟨rfl, recorded⟩

end

/-- Edits are carried out one after the other. -/
theorem executed_edits {client : Nat} {edits : List Edit} {ms : List Sent} (truthful : h.Truthful)
    (undisturbed : h.Undisturbed t) (going : h.cancelled = false)
    (made : edits.mapM (fun edit => edit.message h t client) = .ok ms) :
    Reaches (edits.forM (Edit.apply t client)) h fun r h' => r = .ok () ∧ Host.Executed ms h h' := by
  induction edits generalizing h ms with
  | nil =>
    cases made
    exact ⟨rfl, .of_calm (calm.refl h)⟩
  | cons edit edits ih =>
    obtain ⟨m, ms, first, later, rfl⟩ := Success.exists_of_mapM_cons made
    refine .bind (executed_apply truthful undisturbed first going) ?_ fun _ _ lost => nomatch lost.1
    rintro _ h₁ ⟨-, executed⟩
    have rest := ih (executed.shelved.truthful truthful) (executed.undisturbed undisturbed)
      (executed.cancelled.trans going) (by simpa only [executed.message] using later)
    exact ⟨rest.1, executed.trans rest.2⟩

end Action

/-- An update of a table that nothing disturbs is carried out, and what is sent are the statements
of its edits. -/
theorem executed_updateRows {client : Nat} {pairs : List (List Value × List Value)}
    {ms : List Sent} (truthful : h.Truthful) (undisturbed : h.Undisturbed t)
    (going : h.cancelled = false)
    (made : (Edit.ofPairs (h.table t).definition.emitUpdates pairs).mapM
      (fun edit => edit.message h t client) = .ok ms) :
    Reaches (updateRows t client pairs) h fun r h' => r = .ok () ∧ Host.Executed ms h h' := by
  rw [updateRows_edits]
  refine .bind (P := fun r h' => r = .ok () ∧ h = h') ?_ ?_ fun _ _ lost => nomatch lost.1
  · rw [Reaches, act_checkChange undisturbed]
    exact ⟨rfl, rfl⟩
  · rintro _ _ ⟨-, rfl⟩
    have entered := Calm.link h (some (h.table t).name)
    exact .get_bind (executed_inLink (executed_edits (entered.shelved.truthful truthful)
      ((Host.Executed.of_calm entered).undisturbed undisturbed) going made))

end LinkedTables
