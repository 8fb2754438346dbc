import LinkedTables.Proofs.StatementAttempts
import LinkedTables.Proofs.TableInService

/-!
# The undo log of an update

An update of rows is a list of edits (`updateRows_edits`), each of which is one statement for the
remote side: an UPDATE for each pair of rows, or a DELETE for each old row and then an INSERT for
each new one. An edit asks whether the command has been cancelled, sends its statement until it is
executed, and then records what was changed. A `Course` of edits goes on until one fails, so that
the records of an update are those of the edits whose statements have been executed
(`undo_of_updateRows`).
-/

namespace LinkedTables

open LinkedTables.Action

/-- What an update asks of the remote side at a time. -/
inductive Edit where
  | update (old new : List Value)
  | delete (row : List Value)
  | insert (row : List Value)

namespace Edit

/-- The edits of an update, given as pairs of the old and the new row, in their order. -/
def ofPairs (emits : Bool) (pairs : List (List Value × List Value)) : List Edit :=
  if emits then pairs.map fun pair => update pair.1 pair.2
  else (pairs.map fun pair => delete pair.1) ++ pairs.map fun pair => insert pair.2

/-- The records of an edit in the undo log, under the name of its table. -/
def records (label : String) : Edit → List UndoRecord
  | update old new => [⟨label, .delete, old⟩, ⟨label, .insert, new⟩]
  | delete row => [⟨label, .delete, row⟩]
  | insert row => [⟨label, .insert, row⟩]

/-- The statement of an edit, for a table. -/
def statement (table : LinkedTable) : Edit → Except Fault Sql.RowStatement
  | update old new => Sql.updateRow (readiness table) table.name table.columns old new
  | delete row => Sql.deleteRow (readiness table) table.name table.columns row
  | insert row => Sql.insertRow (readiness table) table.columns row

/-- The statement of an edit as it is sent for a client. -/
def message (h : Host) (t client : Nat) (edit : Edit) : Except Fault Sent :=
  rowMessage h t (some client) (edit.statement (h.table t))

/-- What an edit does on the remote side. -/
def work (t client : Nat) : Edit → Action Unit
  | update old new => updateRow t (some client) old new
  | delete row => removeRow t (some client) row
  | insert row => addRow t (some client) row

/-- An edit, which is recorded behind its work. -/
def apply (t client : Nat) (edit : Edit) : Action Unit := do
  checkCancelled
  edit.work t client
  (edit.records ((← get).table t).label).forM (recordChange client)

end Edit

/-- An update does its edits, if the table may be changed. -/
theorem updateRows_edits (t client : Nat) (pairs : List (List Value × List Value)) :
    updateRows t client pairs = (do
      checkChange t
      let table := (← get).table t
      inLink table.name
        ((Edit.ofPairs table.definition.emitUpdates pairs).forM (Edit.apply t client))) := by
  -- What an edit of each kind comes to: its work, and the changes that it records.
  have update (old new : List Value) : Edit.apply t client (.update old new) = (do
      checkCancelled
      updateRow t (some client) old new
      let label := ((← get).table t).label
      recordChange client ⟨label, .delete, old⟩
      recordChange client ⟨label, .insert, new⟩) := by
    simp only [Edit.apply, Edit.work, Edit.records, List.forM_eq_forM, List.forM_cons,
      List.forM_nil, bind_pure_unit]
  have delete (row : List Value) : Edit.apply t client (.delete row) = (do
      checkCancelled
      removeRow t (some client) row
      recordChange client ⟨((← get).table t).label, .delete, row⟩) := by
    simp only [Edit.apply, Edit.work, Edit.records, List.forM_eq_forM, List.forM_cons,
      List.forM_nil, bind_pure_unit]
  have insert (row : List Value) : Edit.apply t client (.insert row) = (do
      checkCancelled
      addRow t (some client) row
      recordChange client ⟨((← get).table t).label, .insert, row⟩) := by
    simp only [Edit.apply, Edit.work, Edit.records, List.forM_eq_forM, List.forM_cons,
      List.forM_nil, bind_pure_unit]
  -- An update that emits updates goes through the pairs once, and any other twice, with all old
  -- rows first.
  have emitted : (Edit.ofPairs true pairs).forM (Edit.apply t client)
      = emitUpdates t client pairs := by
    simp only [Edit.ofPairs, if_true, List.forM_eq_forM, List.forM_map, update]
    rfl
  have replaced : (Edit.ofPairs false pairs).forM (Edit.apply t client)
      = (rowStore t client).replace pairs := by
    simp only [Edit.ofPairs, Bool.false_eq_true, if_false, List.forM_eq_forM, List.forM_append,
      List.forM_map, delete, insert]
    rfl
  refine congrArg (checkChange t >>= ·) (funext fun _ => congrArg (get >>= ·) (funext fun h => ?_))
  dsimp only
  cases (h.table t).definition.emitUpdates
  · rw [replaced]
    rfl
  · rw [emitted]
    rfl

/-! ### Recording -/

/-- The clients, with records in the undo log of one of them. -/
def Host.recording (h : Host) (client : Nat) (records : List UndoRecord) : Roster Client :=
  h.clients.revise client fun c => { c with undo := c.undo ++ records }

theorem recording_nil (h : Host) (client : Nat) : h.recording client [] = h.clients := by
  have same : (fun c : Client => { c with undo := c.undo ++ [] }) = id := by
    funext c
    rw [List.append_nil]
    rfl
  rw [Host.recording, same]
  exact List.modify_id ..

theorem recording_append {h h₁ : Host} {client : Nat} {records : List UndoRecord}
    (recorded : h₁.clients = h.recording client records) (later : List UndoRecord) :
    h₁.recording client later = h.recording client (records ++ later) := by
  rw [Host.recording, recorded, Host.recording, Roster.revise_revise, Host.recording]
  simp only [List.append_assoc]

/-- Recording changes the undo log of one client. -/
theorem act_record (h : Host) (client : Nat) (records : List UndoRecord) :
    h.act (records.forM (recordChange client))
      = (.ok (), { h with clients := h.recording client records }) := by
  induction records generalizing h with
  | nil => rw [recording_nil]; rfl
  | cons record records ih =>
    show ({ h with clients := h.recording client [record] } : Host).act
      (records.forM (recordChange client)) = _
    have recorded : ({ h with clients := h.recording client [record] } : Host).clients
        = h.recording client [record] := rfl
    rw [ih, recording_append recorded]
    rfl

/-! ### One edit -/

/-- The edit was carried out for a command that had not been cancelled: its statement was sent,
again after a reconnect if need be, until the remote side executed it, once; and what it changed was
recorded for its client, and for nobody else. -/
structure Carried (t client : Nat) (edit : Edit) (h h' : Host) : Prop where
  applied : h.act (edit.apply t client) = (.ok (), h')
  going : h.cancelled = false
  sent : ∃ message again, edit.message h t client = .ok message ∧ again ≤ maxRetry
    ∧ h'.sent = List.replicate (again + 1) message ++ h.sent
  answered : h'.results.next = h.results.next + 1
  recorded : h'.clients = h.recording client (edit.records (h.table t).label)
  standing : (h'.table t).standing = (h.table t).standing

/-- The edit ended in a fault: nothing but its statement was sent, not even that for a command that
had been cancelled; the remote side did not execute it, and nothing was recorded. -/
structure Failed (t client : Nat) (edit : Edit) (fault : Fault) (h h' : Host) : Prop where
  applied : h.act (edit.apply t client) = (.error fault, h')
  sent : ∃ attempts : List Sent, h'.sent = attempts ++ h.sent ∧ attempts.length ≤ maxRetry + 1
    ∧ (∀ m ∈ attempts, edit.message h t client = .ok m) ∧ (h.cancelled = true → attempts = [])
  answered : h'.results.next = h.results.next
  recorded : h'.clients = h.clients

section

variable {h h' : Host} {t : Nat}

theorem label_of_standing {table table' : LinkedTable} (same : table'.standing = table.standing) :
    table'.label = table.label :=
  show table'.standing.label = table.standing.label by rw [same]

theorem tried_work (client : Nat) (edit : Edit) (truthful : h.Truthful) :
    Reaches (edit.work t client) h fun r h' =>
      Tried t (edit.message h t client) (maxRetry + 1) r.toBool h h' := by
  have checked {x : Action Unit} {m : Except Fault Sent}
      (hx : Reaches x h fun r h' => Tried t m (maxRetry + 1) r.toBool h h') :
      Reaches (do checkChange t; x) h fun r h' => Tried t m (maxRetry + 1) r.toBool h h' := by
    have untouched : Tried t m (maxRetry + 1) false h h := ((aside t).refl h).tried _ _
    have unchanged : Reaches (checkChange t) h fun _ h' => h = h' :=
      .get_bind (.bind_ofExcept (fun _ _ => by cases (h.table t).checkValid <;> rfl) fun _ _ => rfl)
    exact .bind unchanged (fun _ _ same => same ▸ hx) fun _ _ same => same ▸ untouched
  cases edit with
  | update old new => exact .get_bind (tried_runRows t (some client) _ truthful)
  | delete row => exact checked (.get_bind (tried_runRows t (some client) _ truthful))
  | insert row => exact checked (.get_bind (tried_runRows t (some client) _ truthful))

/-- What an edit leaves behind. -/
theorem edit_apply (client : Nat) (edit : Edit) {r : Except Fault Unit} (truthful : h.Truthful)
    (has : (h.table t).indexes ≠ []) (e : h.act (edit.apply t client) = (r, h')) :
    match r with
    | .ok _ => Carried t client edit h h' ∧ h'.Truthful
    | .error fault => Failed t client edit fault h h' := by
  have applied := e
  rw [Edit.apply, checkCancelled, Host.act_bind, Host.act_get_bind] at e
  cases going : h.cancelled with
  | true =>
    rw [going] at e
    cases e
    exact ⟨applied, ⟨[], rfl, Nat.zero_le _, by simp, fun _ => rfl⟩, rfl, rfl⟩
  | false =>
    rw [going] at e
    replace e : h.act (edit.work t client >>= _) = (r, h') := e
    have tried := tried_work (t := t) client edit truthful
    rw [Reaches] at tried
    rw [Host.act_bind] at e
    generalize h.act (edit.work t client) = p at tried e
    obtain ⟨fault | _, h₁⟩ := p
    · cases e
      obtain ⟨attempts, sent, few, same, -⟩ := tried.sent
      exact ⟨applied, ⟨attempts, sent, few, same, fun c => by rw [going] at c; cases c⟩,
        tried.answered, tried.clients⟩
    · dsimp only at e
      rw [Host.act_get_bind, act_record] at e
      cases e
      have standing := tried.kept has
      obtain ⟨attempts, sent, few, same, some_attempt⟩ := tried.sent
      obtain ⟨message, again, rfl⟩ := List.exists_cons_of_ne_nil (some_attempt rfl)
      have made : edit.message h t client = .ok message := same message (List.mem_cons_self ..)
      -- Every attempt was made with the same message.
      have every : message :: again = List.replicate (again.length + 1) message :=
        List.eq_replicate_of_mem fun m hm => Except.ok.inj ((same m hm).symm.trans made)
      refine ⟨⟨applied, going, ⟨message, again.length, made, Nat.le_of_succ_le_succ few, ?_⟩,
        tried.answered, ?_, standing⟩, ?_⟩
      · exact sent.trans (by rw [every])
      · show h₁.recording client _ = _
        rw [Host.recording, tried.clients, label_of_standing standing]
        rfl
      · exact (Shelved.of_same rfl rfl).truthful (tried.shelved.truthful truthful)

end

/-! ### The course of an update -/

/-- Edits are carried out one after the other until all are done, or one of them fails; those that
come after it are not even begun. The second list has the edits that were carried out. -/
inductive Course (t client : Nat) : Host → List Edit → List Edit → Except Fault Unit → Host → Prop
  | finished (h : Host) : Course t client h [] [] (.ok ()) h
  | failed {h h' : Host} {edit : Edit} {rest : List Edit} {fault : Fault}
      (failed : Failed t client edit fault h h') :
      Course t client h (edit :: rest) [] (.error fault) h'
  | carried {h h₁ h' : Host} {edit : Edit} {rest done : List Edit} {r : Except Fault Unit}
      (carried : Carried t client edit h h₁) (later : Course t client h₁ rest done r h') :
      Course t client h (edit :: rest) (edit :: done) r h'

namespace Course

variable {t client : Nat} {h h' : Host} {edits done : List Edit} {r : Except Fault Unit}
  (c : Course t client h edits done r h')
include c

/-- What was carried out are the first of the edits. -/
theorem done_prefix : done <+: edits := by
  induction c with
  | finished h => exact List.prefix_rfl
  | failed _ => exact List.nil_prefix
  | carried _ _ ih => exact List.cons_prefix_cons.mpr ⟨rfl, ih⟩

/-- Without a fault all edits have been carried out. -/
theorem done_of_ok (ok : r = .ok ()) : done = edits := by
  induction c with
  | finished h => rfl
  | failed _ => cases ok
  | carried _ _ ih => rw [ih ok]

/-- The remote side has executed one statement for each edit that was carried out. -/
theorem answered : h'.results.next = h.results.next + done.length := by
  induction c with
  | finished h => rfl
  | failed failed => exact failed.answered
  | carried carried _ ih =>
    rw [ih, carried.answered, List.length_cons]
    omega

/-- The records are those of the edits that were carried out. -/
theorem recorded :
    h'.clients = h.recording client (done.flatMap (Edit.records (h.table t).label)) := by
  induction c with
  | finished h => exact (recording_nil h client).symm
  | failed failed => exact failed.recorded.trans (recording_nil _ client).symm
  | carried carried _ ih =>
    rw [ih, label_of_standing carried.standing, recording_append carried.recorded]
    rfl

end Course

/-- Edits take their course. -/
theorem course_of_edits {t client : Nat} (edits : List Edit) {h h' : Host}
    {r : Except Fault Unit} (truthful : h.Truthful) (has : (h.table t).indexes ≠ [])
    (e : h.act (edits.forM (Edit.apply t client)) = (r, h')) :
    ∃ done, Course t client h edits done r h' := by
  induction edits generalizing h with
  | nil =>
    cases e
    exact ⟨[], .finished _⟩
  | cons edit edits ih =>
    replace e : h.act (edit.apply t client >>= fun _ => edits.forM (Edit.apply t client))
        = (r, h') := e
    rw [Host.act_bind] at e
    generalize first : h.act (edit.apply t client) = p at e
    obtain ⟨fault | _, h₁⟩ := p
    · cases e
      exact ⟨[], .failed (edit_apply client edit truthful has first)⟩
    · obtain ⟨carried, truthful⟩ := edit_apply client edit truthful has first
      have has : (h₁.table t).indexes ≠ [] := indexes_of_standing carried.standing ▸ has
      obtain ⟨done, later⟩ := ih truthful has e
      exact ⟨edit :: done, .carried carried later⟩

/-! ### The update as a whole -/

section Forms

variable {pairs : List (List Value × List Value)} {done : List Edit}

/-- The first edits of an update that emits updates are those of the first pairs. -/
theorem prefix_emitted (first : done <+: Edit.ofPairs true pairs) :
    ∃ k, k ≤ pairs.length ∧ done = (pairs.take k).map fun pair => .update pair.1 pair.2 := by
  have short := first.length_le
  have taken := List.prefix_iff_eq_take.mp first
  simp only [Edit.ofPairs, if_true, List.length_map] at short taken
  exact ⟨done.length, short, by rw [List.map_take]; exact taken⟩

/-- The first edits of an update that replaces rows delete the first old rows, and insert the first
new rows only behind all of them. -/
theorem prefix_replaced (first : done <+: Edit.ofPairs false pairs) :
    ∃ j m, j ≤ pairs.length ∧ m ≤ pairs.length ∧ (0 < m → j = pairs.length)
      ∧ done = ((pairs.take j).map fun pair => .delete pair.1)
        ++ (pairs.take m).map fun pair => .insert pair.2 := by
  have short := first.length_le
  have taken := List.prefix_iff_eq_take.mp first
  simp only [Edit.ofPairs, Bool.false_eq_true, if_false, List.length_append, List.length_map]
    at short taken
  refine ⟨min done.length pairs.length, done.length - pairs.length, by omega, by omega, by omega,
    taken.trans ?_⟩
  rw [List.take_append, List.length_map, List.map_take, List.map_take]
  congr 1
  rw [List.take_eq_take_min, List.length_map]

end Forms

/-- An update is refused as a whole, or its edits take their course in the name of the table. -/
theorem course_of_updateRows {t client : Nat} {pairs : List (List Value × List Value)}
    {h h' : Host} {r : Except Fault Unit} (truthful : h.Truthful)
    (has : (h.table t).valid = true → (h.table t).indexes ≠ [])
    (e : h.act (updateRows t client pairs) = (r, h')) :
    (((h.table t).readOnly = true ∨ (h.table t).valid = false) ∧ r.toBool = false ∧ h' = h) ∨
      ∃ done g, Course t client { h with link := some (h.table t).name }
        (Edit.ofPairs (h.table t).definition.emitUpdates pairs) done r g
        ∧ h' = { g with link := h.link } := by
  rw [updateRows_edits, checkChange, Host.act_bind, Host.act_get_bind] at e
  dsimp only at e
  rw [LinkedTable.checkWritable, LinkedTable.checkValid] at e
  -- The table may refuse the update as a whole, before any edit is made.
  cases readOnly : (h.table t).readOnly with
  | true =>
    rw [readOnly] at e
    cases e
    exact .inl ⟨.inl rfl, rfl, rfl⟩
  | false =>
    cases valid : (h.table t).valid with
    | false =>
      rw [readOnly, valid] at e
      cases e
      exact .inl ⟨.inr rfl, rfl, rfl⟩
    | true =>
      rw [readOnly, valid] at e
      replace e : h.act (inLink (h.table t).name ((Edit.ofPairs (h.table t).definition.emitUpdates
        pairs).forM (Edit.apply t client))) = (r, h') := e
      obtain ⟨g, worked, rfl⟩ := Host.exists_of_act_inLink e
      have truthful : ({ h with link := some (h.table t).name } : Host).Truthful :=
        (Shelved.of_same rfl rfl).truthful truthful
      obtain ⟨done, course⟩ := course_of_edits _ truthful (has valid) worked
      exact .inr ⟨done, g, course, rfl⟩

/-- The undo log mirrors the remote side. Wherever an update of a table that was created at a desk
ends, for whatever reason and whatever else was asked for before, it has carried out the first of
its edits, one by one in their order. Each of these was begun only while the command had not been
cancelled, and sent as often as it took the remote side to execute it, once; the edit that failed,
if there is one, was not executed, and not even sent for a command that had been cancelled by then
(`Course`). What was recorded are the records of the edits that were carried out: with updates
emitted, a deletion and an insertion for each of the first `k` pairs; otherwise the deletions of the
first `j` old rows, and then the insertions of the first `m` new rows, with `m` positive only if all
old rows have been deleted. The update ends without a fault only if all edits have been carried
out. -/
theorem undo_of_updateRows {desk : Desk} {t client : Nat} {cancelled : Bool}
    {pairs : List (List Value × List Value)} (created : desk.Created t) :
    let h := desk.host
    let table := h.table t
    let emits := table.definition.emitUpdates
    let ran := h.perform (.updateRows t client cancelled pairs)
    ∃ done : List Edit,
      (((table.readOnly = true ∨ table.valid = false) ∧ done = [] ∧ ran.1.toBool = false
          ∧ ran.2.sent = h.sent) ∨
        ∃ r g, Course t client { h with cancelled, link := some table.name }
          (Edit.ofPairs emits pairs) done r g
          ∧ ran = (r.map fun _ => .done, { g with link := h.link }))
      ∧ ran.2.results.next = h.results.next + done.length
      ∧ ran.2.clients = h.recording client (done.flatMap (Edit.records table.label))
      ∧ (emits = true → ∃ k, k ≤ pairs.length
        ∧ done = ((pairs.take k).map fun pair => .update pair.1 pair.2)
        ∧ ran.2.clients = h.recording client ((pairs.take k).flatMap fun pair =>
          [⟨table.label, .delete, pair.1⟩, ⟨table.label, .insert, pair.2⟩]))
      ∧ (emits = false → ∃ j m, j ≤ pairs.length ∧ m ≤ pairs.length
        ∧ (0 < m → j = pairs.length)
        ∧ done = ((pairs.take j).map fun pair => .delete pair.1)
          ++ ((pairs.take m).map fun pair => .insert pair.2)
        ∧ ran.2.clients = h.recording client
          (((pairs.take j).map fun pair => ⟨table.label, .delete, pair.1⟩)
            ++ (pairs.take m).map fun pair => ⟨table.label, .insert, pair.2⟩))
      ∧ (ran.1.toBool = true → done = Edit.ofPairs emits pairs) := by
  intro h table emits ran
  obtain ⟨-, sound⟩ := Desk.inService_of_created created
  have truthful := Desk.truthful_of_created created
  -- An update that came to no fault is done, and nothing else comes back.
  obtain ⟨r, h', begun, replied⟩ : ∃ r h',
      ({ h with cancelled } : Host).act (updateRows t client pairs) = (r, h')
        ∧ ran = (r.map fun _ => .done, h') :=
    ⟨_, _, (Prod.eta _).symm, Host.act_silently _ _⟩
  clear_value ran
  subst replied
  have replied : (r.map fun _ => Reply.done).toBool = r.toBool := by cases r <;> rfl
  -- Either way it is the first edits that were carried out, with their records.
  obtain ⟨done, outcome, answered, recorded, first, whole⟩ : ∃ done : List Edit,
      (((table.readOnly = true ∨ table.valid = false) ∧ done = [] ∧ r.toBool = false
          ∧ h'.sent = h.sent) ∨
        ∃ r' g, Course t client { h with cancelled, link := some table.name }
          (Edit.ofPairs emits pairs) done r' g
          ∧ (r.map fun _ => Reply.done, h') = (r'.map fun _ => .done, { g with link := h.link }))
      ∧ h'.results.next = h.results.next + done.length
      ∧ h'.clients = h.recording client (done.flatMap (Edit.records table.label))
      ∧ done <+: Edit.ofPairs emits pairs
      ∧ (r.toBool = true → done = Edit.ofPairs emits pairs) := by
    rcases course_of_updateRows (h := { h with cancelled })
      ((Shelved.of_same rfl rfl).truthful truthful) (fun valid => (sound valid).1) begun with
      ⟨why, lost, rfl⟩ | ⟨done, g, course, rfl⟩
    · exact ⟨[], .inl ⟨why, rfl, lost, rfl⟩, rfl, (recording_nil h client).symm, List.nil_prefix,
        fun ok => by rw [lost] at ok; cases ok⟩
    · refine ⟨done, .inr ⟨r, g, course, rfl⟩, course.answered, course.recorded,
        course.done_prefix, fun ok => course.done_of_ok ?_⟩
      cases r with
      | ok _ => rfl
      | error _ => cases ok
  rw [replied]
  refine ⟨done, outcome, answered, recorded, fun emitted => ?_, fun replaced => ?_, whole⟩
  · obtain ⟨k, inside, rfl⟩ := prefix_emitted (emitted ▸ first)
    refine ⟨k, inside, rfl, ?_⟩
    rw [recorded, List.flatMap_map]
    rfl
  · obtain ⟨j, m, inside, inside', behind, rfl⟩ := prefix_replaced (replaced ▸ first)
    refine ⟨j, m, inside, inside', behind, rfl, ?_⟩
    rw [recorded, List.flatMap_append, List.flatMap_map, List.flatMap_map, List.map_eq_flatMap,
      List.map_eq_flatMap]
    rfl

/-- A remote side that executes one statement, and refuses what comes then. -/
def Remote.Script.refusing : Remote.Script :=
  let refusal := .error (closedResource "server closed the connection")
  { quiet with answers := .ok default :: List.replicate (maxRetry + 1) refusal }

/-- A desk with a client, and a table with one column whose updates are emitted. -/
def Desk.emitting (script : Remote.Script) : Except Fault Reply × Desk :=
  ((opening (Host.start script (.bare false) .error)).after Operation.perform
    [.plain (.join .ok) trivial]).serve Operation.perform (.plain (.createTable
      (.unconnected "PUBLIC" 1 "FIRST" { Definition.bare with emitUpdates := true } 100
        [.listing ["a"]])) rfl)

theorem Desk.created_emitting {script : Remote.Script}
    (made : Reply.table? (emitting script).1 = some 0) (later : List Request) :
    ((emitting script).2.after Operation.perform later).Created 0 :=
  ⟨script, .bare false, .error, [.plain (.join .ok) trivial], later, "PUBLIC", 1, "FIRST",
    { Definition.bare with emitUpdates := true }, 100, [.listing ["a"]], Reply.eq_table made, rfl⟩

/-- An update whose second statement fails for good. -/
theorem undo_of_refused_update :
    let desk := (Desk.emitting .refusing).2
    let ran := desk.host.perform
      (.updateRows 0 0 false [([.int 1], [.int 2]), ([.int 3], [.int 4])])
    desk.Created 0 ∧ ran.1.toBool = false ∧ ran.2.clients
      = desk.host.recording 0 [⟨"FIRST", .delete, [.int 1]⟩, ⟨"FIRST", .insert, [.int 2]⟩] := by
  intro desk ran
  have created : desk.Created 0 := Desk.created_emitting (by decide +kernel) []
  have emits : (desk.host.table 0).definition.emitUpdates = true := by decide +kernel
  have label : (desk.host.table 0).label = "FIRST" := by decide +kernel
  have before : desk.host.results.next = 0 := by decide +kernel
  have behind : ran.2.results.next = 1 := by decide +kernel
  have lost : ran.1.toBool = false := by decide +kernel
  -- From here on the desk is known by these facts only.
  clear_value desk
  obtain ⟨done, -, answered, -, emitted, -⟩ := undo_of_updateRows (t := 0) created
  obtain ⟨k, inside, rfl, recorded⟩ := emitted emits
  rw [before, behind, List.length_map, List.length_take, Nat.min_eq_left inside] at answered
  obtain rfl : k = 1 := by omega
  refine ⟨created, lost, ?_⟩
  rw [recorded, label]
  rfl

end LinkedTables
