import LinkedTables.Proofs.Calls
import LinkedTables.Proofs.SessionsStayOpen
import LinkedTables.Proofs.Writing

/-!
# Obstacles before anything is sent

Rows are added, removed, updated and found by statements, and what can keep such a statement from
being sent is found on the host: the table must not be changed or has been removed, its link is not
ready, a row is too short, no column can tell a row, or a value cannot be bound
(`Access.Obstacle`). An action `Departs` from a host if it is kept by one of its obstacles and then
changes nothing but cursors, or meets none of them and then sends something. All calls that ask for
rows do so (`Host.departs_access`), hence a call that fails before anything is sent leaves no trace
(`Host.untouched_of_obstacle`).
-/

namespace LinkedTables

open LinkedTables.Action Keeps

/-! ### What was sent stays sent -/

/-- What was sent stays sent. -/
def Prolongs (h h' : Host) : Prop := h.sent <:+ h'.sent

/-- Something is sent. -/
def Dispatches (h h' : Host) : Prop := ∃ m, m :: h.sent <:+ h'.sent

theorem prolongsLife : LifeFrame Prolongs where
  refl _ := List.suffix_rfl
  trans a b := a.trans b
  idle _ sent := sent
  answer _ := List.suffix_rfl
  joined := List.suffix_rfl
  link _ := List.suffix_rfl
  adopt _ _ := List.suffix_rfl
  forced := List.suffix_rfl
  settings _ := List.suffix_rfl
  removed := List.suffix_rfl

namespace Dispatches

variable {h h' h'' : Host} {α β : Type} {x : Action α}

theorem of_same (dispatched : Dispatches h' h'') (same : h'.sent = h.sent) : Dispatches h h'' := by
  obtain ⟨m, sent⟩ := dispatched
  exact ⟨m, same ▸ sent⟩

theorem sent_ne (dispatched : Dispatches h h') : h'.sent ≠ h.sent := by
  obtain ⟨m, sent⟩ := dispatched
  intro same
  have longer := sent.length_le
  rw [same, List.length_cons] at longer
  omega

theorem bind {f : α → Action β} (dispatched : Dispatches h (h.act x).2)
    (hf : ∀ a, Keeps Prolongs (f a)) : Dispatches h (h.act (x >>= f)).2 := by
  obtain ⟨m, sent⟩ := dispatched
  rw [Host.act_bind]
  generalize h.act x = p at sent ⊢
  obtain ⟨fault | a, h'⟩ := p
  · exact ⟨m, sent⟩
  · exact ⟨m, sent.trans (hf a h')⟩

theorem outcome_bind {f : Except Fault α → Action β} (dispatched : Dispatches h (h.act x).2)
    (hf : ∀ r, Keeps Prolongs (f r)) : Dispatches h (h.act (outcome x >>= f)).2 :=
  bind (x := outcome x) dispatched hf

end Dispatches

section Sending

variable {h : Host} {params values : List Value} {client : Option Nat}

/-- Whatever comes of the execution of a statement, it was sent. -/
theorem dispatches_executeStatement (h : Host) (st : Nat) (values : List Value) :
    Dispatches h (h.act (executeStatement st values)).2 := by
  refine Reaches.past (Q := fun _ h' => Dispatches h h') (closeResult_succeeds st)
    (calm_closeResult st) fun _ h₁ closed => .get_bind ?_
  dsimp only
  generalize Sql.numberMarkers (h₁.statement st).sql = marked
  obtain ⟨text, n⟩ := marked
  refine .modify_bind ?_
  generalize sending : ({ h₁ with journal := _ } : Host) = g
  have sent : Dispatches h g := by
    rw [← sending]
    exact Dispatches.of_same ⟨⟨text, values⟩, List.suffix_rfl⟩ closed.sent
  exact .of_ite (fun _ => sent) fun _ => .fromScript_bind (.bind_ofExcept
    (fun _ _ => .get_bind (.modify_bind (.modify_bind sent))) fun _ _ => sent)

theorem dispatches_settle (h : Host) (st : Nat) (values : List Value) :
    Dispatches h (h.act (settle st values)).2 := by
  refine (dispatches_executeStatement h st values).outcome_bind fun r => ?_
  have F := prolongsLife.toFrame
  cases r with
  | ok _ => exact of_pure F _
  | error fault =>
    exact of_ite (bind F (prolongsLife.of_calm (calm_closeStatement st)) fun _ => of_pure F _)
      (of_throw F fault)

/-- A statement whose values can be bound is sent. -/
theorem dispatches_attemptExecute (bound : params.mapM (h.converted client) = .ok values)
    (t s : Nat) (sql : String) : Dispatches h (h.act (attemptExecute t s sql params client)).2 := by
  refine calmSearch.attempt (P := fun _ _ => True) (Q := fun _ h' => Dispatches h h')
    (fun _ => id) (fun _ _ => trivial) (fun _ _ _ _ => trivial) bound fun st g before _ => ?_
  exact (dispatches_settle g st values).of_same before.sent

theorem dispatches_executeFrom (bound : params.mapM (h.converted client) = .ok values) (t : Nat)
    (sql : String) (s left : Nat) :
    Dispatches h (h.act (executeFrom t sql params client s left)).2 := by
  have F := prolongsLife.toFrame
  have L := prolongsLife.linkFrame t
  cases left with
  | zero =>
    refine (dispatches_attemptExecute bound t s sql).bind fun r => ?_
    cases r with
    | ok st => exact of_pure F st
    | error fault => exact of_throw F _
  | succ left =>
    refine (dispatches_attemptExecute bound t s sql).bind fun r => ?_
    cases r with
    | ok st => exact of_pure F st
    | error fault =>
      refine get_bind fun _ => bind F (prolongsLife.of_calm (calm_report _)) fun _ => ?_
      exact bind F (L.reconnect _) fun s' =>
        prolongsLife.executeFrom L.reconnect sql params client s' left

end Sending

/-! ### Departures -/

/-- From the host, an action is kept by one of some obstacles, and then nothing changes but cursors,
or it meets none of them, and then it sends something. -/
def Host.Departs (h : Host) {α : Type} (x : Action α) (obstacle : Fault → Prop) : Prop :=
  (∃ fault, obstacle fault ∧ ∃ cursors, h.act x = (.error fault, { h with cursors }))
    ∨ (∀ fault, ¬ obstacle fault) ∧ Dispatches h (h.act x).2

namespace Host.Departs

variable {h : Host} {α β : Type} {x : Action α} {obstacle obstacle' : Fault → Prop}

theorem congr (departs : h.Departs x obstacle) (same : ∀ fault, obstacle fault ↔ obstacle' fault) :
    h.Departs x obstacle' := by
  rcases departs with ⟨fault, kept, ends⟩ | ⟨free, dispatched⟩
  · exact .inl ⟨fault, (same fault).mp kept, ends⟩
  · exact .inr ⟨fun fault kept => free fault ((same fault).mpr kept), dispatched⟩

/-- An action that goes on as another does when cursors have been opened. -/
theorem of_act {cursors : Roster Cursor} {y : Action α}
    (departs : ({ h with cursors } : Host).Departs y obstacle)
    (same : h.act x = ({ h with cursors } : Host).act y) : h.Departs x obstacle := by
  rcases departs with ⟨fault, kept, cursors, ends⟩ | ⟨free, dispatched⟩
  · exact .inl ⟨fault, kept, cursors, same.trans ends⟩
  · exact .inr ⟨free, same ▸ dispatched⟩

theorem bind {f : α → Action β} (departs : h.Departs x obstacle)
    (hf : ∀ a, Keeps Prolongs (f a)) : h.Departs (x >>= f) obstacle := by
  rcases departs with ⟨fault, kept, cursors, ends⟩ | ⟨free, dispatched⟩
  · exact .inl ⟨fault, kept, cursors, act_bind_error h ends⟩
  · exact .inr ⟨free, dispatched.bind hf⟩

/-- A check before is one more obstacle. -/
theorem behind (departs : h.Departs x obstacle) (check : Except Fault Unit) :
    h.Departs (Action.ofExcept check >>= fun _ => x)
      fun fault => check = .error fault ∨ obstacle fault := by
  cases check with
  | error fault => exact .inl ⟨fault, .inl rfl, h.cursors, rfl⟩
  | ok _ => exact departs.congr fun fault => ⟨Or.inr, fun kept => kept.resolve_left nofun⟩

theorem inLink {name : String}
    (departs : ({ h with link := some name } : Host).Departs x obstacle) :
    h.Departs (inLink name x) obstacle := by
  rw [Departs, act_inLink]
  rcases departs with ⟨fault, kept, cursors, ends⟩ | ⟨free, dispatched⟩
  · exact .inl ⟨fault, kept, cursors, by rw [ends]⟩
  · exact .inr ⟨free, dispatched⟩

/-- A change is kept from a table that must not be changed. That the table has not been removed is
checked twice. -/
theorem changing {x : Action Unit} {t : Nat}
    (departs : h.Departs x fun fault => (h.table t).checkValid = .error fault ∨ obstacle fault) :
    h.Departs (checkChange t >>= fun _ => x) fun fault =>
      (h.table t).checkWritable = .error fault ∨ (h.table t).checkValid = .error fault
        ∨ obstacle fault := by
  have checked := (departs.behind (h.table t).checkValid).behind (h.table t).checkWritable
  refine (checked.of_act ?_).congr fun fault =>
    or_congr_right ⟨fun kept => kept.elim .inl id, .inr⟩
  rw [checkChange, bind_assoc, act_get_bind]
  dsimp only
  rw [bind_assoc]

theorem silently {x : Action Unit} (departs : h.Departs x obstacle) :
    h.Departs (silently x) obstacle :=
  departs.bind fun _ => of_pure prolongsLife.toFrame Reply.done

end Host.Departs

/-! ### What keeps a statement -/

/-- A value among some cannot be bound on behalf of a client. -/
def Host.Rejects (h : Host) (client : Option Nat) (values : Value → Prop) (fault : Fault) : Prop :=
  ∃ v, values v ∧ h.converted client v = .error fault

/-- Why a request for rows of the table `t` is not sent on behalf of a client. -/
inductive Host.Unsent (h : Host) (t : Nat) (client : Option Nat) (columns : List Column)
    (request : Sql.RowRequest) : Fault → Prop
  | disconnected {fault : Fault} (refuses : readySession (h.table t) = .error fault) :
    Unsent h t client columns request fault
  | short {clause : Sql.Clause} {row : List Value} {c : Column}
      (looks : request.LooksAt columns clause row c) (missing : row[c.ordinal]? = none) :
    Unsent h t client columns request (.outOfRange false)
  | untold {row : List Value} (tells : request.row? .equal = some row)
      (large : ∀ c ∈ columns, c.type.kind.isLarge = true) :
    Unsent h t client columns request (Sql.untold (h.table t).name)
  | rejected {fault : Fault} (rejects : h.Rejects client (request.Binds columns) fault) :
    Unsent h t client columns request fault

namespace Host

variable {h : Host} {t : Nat} {client : Option Nat} {columns : List Column}
  {request : Sql.RowRequest} {statement : Sql.RowStatement} {fault : Fault}

theorem readiness_eq_error :
    readiness (h.table t) = .error fault ↔ readySession (h.table t) = .error fault := by
  rw [readiness]
  cases readySession (h.table t) <;> simp [Except.map]

/-- A statement that cannot be written is not sent. -/
theorem unsent_of_unwritable
    (why : Sql.Unwritable (readiness (h.table t)) (h.table t).name columns request fault) :
    h.Unsent t client columns request fault := by
  cases why with
  | unready refuses => exact .disconnected (readiness_eq_error.mp refuses)
  | short looks missing => exact .short looks missing
  | untold tells large => exact .untold tells large

/-- A statement that is written needs nothing but the link and values that can be bound. -/
theorem unsent_iff (written : request.Written columns statement) :
    h.Unsent t client columns request fault ↔
      readySession (h.table t) = .error fault ∨ h.Rejects client (· ∈ statement.params) fault := by
  constructor
  · rintro (refuses | ⟨looks, missing⟩ | ⟨tells, large⟩ | ⟨v, binds, fails⟩)
    · exact .inl refuses
    · obtain ⟨v, there⟩ := written.wide looks
      cases missing.symm.trans there
    · obtain ⟨c, among, small⟩ := written.told tells
      cases (large c among).symm.trans small
    · exact .inr ⟨v, (written.params v).mpr binds, fails⟩
  · rintro (refuses | ⟨v, param, fails⟩)
    · exact .disconnected refuses
    · exact .rejected ⟨v, (written.params v).mp param, fails⟩

/-- A statement is executed on a ready link with values that can be bound. -/
theorem departs_execute (h : Host) (t : Nat) (sql : String) (params : List Value)
    (client : Option Nat) :
    h.Departs (execute t sql params client) fun fault =>
      readySession (h.table t) = .error fault ∨ h.Rejects client (· ∈ params) fault := by
  cases ready : readySession (h.table t) with
  | error fault =>
    refine .inl ⟨fault, .inl rfl, h.cursors, act_bind_error h ?_⟩
    rw [requireSession, act_get_bind, act_ofExcept, ready]
  | ok s =>
    have required := act_bind_ok h (act_requireSession ready)
      (f := fun s => executeFrom t sql params client s maxRetry)
    cases bound : params.mapM (h.converted client) with
    | error fault =>
      obtain ⟨v, param, fails⟩ := Success.exists_of_mapM_error bound
      refine .inl ⟨fault, .inr ⟨v, param, fails⟩, h.cursors, required.trans ?_⟩
      exact act_bind_error h (act_attemptExecute_unbound bound t s sql)
    | ok values =>
      refine .inr ⟨?_, ?_⟩
      · rintro fault (refuses | ⟨v, param, fails⟩)
        · cases refuses
        · obtain ⟨w, -, made⟩ := Success.exists_mem_of_mapM bound v param
          cases fails.symm.trans made
      · rw [execute, required]
        exact dispatches_executeFrom bound t sql s maxRetry

/-! ### Statements about rows -/

theorem departs_runRows (h : Host) (t : Nat) (client : Option Nat) (request : Sql.RowRequest) :
    h.Departs
      (runRows t client
        (request.statement (readiness (h.table t)) (h.table t).name (h.table t).columns))
      fun fault => (h.table t).checkValid = .error fault
        ∨ h.Unsent t client (h.table t).columns request fault := by
  cases made : request.statement (readiness (h.table t)) (h.table t).name (h.table t).columns with
  | error fault =>
    refine .inl ⟨fault, .inr ?_, h.cursors, act_bind_error h (act_ofExcept h _)⟩
    exact unsent_of_unwritable (Sql.unwritable_of_request made)
  | ok statement =>
    have written := Sql.written_of_request made
    let named : Host := { h with link := some (h.table t).name }
    let sql := statement.text (quoteFor h t) (h.table t).qualifiedName
    have ran : named.Departs (run t sql statement.params client) fun fault =>
        readySession (h.table t) = .error fault ∨ h.Rejects client (· ∈ statement.params) fault :=
      (named.departs_execute t sql statement.params client).bind fun st =>
        prolongsLife.handBack t st sql
    have same : h.act (runRows t client (.ok statement))
        = h.act (Action.ofExcept (h.table t).checkValid >>= fun _ =>
          inLink (h.table t).name (run t sql statement.params client)) := by
      rw [runRows, act_bind_ok h (act_ofExcept h (.ok statement)), act_get_bind, executeNamed,
        act_get_bind]
    exact ((ran.inLink.behind (h.table t).checkValid).of_act same).congr fun fault =>
      or_congr_right (unsent_iff written).symm

theorem departs_insertRow (h : Host) (t : Nat) (client : Option Nat) (row : List Value) :
    h.Departs (insertRow t client row) fun fault => (h.table t).checkValid = .error fault
      ∨ h.Unsent t client (h.table t).columns (.add row) fault := by
  refine (h.departs_runRows t client (.add row)).of_act ?_
  rw [insertRow, act_get_bind]
  rfl

theorem departs_deleteRow (h : Host) (t : Nat) (client : Option Nat) (row : List Value) :
    h.Departs (deleteRow t client row) fun fault => (h.table t).checkValid = .error fault
      ∨ h.Unsent t client (h.table t).columns (.remove row) fault := by
  refine (h.departs_runRows t client (.remove row)).of_act ?_
  rw [deleteRow, act_get_bind]
  rfl

theorem departs_updateRow (h : Host) (t : Nat) (client : Option Nat) (old new : List Value) :
    h.Departs (updateRow t client old new) fun fault => (h.table t).checkValid = .error fault
      ∨ h.Unsent t client (h.table t).columns (.update old new) fault := by
  refine (h.departs_runRows t client (.update old new)).of_act ?_
  rw [updateRow, act_get_bind]
  rfl

/-! ### Rows to be found -/

/-- The first row of a query that has not run is asked for. -/
theorem departs_next {c : Nat} (fresh : (h.cursor c).phase = .fresh) :
    h.Departs (next c) fun fault =>
      readySession (h.table (h.cursor c).table) = .error fault
        ∨ h.Rejects (h.cursor c).client (· ∈ (h.cursor c).params) fault := by
  have F := prolongsLife.toFrame
  have ended : Keeps Prolongs (endCursor c) := prolongsLife.of_calm (calm_reviseCursor c _)
  rw [Departs, next, act_get_bind]
  dsimp only
  rw [fresh]
  dsimp only
  rcases h.departs_execute (h.cursor c).table (h.cursor c).sql (h.cursor c).params
    (h.cursor c).client with ⟨fault, kept, cursors, ends⟩ | ⟨free, dispatched⟩
  · refine .inl ⟨fault, kept, cursors.revise c fun cursor => { cursor with phase := .ended }, ?_⟩
    rw [act_outcome_bind, ends]
    rfl
  · refine .inr ⟨free, dispatched.outcome_bind fun r => ?_⟩
    cases r with
    | error fault => exact bind F ended fun _ => of_throw F fault
    | ok st =>
      refine get_bind fun g => ?_
      split
      · exact bind F ended fun _ => of_pure F none
      · exact bind F (prolongsLife.of_calm (calm_reviseCursor c _)) fun _ =>
          prolongsLife.upkeep.readNext c _ st _

theorem departs_drain {c : Nat} (fresh : (h.cursor c).phase = .fresh) :
    h.Departs (drain c) fun fault =>
      readySession (h.table (h.cursor c).table) = .error fault
        ∨ h.Rejects (h.cursor c).client (· ∈ (h.cursor c).params) fault := by
  have F := prolongsLife.toFrame
  refine (departs_next fresh).bind fun row => ?_
  cases row with
  | none => exact of_pure F []
  | some row =>
    exact get_bind fun _ => bind F (prolongsLife.upkeep.drainFrom c _) fun _ => of_pure F _

section Bounds

variable {index : Index} {first last : Option (List Value)}

/-- A cursor is opened for the rows between two bounds, unless their query cannot be written. -/
theorem act_openFind
    (made : (Sql.RowRequest.find first last).statement (readiness (h.table t)) (h.table t).name
      index.columns = .ok statement) :
    h.act (openFind t index client first last) = (.ok h.cursors.next, { h with
      cursors := h.cursors.join ⟨t, statement.text (quoteFor h t) (h.table t).qualifiedName,
        statement.params, client, .fresh⟩ }) := by
  rw [Sql.RowRequest.statement] at made
  rw [openFind, act_get_bind]
  dsimp only
  rw [made]
  rfl

theorem act_openFind_error
    (failed : (Sql.RowRequest.find first last).statement (readiness (h.table t)) (h.table t).name
      index.columns = .error fault) :
    h.act (openFind t index client first last) = (.error fault, h) := by
  rw [Sql.RowRequest.statement] at failed
  rw [openFind, act_get_bind]
  dsimp only
  rw [failed]
  rfl

end Bounds

theorem departs_find (h : Host) (t : Nat) (index : Index) (client : Option Nat)
    (first last : Option (List Value)) :
    h.Departs ((Access.find index client first last).perform t)
      (h.Unsent t client index.columns (.find first last)) := by
  have F := prolongsLife.toFrame
  cases made : (Sql.RowRequest.find first last).statement (readiness (h.table t))
    (h.table t).name index.columns with
  | error fault =>
    refine .inl ⟨fault, ?_, h.cursors, act_bind_error h (act_openFind_error made)⟩
    exact unsent_of_unwritable (Sql.unwritable_of_request made)
  | ok statement =>
    have written := Sql.written_of_request made
    let cursor : Cursor := ⟨t, statement.text (quoteFor h t) (h.table t).qualifiedName,
      statement.params, client, .fresh⟩
    let opened : Host := { h with cursors := h.cursors.join cursor }
    have here : opened.cursor h.cursors.next = cursor :=
      congrArg (·.getD default) (Roster.at?_join_next h.cursors cursor)
    have drained := departs_drain (h := opened) (c := h.cursors.next) (by rw [here])
    rw [here] at drained
    have read := drained.bind fun rows => of_pure F (Reply.rows rows)
    have kept (fault : Fault) : h.Unsent t client index.columns (.find first last) fault ↔ _ :=
      unsent_iff written
    refine Departs.congr (read.of_act ?_) fun fault => (kept fault).symm
    exact act_bind_ok h (act_openFind made)

end Host

/-! ### Accesses and calls -/

/-- What keeps an access that asks for rows from being sent. -/
def Access.Obstacle (h : Host) (t : Nat) : Access → Fault → Prop
  | addRow client row, fault =>
    (h.table t).checkWritable = .error fault ∨ (h.table t).checkValid = .error fault
      ∨ h.Unsent t client (h.table t).columns (.add row) fault
  | removeRow client row, fault =>
    (h.table t).checkWritable = .error fault ∨ (h.table t).checkValid = .error fault
      ∨ h.Unsent t client (h.table t).columns (.remove row) fault
  | insertRow client row, fault =>
    (h.table t).checkValid = .error fault
      ∨ h.Unsent t client (h.table t).columns (.add row) fault
  | deleteRow client row, fault =>
    (h.table t).checkValid = .error fault
      ∨ h.Unsent t client (h.table t).columns (.remove row) fault
  | updateRow client old new, fault =>
    (h.table t).checkValid = .error fault
      ∨ h.Unsent t client (h.table t).columns (.update old new) fault
  | find index client first last, fault => h.Unsent t client index.columns (.find first last) fault
  | _, _ => False

/-- The access adds, removes, updates or finds rows. -/
def Access.AsksForRows : Access → Prop
  | addRow .. | removeRow .. | insertRow .. | deleteRow .. | updateRow .. | find .. => True
  | _ => False

theorem Host.departs_access (h : Host) (t : Nat) {a : Access} (asks : a.AsksForRows) :
    h.Departs (a.perform t) (a.Obstacle h t) := by
  cases a with
  | addRow client row => exact (h.departs_insertRow t client row).changing.silently
  | removeRow client row => exact (h.departs_deleteRow t client row).changing.silently
  | insertRow client row => exact (h.departs_insertRow t client row).silently
  | deleteRow client row => exact (h.departs_deleteRow t client row).silently
  | updateRow client old new => exact (h.departs_updateRow t client old new).silently
  | find index client first last => exact h.departs_find t index client first last
  | _ => exact asks.elim

/-- What keeps a call that asks for rows from being sent. The query of a find is written when its
cursor is opened, and sent when the first row is asked for. -/
def Call.Obstacle (h : Host) : Call → Fault → Prop
  | access t a, fault => a.Obstacle h t fault
  | operation (.openFind t index _ first last), fault =>
    index.columns ≠ [] ∧ readySession (h.table t) = .error fault
      ∨ fault = .outOfRange false ∧ ∃ clause row c,
        (Sql.RowRequest.find first last).LooksAt index.columns clause row c
          ∧ row[c.ordinal]? = none
  | operation (.next c), fault =>
    readySession (h.table (h.cursor c).table) = .error fault
      ∨ h.Rejects (h.cursor c).client (· ∈ (h.cursor c).params) fault
  | _, _ => False

/-- The call adds, removes, updates or finds rows, or does the first or the second half of a
find. -/
def Call.AsksForRows (h : Host) : Call → Prop
  | access _ a => a.AsksForRows
  | operation (.openFind ..) => True
  | operation (.next c) => (h.cursor c).phase = .fresh
  | _ => False

namespace Host

variable {h : Host} {t : Nat} {α : Type} {x : Action α} {obstacle : Fault → Prop}

/-- Where there is an obstacle the action is kept by one, and where it fails before it has sent
anything it was kept by one; either way nothing changes but cursors. -/
def Heeds (h : Host) (x : Action α) (obstacle : Fault → Prop) : Prop :=
  (∀ fault, obstacle fault →
    ∃ found cursors, obstacle found ∧ h.act x = (.error found, { h with cursors })) ∧
  ∀ fault h', h.act x = (.error fault, h') → h'.sent = h.sent →
    obstacle fault ∧ ∃ cursors, h' = { h with cursors }

theorem Departs.heeds (departs : h.Departs x obstacle) : h.Heeds x obstacle := by
  rcases departs with ⟨found, kept, cursors, ends⟩ | ⟨free, dispatched⟩
  · refine ⟨fun _ _ => ⟨found, cursors, kept, ends⟩, fun fault h' failed _ => ?_⟩
    cases ends.symm.trans failed
    exact ⟨kept, cursors, rfl⟩
  · refine ⟨fun fault kept => absurd kept (free fault), fun fault h' failed same => ?_⟩
    rw [failed] at dispatched
    exact absurd same dispatched.sent_ne

/-- Bounds on columns are only written over a link that is ready. -/
theorem ready_of_find {ready : Except Fault Unit} {name : String} {columns : List Column}
    {first last : Option (List Value)} {statement : Sql.RowStatement}
    (made : (Sql.RowRequest.find first last).statement ready name columns = .ok statement)
    (some_column : columns ≠ []) : ready = .ok () := by
  obtain ⟨sides, made, -⟩ := Success.exists_of_bind made
  obtain ⟨c, among⟩ := List.exists_mem_of_ne_nil columns some_column
  obtain ⟨_, -, made⟩ := Success.exists_mem_of_mapM made c among
  obtain ⟨_, ok, -⟩ := Success.exists_of_bind made
  exact ok

theorem heeds_openFind (h : Host) (t : Nat) (index : Index) (client : Option Nat)
    (first last : Option (List Value)) :
    h.Heeds (Operation.openFind t index client first last).perform
      (Call.Obstacle h (.operation (.openFind t index client first last))) := by
  -- The statement is written when the cursor is opened, and what is wrong with the bounds shows then.
  cases made : (Sql.RowRequest.find first last).statement (readiness (h.table t))
    (h.table t).name index.columns with
  | ok statement =>
    have opened : (h.act (Operation.openFind t index client first last).perform).1
        = .ok (.cursor h.cursors.next) := by
      rw [Operation.perform, act_map, act_openFind made]
      rfl
    refine ⟨?_, fun fault h' failed _ => ?_⟩
    · rintro fault (⟨some_column, refuses⟩ | ⟨-, clause, row, c, looks, missing⟩)
      · cases (readiness_eq_error.mpr refuses).symm.trans (ready_of_find made some_column)
      · have written := Sql.written_of_request made
        obtain ⟨v, there⟩ := written.wide looks
        cases missing.symm.trans there
    · rw [failed] at opened
      cases opened
  | error fault =>
    have kept : Call.Obstacle h (.operation (.openFind t index client first last)) fault := by
      cases Sql.unwritable_of_request made with
      | unready refuses =>
        refine .inl ⟨fun none => ?_, readiness_eq_error.mp refuses⟩
        rw [none] at made
        cases made
      | short looks missing => exact .inr ⟨rfl, _, _, _, looks, missing⟩
      | untold tells _ => cases tells
    have ends : h.act (Operation.openFind t index client first last).perform
        = (.error fault, h) := by
      rw [Operation.perform, act_map, act_openFind_error made]
      rfl
    refine ⟨fun _ _ => ⟨fault, h.cursors, kept, ends⟩, fun fault h' failed _ => ?_⟩
    cases ends.symm.trans failed
    exact ⟨kept, h.cursors, rfl⟩

/-- A call that asks for rows leaves no trace if it fails before anything is sent. Where the table
must not be changed or has been removed, its link is not ready, a row is too short, no column can
tell a row or a value cannot be bound, the call fails for one of these, and the host is what it was:
nothing is executed, opened, closed or discarded, sessions with their statements and use counts,
remembered failures and undo logs stay; only a cursor may have been opened or ended. And a call
that fails before it has sent anything fails for one of these. -/
theorem untouched_of_obstacle (h : Host) (call : Call) (asks : call.AsksForRows h) :
    (∀ fault, call.Obstacle h fault →
      ∃ found cursors, call.Obstacle h found
        ∧ h.act call.perform = (.error found, { h with cursors }))
    ∧ ∀ fault h', h.act call.perform = (.error fault, h') → h'.sent = h.sent →
      call.Obstacle h fault ∧ ∃ cursors, h' = { h with cursors } := by
  cases call with
  | access t a => exact (h.departs_access t asks).heeds
  | operation o =>
    cases o with
    | openFind t index client first last => exact h.heeds_openFind t index client first last
    | next c =>
      have first := (departs_next asks).bind fun row =>
        of_pure prolongsLife.toFrame (Reply.row row)
      exact first.heeds
    | _ => exact asks.elim

/-- A client whose values cannot be bound adds no row, and the statement that was kept for the row
before stays where it is. -/
theorem untouched_by_rejecting_client :
    let table := LinkedTable.unconnected "PUBLIC" 1 "FIRST" .bare 100 [Catalog.listing ["a"]]
    let h := (start (.admitting 1 3) (.bare false) .error).afterCalls
      [.operation (.createTable table), .access 0 (.addRow none [.int 7]),
        .operation (.join fun _ => .error .mismatch)]
    let call := Call.access 0 (.addRow (some 0) [.int 8])
    call.AsksForRows h ∧ (h.session 0).cache.length = 1 ∧ ∃ fault, call.Obstacle h fault
      ∧ ∃ found cursors, call.Obstacle h found
        ∧ h.act call.perform = (.error found, { h with cursors }) := by
  intro table h call
  obtain ⟨kept, ⟨c, among, first⟩, rejects⟩ : (h.session 0).cache.length = 1
      ∧ (∃ c ∈ (h.table 0).columns, c.ordinal = 0)
      ∧ (h.converted (some 0) (.int 8)).toBool = false := by decide +kernel
  clear_value h
  cases rejected : h.converted (some 0) (.int 8) with
  | ok v =>
    rw [rejected] at rejects
    cases rejects
  | error fault =>
    have obstacle : call.Obstacle h fault := by
      have looks : (Sql.RowRequest.add [.int 8]).LooksAt (h.table 0).columns .cell [.int 8] c :=
        .of_ne rfl among (by decide)
      refine .inr (.inr (.rejected ⟨.int 8, ⟨.cell, [.int 8], c, looks, ?_, nofun⟩, rejected⟩))
      rw [first]
      rfl
    exact ⟨trivial, kept, fault, obstacle,
      (untouched_of_obstacle h call trivial).1 fault obstacle⟩

end Host

end LinkedTables
