import LinkedTables.Proofs.TableInService
import LinkedTables.Proofs.UndoLog
import LinkedTables.Proofs.Wrapping

/-!
# Faults of the remote side that escape

A cursor runs its query when the first row is asked for, and what is raised while its rows are
fetched comes through as it is (`Action.Next`). All other faults of accesses surface as failures of
the link, unless they are found at hand (`Desk.surfaced_of_created`).
-/

namespace LinkedTables

variable {t : Nat} {b h h' : Host} {reads : Prop} {atHand : Host → Fault → Prop}

namespace Action

open Keeps Host

/-- A fault in which some work for the table `t` ends surfaces. -/
def Surfaced {α : Type} (t : Nat) (reads : Prop) (atHand : Host → Fault → Prop) (b : Host)
    (r : Except Fault α) (h : Host) : Prop :=
  ∀ fault, r = .error fault → b.Surfaces t reads atHand h fault

theorem Surfaced.map {α β : Type} {x : Action α} (hx : Reaches x h (Surfaced t reads atHand b))
    (f : α → β) : Reaches (do return f (← x)) h (Surfaced t reads atHand b) := by
  refine .bind hx (fun _ _ _ => nofun) ?_
  rintro fault h' surfaced _ ⟨⟩
  exact surfaced fault rfl

/-! ### Cursors -/

/-- What comes of a cursor: behind a row the query is not run again, and a fault surfaces. -/
def Next (t : Nat) (atHand : Host → Fault → Prop) (b : Host) (c : Nat)
    (r : Except Fault (Option (List Value))) (h : Host) : Prop :=
  match r with
  | .ok (some _) => Follows t b h ∧ (h.cursor c).phase ≠ .fresh
  | .ok none => True
  | .error fault => b.Surfaces t True atHand h fault

/-- The next row of a query that has run. -/
theorem reaches_readNext {c : Nat} (follows : Follows t b h) (ran : (h.cursor c).phase ≠ .fresh)
    (cursor : Cursor) (st r : Nat) : Reaches (readNext c cursor st r) h (Next t atHand b c) := by
  refine .outcome_bind (reaches_fetch follows r) ?_
  rintro (fault | _ | row) h' ⟨kept, cursors, failed⟩
  · refine .modify_bind (.past (closeStatement_succeeds st) (calm_closeStatement st) ?_)
    exact fun _ _ _ => .unread trivial (failed fault rfl)
  · obtain ⟨_, given⟩ := handBack_succeeds cursor.table st cursor.sql (h'.withPhase c .ended)
    exact .modify_bind (.bind_of_act (Prod.ext given rfl) trivial)
  · have same : h'.cursor c = h.cursor c := by
      rw [Host.cursor, cursors]
      rfl
    exact ⟨(followsUse t).trans follows kept.idle.follows, same ▸ ran⟩

section Next

variable (honest : b.Honest t) {c : Nat}
include honest

/-- The next row of a cursor for the table, whose query may still have to run. -/
theorem reaches_next (tracks : Tracks t b h) (own : (h.cursor c).table = t)
    (unbound : ∀ g fault, g.Unbound (h.cursor c).client (h.cursor c).params fault →
      atHand g fault) : Reaches (next c) h (Next t atHand b c) := by
  refine .get_bind ?_
  dsimp only
  split
  · exact trivial
  next st r phase =>
    exact reaches_readNext tracks.toFollows (by rw [phase]; nofun) (h.cursor c) st r
  next =>
    rw [own]
    generalize (h.cursor c).sql = sql
    have came : Reaches (execute t sql (h.cursor c).params (h.cursor c).client) h
      (Came t True atHand b fun st h' => h'.Opened sql st) := came_execute honest unbound tracks
    refine .outcome_bind came ?_
    rintro (fault | st) g ⟨tracks, came⟩
    · exact came.calm (calm_reviseCursor c _ g)
    · obtain ⟨r, result⟩ := came.result
      refine .get_bind ?_
      rw [result]
      refine .modify_bind (reaches_readNext ?_ (g.phase_of_reading c st r) _ st r)
      exact (tracks.calm (calm_reviseCursor c _ g)).toFollows

omit honest in
/-- The next row of a cursor whose query has run. -/
theorem reaches_next_of_ran (follows : Follows t b h) (ran : (h.cursor c).phase ≠ .fresh) :
    Reaches (next c) h (Next t atHand b c) := by
  refine .get_bind ?_
  dsimp only
  split
  · exact trivial
  next st r phase => exact reaches_readNext follows ran (h.cursor c) st r
  next fresh => exact absurd fresh ran

omit honest in
theorem reaches_drainFrom (follows : Follows t b h) (ran : (h.cursor c).phase ≠ .fresh)
    (fuel : Nat) : Reaches (drainFrom c fuel) h (Surfaced t True atHand b) := by
  induction fuel generalizing h with
  | zero => exact nofun
  | succ fuel ih =>
    have came : Reaches (next c) h (Next t atHand b c) := reaches_next_of_ran follows ran
    refine .bind came ?_ fun fault h' came => ?_
    · rintro (_ | row) h' came
      · exact nofun
      · exact Surfaced.map (ih came.1 came.2) (row :: ·)
    · rintro _ ⟨⟩
      exact came

/-- All rows of a cursor for the table. -/
theorem reaches_drain (tracks : Tracks t b h) (own : (h.cursor c).table = t)
    (unbound : ∀ g fault, g.Unbound (h.cursor c).client (h.cursor c).params fault →
      atHand g fault) : Reaches (drain c) h (Surfaced t True atHand b) := by
  refine .bind (reaches_next honest tracks own unbound) ?_ fun fault h' came => ?_
  · rintro (_ | row) h' came
    · exact nofun
    · exact .get_bind (Surfaced.map (reaches_drainFrom came.1 came.2 _) (row :: ·))
  · rintro _ ⟨⟩
    exact came

/-- All rows of a query for the table, for which a cursor is opened. -/
theorem reaches_opened (tracks : Tracks t b h) {x : Action Nat} (cursor : Cursor)
    (opens : h.act x = h.act (openCursor cursor)) (own : cursor.table = t)
    (unbound : ∀ g fault, g.Unbound cursor.client cursor.params fault → atHand g fault) :
    Reaches (do return Reply.rows (← drain (← x))) h (Surfaced t True atHand b) := by
  have opened : Tracks t b (h.withCursor cursor) :=
    tracks.behind (Idle.follows (.of_same rfl rfl rfl)) (.of_same rfl rfl)
  have here : (h.withCursor cursor).cursor h.cursors.next = cursor :=
    congrArg (·.getD default) (Roster.at?_join_next h.cursors cursor)
  have drained : Reaches (drain h.cursors.next) (h.withCursor cursor)
      (Surfaced t True atHand b) := by
    refine reaches_drain honest opened ?_ ?_
    · rw [here, own]
    · rwa [here]
  have joined : h.act x = (.ok h.cursors.next, h.withCursor cursor) := opens.trans rfl
  rw [Reaches, act_bind_ok h joined]
  exact Surfaced.map drained Reply.rows

theorem reaches_readIndex (tracks : Tracks t b h) (client : Option Nat) :
    Reaches ((Access.readIndex client).perform t) h (Surfaced t True atHand b) := by
  let sql := (Sql.RowStatement.select []).text id (h.table t).qualifiedName
  refine reaches_opened honest tracks ⟨t, sql, [], client, .fresh⟩ ?_ rfl ?_
  · rw [openScan, act_get_bind]
  · rintro g fault ⟨v, among, -⟩
    cases among

theorem reaches_find (tracks : Tracks t b h) (index : Index) (client : Option Nat)
    (first last : Option (List Value))
    (unfit : ∀ g fault, g.Unfit client index.columns (first.toList ++ last.toList) fault →
      atHand g fault) :
    Reaches ((Access.find index client first last).perform t) h (Surfaced t True atHand b) := by
  cases made : (Sql.RowRequest.find first last).statement (readiness (h.table t)) (h.table t).name
    index.columns with
  | error fault =>
    have failed : h.act (openFind t index client first last) = (.error fault, h) := by
      rw [openFind, act_get_bind]
      exact act_bind_error h ((act_ofExcept h _).trans (congrArg (·, h) made))
    rw [Reaches, Access.perform, act_bind_error h failed]
    rintro _ ⟨⟩
    exact surfaces_of_unwritten made tracks.toFollows fun ails => unfit h fault ails
  | ok statement =>
    let sql := statement.text (quoteFor h t) (h.table t).qualifiedName
    refine reaches_opened honest tracks ⟨t, sql, statement.params, client, .fresh⟩ ?_ rfl ?_
    · rw [openFind, act_get_bind]
      exact act_bind_ok h ((act_ofExcept h _).trans (congrArg (·, h) made))
    · exact fun g fault unbound => unfit g fault (Host.unfit_of_unbound made unbound)

end Next

end Action

/-! ### Accesses -/

/-- The access reads rows to the one who asks for them. -/
def Access.Reads : Access → Prop
  | query .. | scan _ | readIndex _ | find .. => True
  | _ => False

/-- The faults of an access to the table `t` that are found in what is at hand: in the rows, values
and bounds that are given with it, or in what is reported for a number of rows. -/
def Access.AtHand (t : Nat) (a : Access) (h : Host) (fault : Fault) : Prop :=
  match a with
  | addRow client row | removeRow client row | insertRow client row | deleteRow client row =>
    h.Unfit client (h.table t).columns [row] fault
  | updateRow client old new => h.Unfit client (h.table t).columns [old, new] fault
  | updateRows client _ pairs =>
    h.Unfit (some client) (h.table t).columns (pairs.flatMap fun pair => [pair.1, pair.2]) fault
  | rowCount _ => Uncounted fault
  | execute client _ params _ => h.Unbound client params fault
  | query client _ params failure => h.Unbound client params fault ∨ failure = some fault
  | find index client first last =>
    h.Unfit client index.columns (first.toList ++ last.toList) fault
  | scan _ | readIndex _ => False

open LinkedTables.Action in
/-- Every fault of an access surfaces. -/
theorem surfaced_access (honest : b.Honest t) (tracks : Tracks t b h) (a : Access) :
    Reaches (a.perform t) h (Surfaced t a.Reads (a.AtHand t) b) := by
  -- A fault of the access is one of its work.
  have told {α : Type} {x : Action α} (f : α → Reply)
      (hx : Surfacing t a.Reads (a.AtHand t) b x) :
      Reaches (do return f (← x)) h (Surfaced t a.Reads (a.AtHand t) b) := by
    refine Surfaced.map (fun fault failed => ?_) f
    have came := hx h tracks
    rw [Reaches, failed] at came
    exact came.2
  cases a with
  | addRow client row => exact told (fun _ => .done) (.addRow honest fun _ _ => id)
  | removeRow client row => exact told (fun _ => .done) (.removeRow honest fun _ _ => id)
  | updateRows client cancelled pairs =>
    refine told (fun _ => .done) (.bind (.of_modify ?_ ?_ ?_ ?_ ?_) fun _ =>
      .updateRows honest fun _ _ => id)
    all_goals exact fun _ => rfl
  | rowCount client => exact told .number (.rowCount honest client fun _ _ => id)
  | execute client sql params keep =>
    exact told .statement (.executeFor honest (fun _ _ => id) keep)
  | query client sql params failure =>
    exact told .rows (.query honest (fun _ _ => .inl) sql fun _ _ => .inr)
  | scan client =>
    have asked : Surfacing t True (Access.AtHand t (.scan client)) b
      (Action.ofExcept (h.table t).scanIndex) := .scanIndex _
    refine .get_bind (.bind (asked h tracks) (fun _ h' came => ?_) ?_)
    · exact reaches_readIndex honest came.1 client
    · rintro fault h' came _ ⟨⟩
      exact came.2
  | readIndex client => exact reaches_readIndex honest tracks client
  | find index client first last =>
    exact reaches_find honest tracks index client first last fun _ _ => id
  | insertRow client row => exact told (fun _ => .done) (.insertRow honest fun _ _ => id)
  | deleteRow client row => exact told (fun _ => .done) (.deleteRow honest fun _ _ => id)
  | updateRow client old new => exact told (fun _ => .done) (.updateRow honest fun _ _ => id)

/-! ### Honest remote sides -/

/-- Nothing is raised but what connecting foresees. -/
def isForeseen (raised : Option Fault) : Bool := raised.all Action.isConnectFault

/-- Nothing is raised but faults of the remote side. -/
def isTold {α : Type} (r : Except Fault α) : Bool :=
  match r with
  | .ok _ => true
  | .error fault => fault.isRemote

/-- A statement is answered with nothing but faults of the remote side, and rows that are fetched
without others. -/
def isToldThrough (r : Except Fault Remote.Answer) : Bool :=
  isTold r && r.toOption.all fun answer => answer.rows.all isTold

/-- What an address is read with. -/
def readFault (url : String) : Option Fault :=
  match Remote.Url.read url with
  | .ok _ => none
  | .error fault => some fault

/-- Whether the remote side of the table `t` is honest. -/
def Host.isHonest (t : Nat) (h : Host) : Bool :=
  h.script.invalidations.all Option.isNone && h.script.connectors.all isForeseen
    && h.script.connects.all isForeseen && isForeseen (readFault (h.table t).definition.key.url)
    && h.script.answers.all isToldThrough && h.results.all fun result => result.rows.all isTold

theorem readFault_eq_some {url : String} {fault : Fault} :
    readFault url = some fault ↔ Remote.Url.read url = .error fault := by
  rw [readFault]
  cases Remote.Url.read url with
  | ok _ => simp
  | error fault' => simp

/-- What is not foreseen would be raised. -/
theorem isForeseen_of_absurd {raised : Option Fault}
    (foreseen : ∀ fault, raised = some fault → Action.isConnectFault fault ≠ false) :
    isForeseen raised = true := by
  cases raised with
  | none => rfl
  | some fault => exact Bool.ne_false_iff.mp (foreseen fault rfl)

theorem Host.isHonest_iff {h : Host} : h.isHonest t = true ↔ h.Honest t := by
  simp only [isHonest, Bool.and_eq_true, List.all_eq_true]
  constructor
  · rintro ⟨⟨⟨⟨⟨invalidations, connectors⟩, connects⟩, readable⟩, answers⟩, results⟩
    have answered (r : Except Fault Remote.Answer) (there : r ∈ h.script.answers) :=
      Bool.and_eq_true_iff.mp (answers r there)
    refine ⟨fun fault raised => ?_, fun g told => ?_⟩
    · rcases raised with there | ⟨other, there | there | unreadable⟩
      · cases invalidations _ there
      · exact Bool.false_ne_true (other.symm.trans (connectors _ there))
      · exact Bool.false_ne_true (other.symm.trans (connects _ there))
      · rw [readFault_eq_some.mpr unreadable] at readable
        exact Bool.false_ne_true (other.symm.trans readable)
    · rcases told with there | ⟨answer, there, row⟩ | ⟨r, row⟩
      · exact (answered _ there).1
      · exact List.all_eq_true.mp (answered _ there).2 _ row
      · cases found : h.results.at? r with
        | none =>
          rw [Host.result, found] at row
          cases row
        | some result =>
          rw [Host.result, found] at row
          exact results result (List.mem_of_getElem? found) _ row
  · intro honest
    -- A row that is told is one of an answer or of a result.
    have row {r : Except Fault (List Value)} (tells : ∀ g, r = .error g → h.TellsRow g) :
        isTold r = true := by
      cases r with
      | ok _ => rfl
      | error g => exact honest.told g (.inr (tells g rfl))
    have raised (fault : Fault) (e : Action.isConnectFault fault = false)
        (drawn : some fault ∈ h.script.connectors ∨ some fault ∈ h.script.connects
          ∨ Remote.Url.read (h.table t).definition.key.url = .error fault) : False :=
      honest.foreseen fault (.inr ⟨e, drawn⟩)
    refine ⟨⟨⟨⟨⟨?_, ?_⟩, ?_⟩, ?_⟩, ?_⟩, ?_⟩
    · rintro (_ | fault) there
      · rfl
      · exact (honest.foreseen fault (.inl there)).elim
    · exact fun o there => isForeseen_of_absurd fun fault same e =>
        raised fault e (.inl (same ▸ there))
    · exact fun o there => isForeseen_of_absurd fun fault same e =>
        raised fault e (.inr (.inl (same ▸ there)))
    · exact isForeseen_of_absurd fun fault same e =>
        raised fault e (.inr (.inr (readFault_eq_some.mp same)))
    · rintro (g | answer) there
      · exact Bool.and_eq_true_iff.mpr ⟨honest.told g (.inl there), rfl⟩
      · refine Bool.and_eq_true_iff.mpr ⟨rfl, List.all_eq_true.mpr fun r among => row ?_⟩
        exact fun g same => .inl ⟨answer, there, same ▸ among⟩
    · intro result there r among
      obtain ⟨i, found⟩ := List.mem_iff_getElem?.mp there
      refine row fun g same => .inr ⟨i, ?_⟩
      rw [Host.result, Roster.at?, found]
      exact same ▸ among

instance (t : Nat) (h : Host) : Decidable (h.Honest t) := decidable_of_iff _ Host.isHonest_iff

/-! ### The main statement -/

/-- How faults surface. Let the remote side of a table that was created at a desk raise no faults
but its own, and connecting none that is not foreseen. Then every fault of an access is a failure of
the link (`Host.Fails`), unless it is found in what is at hand, or it is one that the remote side
raises while rows are fetched that are read to the one who asks for them: such a fault comes through
as it is. So does one that is raised while a cursor is read, which may stand anywhere. -/
theorem Desk.surfaced_of_created {d : Desk} (created : d.Created t) (honest : d.host.Honest t) :
    (∀ (a : Access) fault h', d.host.act (a.perform t) = (.error fault, h') →
      d.host.Surfaces t a.Reads (a.AtHand t) h' fault
      ∧ (¬ a.Reads → (∀ g, ¬ a.AtHand t g fault) →
        ∃ failure, fault = .link failure ∧ d.host.Fails t h' failure))
    ∧ ∀ c fault h', (d.host.cursor c).table = t → d.host.act (Action.next c) = (.error fault, h') →
      d.host.Surfaces t True (Host.Unbound (d.host.cursor c).client (d.host.cursor c).params) h'
        fault := by
  have tracks : Tracks t d.host d.host :=
    ⟨(followsUse t).refl _, (Desk.inService_of_created created).1,
      Desk.truthful_of_created created⟩
  refine ⟨fun a fault h' failed => ?_, fun c fault h' own failed => ?_⟩
  · have surfaced := surfaced_access honest tracks a
    rw [Action.Reaches, failed] at surfaced
    have surfaces := surfaced fault rfl
    exact ⟨surfaces, surfaces.link_of_unread honest⟩
  · have came := Action.reaches_next honest tracks own fun _ _ => id
    rw [Action.Reaches, failed] at came
    exact came

/-- A remote side that answers one statement, and is lost before the first row is fetched. -/
def Remote.Script.losing : Remote.Script :=
  let lost := .remote ⟨.operational, "server closed the connection", some "connection lost"⟩
  { quiet with answers := [.ok ⟨[.error lost], false⟩] }

/-- A count fails with the failure of its statement, and a cursor with the fault as it is. -/
theorem Desk.surfaced_of_losing :
    let d := (Desk.emitting .losing).2.after Operation.perform [.plain (.openScan 0 none) trivial]
    d.Created 0 ∧ d.host.Honest 0
      ∧ (∃ fault h', d.host.act ((Access.rowCount none).perform 0) = (.error fault, h')
        ∧ ∃ failure, fault = .link failure ∧ d.host.Fails 0 h' failure)
      ∧ ∃ fault h', d.host.act (Action.next 0) = (.error fault, h')
        ∧ d.host.Surfaces 0 True (Host.Unbound none []) h' fault := by
  intro d
  have created : d.Created 0 := Desk.created_emitting (by decide +kernel) _
  have honest : d.host.Honest 0 := by decide +kernel
  have counted : Reply.failure? (d.host.act ((Access.rowCount none).perform 0)).1
      = some .remoteExecutionFailure := by decide +kernel
  have table : (d.host.cursor 0).table = 0 := by decide +kernel
  have client : (d.host.cursor 0).client = none := by decide +kernel
  have params : (d.host.cursor 0).params = [] := List.isEmpty_iff.mp (by decide +kernel)
  have read : (d.host.act (Action.next 0)).1.toBool = false := by decide +kernel
  -- From here on the desk is known by these facts only.
  clear_value d
  obtain ⟨accesses, cursors⟩ := Desk.surfaced_of_created created honest
  refine ⟨created, honest, ?_, ?_⟩
  · generalize ran : d.host.act ((Access.rowCount none).perform 0) = p at counted
    obtain ⟨r, h'⟩ := p
    obtain ⟨failure, rfl⟩ := Reply.exists_of_failure? counted
    obtain ⟨-, wrapped⟩ := accesses (.rowCount none) (.link failure) h' ran
    exact ⟨_, h', rfl, wrapped id fun g uncounted => Uncounted.ne_link uncounted failure rfl⟩
  · generalize ran : d.host.act (Action.next 0) = p at read
    obtain ⟨r, h'⟩ := p
    cases r with
    | ok _ => cases read
    | error fault =>
      have surfaces := cursors 0 fault h' table ran
      rw [client, params] at surfaces
      exact ⟨fault, h', rfl, surfaces⟩

/-- A scan of a connected table does not fail with a failure of the link where a row is lost. -/
theorem Desk.escaped_of_losing :
    let d := (Desk.emitting .losing).2
    let ran := d.host.act ((Access.scan none).perform 0)
    d.Created 0 ∧ d.host.Honest 0 ∧ (d.host.table 0).session.isSome = true
      ∧ ran.1.toBool = false ∧ ∀ failure, ran.1 ≠ .error (.link failure) := by
  intro d ran
  have created : d.Created 0 := Desk.created_emitting (by decide +kernel) []
  refine ⟨created, by decide +kernel, by decide +kernel,
    by decide +kernel, fun failure same => ?_⟩
  have none : Reply.failure? ran.1 = none := by decide +kernel
  rw [same] at none
  cases none

end LinkedTables
