import LinkedTables.Proofs.Calls
import LinkedTables.Proofs.RowEffect

/-!
# Refusals

A table that holds no session, or that remembers why it could not be connected, is not ready:
whoever needs its link ends in that failure. Some accesses look at other things first (`Access.checks`). An
access comes to the first fault that is found, and nothing happens to the host but that a command is
begun or a cursor opened (`Host.act_access`); on the way there each step of an access is refused in
the same sense (`Host.Refuses`), from the statements for rows, which name no column, outwards.
-/

namespace LinkedTables

/-! ### Statements for rows -/

/-- The fault of a table, known by its name, none of whose columns can tell its rows. -/
def Sql.untold (table : String) : Fault :=
  .link (.plain .unsupportedOperation
    ("Linked table " ++ table ++ " has no comparable columns to identify a row"))

/-- The columns can tell rows apart: not all of them are large objects. -/
def Sql.checkTelling (table : String) (columns : List Column) : Except Fault Unit :=
  if columns.all (·.type.kind.isLarge) then .error (untold table) else .ok ()

/-- There are columns. -/
def Sql.checkColumns (table : String) (columns : List Column) : Except Fault Unit :=
  if columns.isEmpty then .error (untold table) else .ok ()

/-- The row gives a column a value of its own. -/
def Sql.isGiven (row : List Value) (c : Column) : Bool :=
  match row[c.ordinal]? with
  | some .useDefault => false
  | _ => true

/-- The fault that a check ends in, and the failure behind a check that is passed. -/
def firstFault (check : Except Fault Unit) (failure : LinkFault) : Fault :=
  match check with
  | .error fault => fault
  | .ok _ => .link failure

namespace Sql

variable {columns : List Column} {failure : LinkFault}

/-- The columns that tell rows are named first, and none can be. -/
theorem identifying_unready (table : String) (row : List Value) :
    identifying (.error (.link failure)) table columns row
      = .error (firstFault (checkTelling table columns) failure) := by
  rw [identifying, conditionsOf, checkTelling]
  cases telling : columns.filter fun c => !c.type.kind.isLarge with
  | nil =>
    have large : columns.all (·.type.kind.isLarge) = true := by
      simpa [List.filter_eq_nil_iff] using telling
    rw [if_pos large]
    rfl
  | cons c rest =>
    have small : ¬ columns.all (·.type.kind.isLarge) = true := by
      intro large
      have here : c ∈ columns.filter fun c => !c.type.kind.isLarge := telling ▸ List.mem_cons_self
      obtain ⟨among, small⟩ := List.mem_filter.mp here
      rw [List.all_eq_true.mp large c among] at small
      cases small
    rw [if_neg small, List.mapM_cons]
    rfl

theorem deleteRow_unready (table : String) (row : List Value) :
    deleteRow (.error (.link failure)) table columns row
      = .error (firstFault (checkTelling table columns) failure) := by
  rw [deleteRow, identifying_unready]
  rfl

section Width

variable (numbered : Numbered columns) {row : List Value} (width : columns.length ≤ row.length)
include numbered width

/-- A row that is wide enough has a value for every column. -/
theorem exists_valueAt {c : Column} (hc : c ∈ columns) : ∃ v, row[c.ordinal]? = some v :=
  ⟨_, List.getElem?_eq_getElem (Nat.lt_of_lt_of_le (ordinal_lt numbered hc) width)⟩

theorem updateRow_unready (table : String) (old : List Value) :
    updateRow (.error (.link failure)) table columns old row
      = .error (firstFault (checkColumns table columns) failure) := by
  cases columns with
  | nil =>
    rw [updateRow, identifying_unready]
    rfl
  | cons c rest =>
    obtain ⟨v, found⟩ := exists_valueAt numbered width List.mem_cons_self
    rw [updateRow, List.mapM_cons, valueAt, found]
    rfl

/-- A column that is given a value of its own is named. -/
theorem cellOf_unready {c : Column} (hc : c ∈ columns) :
    cellOf (.error (.link failure)) row c
      = if isGiven row c then .error (.link failure) else .ok none := by
  obtain ⟨v, found⟩ := exists_valueAt numbered width hc
  rw [cellOf, valueAt, isGiven, found]
  cases v <;> rfl

theorem insertRow_unready :
    insertRow (.error (.link failure)) columns row
      = if columns.any (isGiven row) then .error (.link failure) else .ok (.insert []) := by
  have cells (l : List Column) (among : ∀ c ∈ l, c ∈ columns) :
      l.mapM (cellOf (.error (.link failure)) row)
        = if l.any (isGiven row) then .error (.link failure) else .ok (l.map fun _ => none) := by
    induction l with
    | nil => rfl
    | cons c rest ih =>
      rw [List.mapM_cons, List.any_cons, cellOf_unready numbered width (among c List.mem_cons_self),
        ih fun c hc => among c (List.mem_cons_of_mem _ hc)]
      cases isGiven row c with
      | true => rfl
      | false => cases rest.any (isGiven row) <;> rfl
  rw [insertRow, cells columns fun _ => id]
  split
  · rfl
  · show Except.ok (RowStatement.insert ((columns.map fun _ => none).filterMap id)) = _
    rw [List.filterMap_map]
    exact congrArg (fun cells => Except.ok (RowStatement.insert cells))
      (List.filterMap_eq_nil_iff.mpr fun _ _ => rfl)

end Width

theorem selectBetween_unready (first last : Option (List Value)) :
    selectBetween (.error (.link failure)) columns first last
      = if columns.isEmpty then .ok (.select []) else .error (.link failure) := by
  cases columns with
  | nil => rfl
  | cons c rest =>
    rw [selectBetween, List.mapM_cons]
    rfl

end Sql

/-! ### Refusals -/

/-- From the host the action comes to the first fault of a check, or to the failure behind it, and
nothing happens. -/
def Host.Refuses (h : Host) {α : Type} (x : Action α) (check : Except Fault Unit)
    (failure : LinkFault) : Prop :=
  h.act x = (.error (firstFault check failure), h)

namespace Host

variable {h : Host} {α β : Type} {x : Action α} {check : Except Fault Unit} {failure : LinkFault}

namespace Refuses

theorem bind (refused : h.Refuses x check failure) (f : α → Action β) :
    h.Refuses (x >>= f) check failure :=
  act_bind_error h refused

/-- One more check is made before. -/
theorem behind (refused : h.Refuses x check failure) (first : Except Fault Unit) :
    h.Refuses (Action.ofExcept first >>= fun _ => x) (first >>= fun _ => check) failure := by
  rw [Refuses, act_bind, act_ofExcept]
  cases first with
  | error fault => rfl
  | ok _ => exact refused

theorem inLink (name : String)
    (refused : ({ h with link := some name } : Host).Refuses x check failure) :
    h.Refuses (Action.inLink name x) check failure := by
  rw [Refuses, act_inLink, refused]

/-- A change is refused before the link is needed if the table must not be changed. -/
theorem changing (t : Nat) (refused : h.Refuses x check failure) :
    h.Refuses (Action.checkChange t >>= fun _ => x)
      (do (h.table t).checkWritable; (h.table t).checkValid; check) failure := by
  rw [Action.checkChange, Refuses, bind_assoc, act_get_bind]
  dsimp only
  rw [bind_assoc]
  exact (refused.behind _).behind _

theorem proceeding (refused : h.Refuses x check failure) :
    h.Refuses (Action.checkCancelled >>= fun _ => x)
      (do Cancellation.check h.cancelled; check) failure := by
  rw [Action.checkCancelled, Refuses, bind_assoc, act_get_bind]
  exact refused.behind _

theorem silently {x : Action Unit} (refused : h.Refuses x check failure) :
    h.Refuses (Action.silently x) check failure :=
  refused.bind _

/-- The failure of a link is not put into another. -/
theorem wrapping (refused : h.Refuses x (.ok ()) failure) (sql : String) :
    h.Refuses (Action.wrapping sql x) (.ok ()) failure := by
  rw [Refuses, Action.wrapping, act_outcome_bind, refused]
  rfl

theorem get_bind {f : Host → Action α} (refused : h.Refuses (f h) check failure) :
    h.Refuses (get >>= f) check failure :=
  refused

theorem forM {ι : Type} {f : ι → Action Unit} (i : ι) (l : List ι)
    (refused : h.Refuses (f i) check failure) : h.Refuses ((i :: l).forM f) check failure :=
  refused.bind _

end Refuses

/-- A check that has been passed is passed again. -/
theorem check_again (first second third last : Except Fault Unit) :
    (do first; second; third; first; second; last) = (do first; second; third; last) := by
  cases first with
  | error _ => rfl
  | ok _ =>
    cases second with
    | error _ => rfl
    | ok _ => rfl

/-! ### Tables that are not ready -/

open LinkedTables.Action

/-- A table that has been removed is told before the link is needed. -/
theorem refuses_executeNamed {t : Nat} {work : Action α}
    (refused : ({ h with link := some (h.table t).name } : Host).Refuses work (.ok ()) failure) :
    h.Refuses (executeNamed t work) (h.table t).checkValid failure := by
  have checked := (Refuses.inLink _ refused).behind (h.table t).checkValid
  rw [show ((h.table t).checkValid >>= fun _ => .ok ()) = (h.table t).checkValid by
    cases (h.table t).checkValid <;> rfl] at checked
  rwa [executeNamed, Refuses, act_get_bind]

/-- A statement that cannot be written is not executed. -/
theorem refuses_statement (t : Nat) (client : Option Nat) (check : Except Fault Unit)
    (failure : LinkFault) :
    h.Refuses (runRows t client (.error (firstFault check failure))) check failure := by
  rw [runRows, Refuses, act_bind, act_ofExcept]

section Unready

variable {t : Nat} (unready : readySession (h.table t) = .error (.link failure))
include unready

theorem refuses_execute (sql : String) (params : List Value) (client : Option Nat) :
    h.Refuses (execute t sql params client) (.ok ()) failure := by
  refine Refuses.bind ?_ _
  rw [requireSession, Refuses, act_get_bind, act_ofExcept, unready]
  rfl

theorem readiness_unready : readiness (h.table t) = .error (.link failure) := by
  rw [readiness, unready]
  rfl

theorem refuses_run (client : Option Nat) (statement : Sql.RowStatement) :
    h.Refuses (runRows t client (.ok statement)) (h.table t).checkValid failure := by
  let named : Host := { h with link := some (h.table t).name }
  have refused : named.Refuses (run t (statement.text (quoteFor h t) (h.table t).qualifiedName)
      statement.params client) (.ok ()) failure :=
    (refuses_execute (h := named) unready _ _ _).bind _
  rw [Refuses, runRows, act_bind_ok h (act_ofExcept h (.ok statement)), act_get_bind]
  exact refuses_executeNamed refused

theorem refuses_deleteRow (client : Option Nat) (row : List Value) :
    h.Refuses (deleteRow t client row)
      (Sql.checkTelling (h.table t).name (h.table t).columns) failure := by
  rw [Refuses, deleteRow, act_get_bind]
  dsimp only
  rw [readiness_unready unready, Sql.deleteRow_unready]
  exact refuses_statement t client _ failure

variable (numbered : Numbered (h.table t).columns)
include numbered

theorem refuses_insertRow (client : Option Nat) {row : List Value}
    (width : (h.table t).columns.length ≤ row.length) :
    h.Refuses (insertRow t client row)
      (if (h.table t).columns.any (Sql.isGiven row) then .ok () else (h.table t).checkValid)
      failure := by
  rw [Refuses, insertRow, act_get_bind]
  dsimp only
  rw [readiness_unready unready, Sql.insertRow_unready numbered width]
  split
  · exact refuses_statement t client (.ok ()) failure
  · exact refuses_run unready client _

theorem refuses_updateRow (client : Option Nat) (old : List Value) {new : List Value}
    (width : (h.table t).columns.length ≤ new.length) :
    h.Refuses (updateRow t client old new)
      (Sql.checkColumns (h.table t).name (h.table t).columns) failure := by
  rw [Refuses, updateRow, act_get_bind]
  dsimp only
  rw [readiness_unready unready, Sql.updateRow_unready numbered width]
  exact refuses_statement t client _ failure

/-- A table that has been removed is told by the first check already. -/
theorem refuses_addRow (client : Option Nat) {row : List Value}
    (width : (h.table t).columns.length ≤ row.length) :
    h.Refuses (addRow t client row)
      (do (h.table t).checkWritable; (h.table t).checkValid) failure := by
  have once : (do
      (h.table t).checkWritable
      (h.table t).checkValid
      if (h.table t).columns.any (Sql.isGiven row) then .ok () else (h.table t).checkValid)
      = (do (h.table t).checkWritable; (h.table t).checkValid) := by
    cases (h.table t).checkWritable with
    | error _ => rfl
    | ok _ =>
      cases (h.table t).checkValid with
      | error _ => rfl
      | ok _ => exact ite_self _
  rw [← once]
  exact (refuses_insertRow unready numbered client width).changing t

/-! ### Updates

Nothing comes behind the first pair, since nothing comes behind its first statement. -/

theorem refuses_emitUpdates (client : Nat) (old : List Value) {new : List Value}
    (rest : List (List Value × List Value)) (width : (h.table t).columns.length ≤ new.length) :
    h.Refuses (emitUpdates t client ((old, new) :: rest))
      (do Cancellation.check h.cancelled; Sql.checkColumns (h.table t).name (h.table t).columns)
      failure := by
  refine .forM (old, new) rest (.proceeding (.bind ?_ _))
  exact refuses_updateRow unready numbered _ old width

omit numbered in
theorem refuses_replace (client : Nat) (old new : List Value)
    (rest : List (List Value × List Value)) :
    h.Refuses ((rowStore t client).replace ((old, new) :: rest))
      (do
        Cancellation.check h.cancelled
        (h.table t).checkWritable
        (h.table t).checkValid
        Sql.checkTelling (h.table t).name (h.table t).columns) failure := by
  refine .bind (.forM (old, new) rest (.proceeding (.bind ?_ _))) _
  exact (refuses_deleteRow unready _ old).changing t

theorem refuses_updateRows (client : Nat) {pairs : List (List Value × List Value)}
    (some_pair : pairs ≠ [])
    (width : ∀ pair ∈ pairs, (h.table t).columns.length ≤ pair.2.length) :
    h.Refuses (updateRows t client pairs) (do
      (h.table t).checkWritable
      (h.table t).checkValid
      Cancellation.check h.cancelled
      if (h.table t).definition.emitUpdates then
        Sql.checkColumns (h.table t).name (h.table t).columns
      else Sql.checkTelling (h.table t).name (h.table t).columns) failure := by
  let named : Host := { h with link := some (h.table t).name }
  have unready : readySession (named.table t) = .error (.link failure) := unready
  have numbered : Numbered (named.table t).columns := numbered
  obtain ⟨⟨old, new⟩, rest, rfl⟩ := List.exists_cons_of_ne_nil some_pair
  have width := width _ List.mem_cons_self
  rw [updateRows]
  -- The first pair is refused already: as an update, or as the deletion of its old row.
  cases emits : (h.table t).definition.emitUpdates with
  | true =>
    have emitted := (refuses_emitUpdates unready numbered client old rest width).inLink (h := h)
    refine Refuses.changing t (.get_bind ?_)
    dsimp only
    rw [emits]
    exact emitted
  | false =>
    have replaced := (refuses_replace unready client old new rest).inLink (h := h)
    rw [← check_again]
    refine Refuses.changing t (.get_bind ?_)
    dsimp only
    rw [emits]
    exact replaced

/-! ### Counts and rows -/

omit numbered in
theorem refuses_reading (sql : String) (params : List Value) (client : Option Nat)
    (read : Nat → Action α) : h.Refuses (reading t sql params client read) (.ok ()) failure :=
  (refuses_execute unready sql params client).bind _

omit numbered in
theorem refuses_rowCount (client : Option Nat) :
    h.Refuses (rowCount t client) (h.table t).checkValid failure := by
  let named : Host := { h with link := some (h.table t).name }
  have unready : readySession (named.table t) = .error (.link failure) := unready
  exact .get_bind (refuses_executeNamed ((refuses_reading unready _ [] client _).wrapping _))

omit numbered in
theorem refuses_executeFor (client : Option Nat) (sql : String) (params : List Value)
    (keep : Bool) :
    h.Refuses (executeFor t client sql params keep) (h.table t).checkValid failure := by
  let named : Host := { h with link := some (h.table t).name }
  have unready : readySession (named.table t) = .error (.link failure) := unready
  refine refuses_executeNamed ?_
  cases keep with
  | true => exact (refuses_execute unready sql params client).bind _
  | false => exact ((refuses_execute unready sql params client).bind _).bind _

omit numbered unready in
/-- The rows of a query that has not run are not read where it cannot run, and the cursor is
ended. -/
theorem act_next_unready {c : Nat} (fresh : (h.cursor c).phase = .fresh)
    (unready : readySession (h.table (h.cursor c).table) = .error (.link failure)) :
    h.act (next c) = (.error (.link failure),
      { h with cursors := h.cursors.revise c fun cursor => { cursor with phase := .ended } }) := by
  rw [next, act_get_bind]
  dsimp only
  rw [fresh]
  dsimp only
  rw [act_outcome_bind, refuses_execute unready]
  rfl

omit numbered unready in
theorem act_drain_unready {c : Nat} (fresh : (h.cursor c).phase = .fresh)
    (unready : readySession (h.table (h.cursor c).table) = .error (.link failure)) :
    h.act (drain c) = (.error (.link failure),
      { h with cursors := h.cursors.revise c fun cursor => { cursor with phase := .ended } }) :=
  act_bind_error h (act_next_unready fresh unready)

omit numbered in
/-- A query for the table is not run. -/
theorem act_read_unready {x : Action Nat} (cursor : Cursor)
    (opens : h.act x = h.act (openCursor cursor)) (own : cursor.table = t)
    (fresh : cursor.phase = .fresh) :
    ∃ cursors, h.act (do return Reply.rows (← drain (← x)))
      = (.error (.link failure), { h with cursors }) := by
  let opened : Host := { h with cursors := h.cursors.join cursor }
  have here : opened.cursor h.cursors.next = cursor :=
    congrArg (·.getD default) (Roster.at?_join_next h.cursors cursor)
  have unready : readySession (opened.table (opened.cursor h.cursors.next).table)
      = .error (.link failure) := by
    rw [here, own]
    exact unready
  have drained := act_drain_unready (by rw [here, fresh]) unready
  have joined : h.act x = (.ok h.cursors.next, opened) := opens.trans rfl
  rw [act_bind_ok h joined, act_bind_error opened drained]
  exact ⟨_, rfl⟩

omit numbered in
theorem act_readIndex_unready (client : Option Nat) :
    ∃ cursors, h.act ((Access.readIndex client).perform t)
      = (.error (.link failure), { h with cursors }) := by
  let sql := (Sql.RowStatement.select []).text id (h.table t).qualifiedName
  refine act_read_unready unready ⟨t, sql, [], client, .fresh⟩ ?_ rfl rfl
  rw [openScan, act_get_bind]

omit numbered in
theorem act_scan_unready (client : Option Nat) :
    ∃ cursors, h.act ((Access.scan client).perform t)
      = (.error (firstFault (h.table t).checkValid failure), { h with cursors }) := by
  rw [Access.perform, act_get_bind]
  cases valid : (h.table t).checkValid with
  | error fault =>
    refine ⟨h.cursors, act_bind_error h ?_⟩
    rw [act_ofExcept, LinkedTable.scanIndex, valid]
    rfl
  | ok _ =>
    have passed : h.act (Action.ofExcept (h.table t).scanIndex)
        = (.ok ((h.table t).indexes.headD (Shape.scanIndex (h.table t).columns)), h) := by
      rw [act_ofExcept, LinkedTable.scanIndex, valid]
      rfl
    rw [act_bind_ok h passed]
    exact act_readIndex_unready unready client

omit numbered in
/-- Bounds on columns cannot be named. -/
theorem act_find_unready (index : Index) (client : Option Nat)
    (first last : Option (List Value)) :
    ∃ cursors, h.act ((Access.find index client first last).perform t)
      = (.error (.link failure), { h with cursors }) := by
  cases bare : index.columns.isEmpty with
  | true =>
    let sql := (Sql.RowStatement.select []).text (quoteFor h t) (h.table t).qualifiedName
    refine act_read_unready unready ⟨t, sql, [], client, .fresh⟩ ?_ rfl rfl
    rw [openFind, act_get_bind]
    dsimp only
    rw [readiness_unready unready, Sql.selectBetween_unready, bare]
    exact act_bind_ok h (act_ofExcept h _)
  | false =>
    have failed : h.act (openFind t index client first last) = (.error (.link failure), h) := by
      rw [openFind, act_get_bind]
      dsimp only
      rw [readiness_unready unready, Sql.selectBetween_unready, bare]
      exact act_bind_error h (act_ofExcept h _)
    exact ⟨h.cursors, act_bind_error h failed⟩

end Unready

end Host

/-! ### Accesses -/

/-- What an access looks at before the link of the table is needed. -/
def Access.checks (table : LinkedTable) : Access → Except Fault Unit
  | addRow .. => do
    table.checkWritable
    table.checkValid
  | removeRow .. => do
    table.checkWritable
    table.checkValid
    Sql.checkTelling table.name table.columns
  | updateRows _ cancelled _ => do
    table.checkWritable
    table.checkValid
    Cancellation.check cancelled
    if table.definition.emitUpdates then Sql.checkColumns table.name table.columns
    else Sql.checkTelling table.name table.columns
  | rowCount _ | execute .. | scan _ => table.checkValid
  | query .. | readIndex _ | find .. => .ok ()
  | insertRow _ row => if table.columns.any (Sql.isGiven row) then .ok () else table.checkValid
  | deleteRow .. => Sql.checkTelling table.name table.columns
  | updateRow .. => Sql.checkColumns table.name table.columns

/-- A check whose faults are all failures of the link. -/
def OnLink (check : Except Fault Unit) : Prop :=
  ∀ fault, check = .error fault → ∃ failure, fault = .link failure

namespace OnLink

variable {check check' : Except Fault Unit}

theorem ok : OnLink (.ok ()) := nofun

theorem link (failure : LinkFault) : OnLink (.error (.link failure)) := by
  rintro fault ⟨⟩
  exact ⟨failure, rfl⟩

theorem and (first : OnLink check) (second : OnLink check') :
    OnLink (do check; check') := by
  cases check with
  | error fault => exact first
  | ok _ => exact second

theorem of_ite {c : Prop} [Decidable c] (first : OnLink check) (second : OnLink check') :
    OnLink (if c then check else check') := by
  split
  · exact first
  · exact second

theorem checkValid (table : LinkedTable) : OnLink table.checkValid := of_ite ok (link _)

theorem checkWritable (table : LinkedTable) : OnLink table.checkWritable := of_ite (link _) ok

theorem checkCancelled (cancelled : Bool) : OnLink (Cancellation.check cancelled) :=
  of_ite (link _) ok

theorem checkTelling (name : String) (columns : List Column) :
    OnLink (Sql.checkTelling name columns) := of_ite (link _) ok

theorem checkColumns (name : String) (columns : List Column) :
    OnLink (Sql.checkColumns name columns) := of_ite (link _) ok

theorem checks (a : Access) (table : LinkedTable) : OnLink (a.checks table) := by
  have valid := checkValid table
  have writable := checkWritable table
  have telling := checkTelling table.name table.columns
  have columns := checkColumns table.name table.columns
  cases a with
  | addRow client row => exact writable.and valid
  | removeRow client row => exact writable.and (valid.and telling)
  | updateRows client cancelled pairs =>
    exact writable.and (valid.and ((checkCancelled cancelled).and (of_ite columns telling)))
  | rowCount client => exact valid
  | execute client sql params keep => exact valid
  | scan client => exact valid
  | query client sql params failure => exact ok
  | readIndex client => exact ok
  | find index client first last => exact ok
  | insertRow client row => exact of_ite ok valid
  | deleteRow client row => exact telling
  | updateRow client old new => exact columns

/-- The first fault is a failure of the link as well. -/
theorem firstFault (onLink : OnLink check) (failure : LinkFault) :
    ∃ f, LinkedTables.firstFault check failure = .link f := by
  cases found : check with
  | error fault => exact onLink fault found
  | ok _ => exact ⟨failure, rfl⟩

end OnLink

open LinkedTables.Action in
/-- An access to a table that is not ready comes to the first fault that is found, and nothing
happens but that a command is begun or a cursor opened. -/
theorem Host.act_access {h : Host} {t : Nat} {failure : LinkFault}
    (unready : readySession (h.table t) = .error (.link failure))
    (numbered : Numbered (h.table t).columns) {a : Access} (fits : a.Fits (h.table t)) :
    ∃ cancelled cursors, h.act (a.perform t)
      = (.error (firstFault (a.checks (h.table t)) failure), { h with cancelled, cursors }) := by
  have same {x : Action Reply} (refused : h.Refuses x (a.checks (h.table t)) failure) :
      ∃ cancelled cursors, h.act x
        = (.error (firstFault (a.checks (h.table t)) failure), { h with cancelled, cursors }) :=
    ⟨h.cancelled, h.cursors, refused⟩
  cases a with
  | addRow client row => exact same (refuses_addRow unready numbered client fits).silently
  | removeRow client row => exact same ((refuses_deleteRow unready client row).changing t).silently
  | updateRows client cancelled pairs =>
    let begun : Host := { h with cancelled }
    obtain ⟨some_pair, width⟩ := fits
    have refused := refuses_updateRows (h := begun) unready numbered client some_pair
      fun pair hp => (width pair hp).2
    exact ⟨cancelled, h.cursors, Refuses.silently refused⟩
  | rowCount client => exact same ((refuses_rowCount unready client).bind _)
  | execute client sql params keep =>
    exact same ((refuses_executeFor unready client sql params keep).bind _)
  | query client sql params failure =>
    exact same ((refuses_reading unready sql params client _).bind _)
  | scan client => exact ⟨h.cancelled, act_scan_unready unready client⟩
  | readIndex client => exact ⟨h.cancelled, act_readIndex_unready unready client⟩
  | find index client first last =>
    exact ⟨h.cancelled, act_find_unready unready index client first last⟩
  | insertRow client row => exact same (refuses_insertRow unready numbered client fits).silently
  | deleteRow client row => exact same (refuses_deleteRow unready client row).silently
  | updateRow client old new =>
    exact same (refuses_updateRow unready numbered client old fits.2).silently

end LinkedTables
