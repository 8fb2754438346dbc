import LinkedTables.Proofs.AcquireRelease
import LinkedTables.Proofs.OperationsWithoutExecution

/-!
# Work in the name of a table

Rows are changed and counted, and statements executed, in the name of a table: a few checks are made
first, and what is done behind them is done in its name. A `Voice` of a table is what such work
keeps, inside and from outside, and `Voice.perform` says that every operation of this kind keeps it.
What goes on between two executions are `Errand`s, which move no line.
-/

namespace LinkedTables

/-! ### Errands -/

/-- No session has been opened, closed, taken or released, and no statement sent. -/
structure Errand (h h' : Host) : Prop extends Chore h h' where
  lines : h'.lines = h.lines

theorem errand : Frame Errand where
  refl h := ⟨chore.refl h, rfl⟩
  trans a b := ⟨chore.trans a.toChore b.toChore, b.lines.trans a.lines⟩

namespace Action

open Keeps

variable {α : Type}

/-- A chore that is steady over given lines. -/
theorem errand_of_chore {x : Action α} (hx : Keeps Chore x)
    (steady : ∀ l cs, Steady (Unmoved l cs) x) : Keeps Errand x :=
  fun h => ⟨hx h, (Steady.unmoved steady h).1⟩

theorem errand_report (notice : Notice) : Keeps Errand (report notice) :=
  errand_of_chore (chore_report notice) fun l cs => (smooth_report (quiet_unmoved l cs) _).steady

theorem errand_closeResult (st : Nat) : Keeps Errand (closeResult st) :=
  errand_of_chore (chore_closeResult st) fun _ _ => (unmoved_closeResult st).steady

theorem errand_closeStatement (st : Nat) : Keeps Errand (closeStatement st) :=
  errand_of_chore (chore_closeStatement st) fun _ _ => (unmoved_closeStatement st).steady

theorem errand_takeStatement (s : Nat) (sql : String) : Keeps Errand (takeStatement s sql) :=
  errand_of_chore (chore_takeStatement s sql) fun _ _ => (unmoved_takeStatement s sql).steady

theorem errand_convertFor (client : Option Nat) (v : Value) : Keeps Errand (convertFor client v) :=
  errand_of_chore (chore_convertFor client v) fun l cs => steady_convertFor (quiet_unmoved l cs) ..

theorem errand_fetch (r : Nat) : Keeps Errand (fetch r) :=
  errand_of_chore (chore_fetch r) fun l cs => steady_fetch (quiet_unmoved l cs) r

theorem errand_fetchAll (r : Nat) : Keeps Errand (fetchAll r) :=
  errand_of_chore (chore_fetchAll r) fun l cs => steady_fetchAll (quiet_unmoved l cs) r

theorem errand_readRows (st : Nat) : Keeps Errand (readRows st) := by
  refine get_bind fun h => ?_
  split
  · exact errand_fetchAll _
  · exact of_pure errand []

theorem errand_readSingle (st : Nat) : Keeps Errand (readSingle st) := by
  refine get_bind fun h => ?_
  split
  · exact of_throw errand _
  · refine bind errand (errand_fetch _) fun row => ?_
    cases row with
    | none => exact of_throw errand _
    | some row =>
      refine bind errand (errand_fetch _) fun more => ?_
      cases more with
      | some _ => exact of_throw errand _
      | none =>
        cases row with
        | nil => exact of_throw errand _
        | cons v _ => exact of_pure errand v

/-- What comes of an execution is kept as the result of its statement. -/
theorem errand_receive (st connection : Nat) : Keeps Errand (do
    let answer ← Action.ofExcept (← fromScript Remote.Script.execute)
    let r := (← get).results.next
    modify fun h => { h with
      cancelled := h.cancelled || answer.cancels
      results := h.results.join ⟨connection, answer.rows, false⟩ }
    reviseStatement st fun statement => { statement with result := some r }
    return r) := by
  refine bind errand (of_fromScript errand (fun _ _ => ⟨.of_others, rfl⟩) _) fun answer => ?_
  refine bind errand (of_ofExcept errand _) fun answer => get_bind fun _ => ?_
  refine bind errand (of_modify fun _ => ⟨.of_others, rfl⟩) fun _ => ?_
  exact bind errand (of_modify fun _ => ⟨.of_statement fun _ => rfl, rfl⟩) fun _ => of_pure errand _

theorem errand_checkCancelled : Keeps Errand checkCancelled :=
  errand_of_chore chore_checkCancelled fun l cs => steady_checkCancelled (quiet_unmoved l cs)

theorem errand_recordChange (client : Nat) (record : UndoRecord) :
    Keeps Errand (recordChange client record) :=
  errand_of_chore (chore_recordChange client record) fun l cs =>
    steady_recordChange (quiet_unmoved l cs) client record

end Action

/-! ### Voices -/

/-- What work for the table `t` keeps: `σ` what is done in its name, and `ρ` the whole of it. -/
structure Voice (t : Nat) (σ ρ : Host → Host → Prop) : Prop where
  inner : Frame σ
  outer : Frame ρ
  enter : ∀ {h h'}, ρ h h' → σ h h'
  errand : ∀ {h h'}, Errand h h' → σ h h'
  command : ∀ h cancelled, ρ h { h with cancelled }
  aloud : ∀ {h h' : Host}, σ { h with link := some (h.table t).name } h' →
    ρ h { h' with link := h.link }
  execute : ∀ sql params client, Action.Keeps σ (Action.execute t sql params client)
  run : ∀ sql params client, Action.Keeps σ (Action.run t sql params client)
  reading : ∀ {α : Type} {read : Nat → Action α} sql params client,
    (∀ st, Action.Keeps Errand (read st)) →
      Action.Keeps σ (Action.reading t sql params client read)

/-- The operation works in the name of the table `t`. -/
def Operation.Voices (t : Nat) : Operation → Prop
  | addRow u .. | removeRow u .. | updateRows u .. | rowCount u .. | execute u .. => u = t
  | _ => False

namespace Voice

open LinkedTables.Action Keeps

variable {t : Nat} {σ ρ : Host → Host → Prop} (V : Voice t σ ρ) {α : Type}
include V

theorem inLink {work : Action α} (hw : Keeps σ work) (h : Host) :
    ρ h (h.act (inLink (h.table t).name work)).2 := by
  rw [Host.act_inLink]
  exact V.aloud (hw _)

theorem executeNamed {work : Action α} (hw : Keeps σ work) : Keeps ρ (executeNamed t work) := by
  refine get_bind_at fun h => ?_
  dsimp only
  cases (h.table t).checkValid with
  | error fault => exact V.outer.refl h
  | ok _ => exact V.inLink hw h

theorem checkChange (u : Nat) : Keeps ρ (checkChange u) :=
  get_bind fun _ => bind V.outer (of_ofExcept V.outer _) fun _ => of_ofExcept V.outer _

theorem runRows (client : Option Nat) (statement : Except Fault Sql.RowStatement) :
    Keeps ρ (runRows t client statement) :=
  bind V.outer (of_ofExcept V.outer _) fun _ => get_bind fun _ => V.executeNamed (V.run _ _ client)

theorem addRow (client : Option Nat) (row : List Value) : Keeps ρ (addRow t client row) :=
  bind V.outer (V.checkChange t) fun _ => get_bind fun _ => V.runRows client _

theorem removeRow (client : Option Nat) (row : List Value) : Keeps ρ (removeRow t client row) :=
  bind V.outer (V.checkChange t) fun _ => get_bind fun _ => V.runRows client _

theorem updateRows (client : Nat) (pairs : List (List Value × List Value)) :
    Keeps ρ (updateRows t client pairs) := by
  have errand {α : Type} {x : Action α} (hx : Keeps Errand x) : Keeps σ x :=
    hx.mono fun _ _ => V.errand
  -- The rows are changed by work that is done in the name of the table once more.
  have inward {x : Action Unit} (hx : Keeps ρ x) : Keeps σ x := hx.mono fun _ _ => V.enter
  have check := errand errand_checkCancelled
  have record (row : List Value) (change : Change) : Keeps σ (do
      recordChange client ⟨((← get).table t).label, change, row⟩) :=
    get_bind fun _ => errand (errand_recordChange client _)
  refine bind V.outer (V.checkChange t) fun _ => get_bind_at fun h => ?_
  refine V.inLink (of_ite ?_ ?_) h
  · refine of_forM V.inner pairs fun pair => bind V.inner check fun _ => ?_
    refine bind V.inner (get_bind fun _ => inward (V.runRows (some client) _)) fun _ => ?_
    exact get_bind fun _ => bind V.inner (errand (errand_recordChange client _)) fun _ =>
      errand (errand_recordChange client _)
  · refine bind V.inner ?_ fun _ => ?_
    · refine of_forM V.inner pairs fun pair => bind V.inner check fun _ => ?_
      exact bind V.inner (inward (V.removeRow (some client) pair.1)) fun _ => record pair.1 .delete
    · refine of_forM V.inner pairs fun pair => bind V.inner check fun _ => ?_
      exact bind V.inner (inward (V.addRow (some client) pair.2)) fun _ => record pair.2 .insert

theorem rowCount (client : Option Nat) : Keeps ρ (rowCount t client) := by
  refine get_bind fun h => V.executeNamed ?_
  refine outcome_bind V.inner (V.reading _ [] client fun st => ?_) fun r => ?_
  · exact bind LinkedTables.errand (errand_readSingle st) fun v =>
      of_ofExcept LinkedTables.errand _
  · cases r with
    | ok a => exact of_pure V.inner a
    | error fault => exact of_throw V.inner _

theorem executeFor (client : Option Nat) (sql : String) (params : List Value) (keep : Bool) :
    Keeps ρ (executeFor t client sql params keep) := by
  refine V.executeNamed (of_ite ?_ ?_)
  · exact bind V.inner (V.execute sql params client) fun _ => of_pure V.inner _
  · exact bind V.inner (V.run sql params client) fun _ => of_pure V.inner _

/-- An operation in the name of a table keeps what work in its name does. -/
theorem perform {o : Operation} (voices : o.Voices t) : Keeps ρ o.perform := by
  have silent {x : Action Unit} (hx : Keeps ρ x) : Keeps ρ (silently x) :=
    bind V.outer hx fun _ => of_pure V.outer Reply.done
  cases o with
  | addRow u client row =>
    obtain rfl : u = t := voices
    exact silent (V.addRow client row)
  | removeRow u client row =>
    obtain rfl : u = t := voices
    exact silent (V.removeRow client row)
  | updateRows u client cancelled pairs =>
    obtain rfl : u = t := voices
    exact silent (bind V.outer (of_modify fun h => V.command h cancelled) fun _ =>
      V.updateRows client pairs)
  | rowCount u client =>
    obtain rfl : u = t := voices
    exact bind V.outer (V.rowCount client) fun _ => of_pure V.outer _
  | execute u client sql params keep =>
    obtain rfl : u = t := voices
    exact bind V.outer (V.executeFor client sql params keep) fun _ => of_pure V.outer _
  | _ => exact voices.elim

end Voice

end LinkedTables
