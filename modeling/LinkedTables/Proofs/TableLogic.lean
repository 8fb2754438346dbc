import LinkedTables.Proofs.LinkLogic

/-!
# The logic of a table

What the operations of a table come to under a `LinkLogic`: executing a statement makes it busy
(`execute`), and whatever executes a statement and is done with it is alike on both sides
(`reading`, `addRow`, `removeRow`, `updateRows`, `rowCount`, `query`).
-/

namespace LinkedTables

namespace Action

variable {α β : Type} {R E : Host → Host → Prop} {Q : α → β → Host → Host → Prop}
  {x : Action α} {y : Action β}

/-- A fault may be put into another, if that is done on both sides. -/
theorem Coupled.wrapping (sql : String) (hx : Coupled R x y Q E) :
    Coupled R (wrapping sql x) (wrapping sql y) Q E := by
  refine Coupled.outcome_bind hx (fun a b => Coupled.of_pure fun _ _ q => q) fun fault => ?_
  exact Coupled.of_throw fun _ _ e => e

/-- A table that has been removed executes nothing. -/
theorem Coupled.executeNamed (hR : Quiet R) (t : Nat) (hQ : ∀ a b, Quiet (Q a b))
    (hx : Coupled R x y Q R) : Coupled R (executeNamed t x) (executeNamed t y) Q R := by
  refine Coupled.get_bind' fun h g r => ?_
  rw [table_agree (hR.agree r)]
  refine Steady.bind_coupled (Steady.of_ofExcept _) (fun _ _ r => r) fun _ => ?_
  exact coupled_inLink hR _ hQ hR hx

end Action

namespace LinkLogic

open LinkedTables.Action

variable {e e' : Executor} {t : Nat} {R : Phase → Host → Host → Prop} (L : LinkLogic e e' t R)
include L

/-! ### Statements -/

theorem executeFrom (sql : String) (params : List Value) (client : Option Nat) (s left : Nat) :
    Coupled (R .settled) (e.executeFrom t sql params client s left)
      (e'.executeFrom t sql params client s left)
      (fun st st' h g => ∃ r, R (.busy sql r st st') h g) (R .settled) := by
  have hs := L.quiet .settled
  induction left generalizing s with
  | zero =>
    refine Coupled.bind (L.attempt s sql params client) fun r r' => Coupled.of_ends ?_ ?_
    · rintro st st' rfl rfl
      exact Coupled.of_pure fun _ _ q => q
    · rintro fault rfl rfl
      exact Coupled.of_throw fun _ _ r => r
  | succ left ih =>
    refine Coupled.bind (L.attempt s sql params client) fun r r' => Coupled.of_ends ?_ ?_
    · rintro st st' rfl rfl
      exact Coupled.of_pure fun _ _ q => q
    · rintro fault rfl rfl
      refine Coupled.get_bind' fun h g r => ?_
      rw [table_agree (hs.agree r)]
      refine Smooth.bind_coupled (smooth_report hs _) fun _ => ?_
      exact Leads.bind (L.reconnect (some s)) fun s' => ih s'

theorem execute (sql : String) (params : List Value) (client : Option Nat) :
    Coupled (R .settled) (e.execute t sql params client) (e'.execute t sql params client)
      (fun st st' h g => ∃ r, R (.busy sql r st st') h g) (R .settled) :=
  Steady.bind_coupled (steady_requireSession (L.quiet _) t) (fun _ _ r => r) fun s =>
    L.executeFrom sql params client s maxRetry

/-- What follows an execution, whatever result was opened. -/
theorem execute_bind {β γ : Type} {sql : String} {params : List Value} {client : Option Nat}
    {f : Nat → Action β} {f' : Nat → Action γ} {S : β → γ → Host → Host → Prop}
    (hf : ∀ r st st', Coupled (R (.busy sql r st st')) (f st) (f' st') S (R .settled)) :
    Coupled (R .settled) (e.execute t sql params client >>= f)
      (e'.execute t sql params client >>= f') S (R .settled) :=
  Coupled.bind (L.execute sql params client) fun st st' _ _ ⟨r, q⟩ => hf r st st' q

theorem run (sql : String) (params : List Value) (client : Option Nat) :
    Alike (R .settled) (e.run t sql params client) (e'.run t sql params client) :=
  L.execute_bind fun r st st' =>
    (L.handBack sql r st st').mono (fun _ _ => L.spend) (fun _ _ _ _ r => ⟨rfl, r⟩) fun _ _ r => r

theorem reading {α : Type} {sql : String} {params : List Value} {client : Option Nat}
    {read : Nat → Action α}
    (hread : ∀ r st st', Alike (R (.busy sql r st st')) (read st) (read st')) :
    Alike (R .settled) (e.reading t sql params client read)
      (e'.reading t sql params client read) := by
  refine L.execute_bind fun r st st' => ?_
  have read := Leads.behind (hread r st st') (fun _ _ _ => L.spend) fun _ _ => L.spend
  refine Leads.outcome_bind read (fun a => ?_) fun fault => ?_
  · exact Coupled.bind (L.handBack sql r st st') fun _ _ => Leads.of_pure a fun _ _ r => r
  · exact Coupled.bind (L.close sql r st st') fun _ _ => Coupled.of_throw fun _ _ r => r

/-! ### Reading results -/

theorem readRows (sql : String) (r st st' : Nat) :
    Alike (R (.busy sql r st st')) (readRows st) (readRows st') := by
  have hb := L.quiet (.busy sql r st st')
  refine Coupled.get_bind' fun h g q => ?_
  rw [L.result q]
  split
  · exact steady_fetchAll hb _
  · exact Steady.of_pure []

theorem readSingle (sql : String) (r st st' : Nat) :
    Alike (R (.busy sql r st st')) (readSingle st) (readSingle st') := by
  have hb := L.quiet (.busy sql r st st')
  refine Coupled.get_bind' fun h g q => ?_
  rw [L.result q]
  split
  · exact Steady.of_throw _
  next r' _ =>
    refine Steady.bind (steady_fetch hb r') fun row => ?_
    cases row with
    | none => exact Steady.of_throw _
    | some row =>
      refine Steady.bind (steady_fetch hb r') fun more => ?_
      cases more with
      | some _ => exact Steady.of_throw _
      | none =>
        cases row with
        | nil => exact Steady.of_throw _
        | cons v _ => exact Steady.of_pure v

/-! ### Rows -/

theorem runRows (client : Option Nat) (statement : Except Fault Sql.RowStatement) :
    Alike (R .settled) (e.runRows t client statement) (e'.runRows t client statement) := by
  have hs := L.quiet .settled
  refine Leads.bind (Steady.of_ofExcept statement) fun statement => ?_
  refine Coupled.get_bind' fun h g r => ?_
  rw [table_agree (hs.agree r), quoteFor_agree (hs.agree r)]
  exact Coupled.executeNamed hs t (fun _ _ => hs.and_left _) (L.run _ _ _)

theorem addRow (client : Option Nat) (row : List Value) :
    Alike (R .settled) (e.addRow t client row) (e'.addRow t client row) := by
  refine Leads.bind (steady_checkChange (L.quiet _) t) fun _ => ?_
  refine Coupled.get_bind' fun h g r => ?_
  rw [table_agree ((L.quiet _).agree r)]
  exact L.runRows client _

theorem removeRow (client : Option Nat) (row : List Value) :
    Alike (R .settled) (e.removeRow t client row) (e'.removeRow t client row) := by
  refine Leads.bind (steady_checkChange (L.quiet _) t) fun _ => ?_
  refine Coupled.get_bind' fun h g r => ?_
  rw [table_agree ((L.quiet _).agree r)]
  exact L.runRows client _

theorem updateRow (client : Option Nat) (old new : List Value) :
    Alike (R .settled) (e.updateRow t client old new) (e'.updateRow t client old new) := by
  refine Coupled.get_bind' fun h g r => ?_
  rw [table_agree ((L.quiet _).agree r)]
  exact L.runRows client _

/-- A change of a row is recorded under the name of the table. -/
theorem recordLabelled (client : Nat) (change : Change) (row : List Value) :
    Steady (R .settled) (do recordChange client ⟨((← get).table t).label, change, row⟩) :=
  Steady.get_bind (fun h g r => by rw [table_agree ((L.quiet _).agree r)]) fun _ =>
    steady_recordChange (L.quiet _) client _

theorem emitUpdates (client : Nat) (pairs : List (List Value × List Value)) :
    Alike (R .settled) (e.emitUpdates t client pairs) (e'.emitUpdates t client pairs) := by
  have hs := L.quiet .settled
  refine Alike.of_forM pairs fun (old, new) => ?_
  refine Leads.bind (steady_checkCancelled hs) fun _ => ?_
  refine Leads.bind (L.updateRow (some client) old new) fun _ => ?_
  refine Coupled.get_bind' fun h g r => ?_
  rw [table_agree (hs.agree r)]
  exact Leads.bind (steady_recordChange hs client _) fun _ => steady_recordChange hs client _

theorem replace (client : Nat) (pairs : List (List Value × List Value)) :
    Alike (R .settled) ((e.rowStore t client).replace pairs)
      ((e'.rowStore t client).replace pairs) := by
  have hs := L.quiet .settled
  refine Leads.bind (Alike.of_forM pairs fun (old, _) => ?_) fun _ =>
    Alike.of_forM pairs fun (_, new) => ?_
  · refine Leads.bind (steady_checkCancelled hs) fun _ => ?_
    exact Leads.bind (L.removeRow (some client) old) fun _ => L.recordLabelled client .delete old
  · refine Leads.bind (steady_checkCancelled hs) fun _ => ?_
    exact Leads.bind (L.addRow (some client) new) fun _ => L.recordLabelled client .insert new

theorem updateRows (client : Nat) (pairs : List (List Value × List Value)) :
    Alike (R .settled) (e.updateRows t client pairs) (e'.updateRows t client pairs) := by
  have hs := L.quiet .settled
  refine Leads.bind (steady_checkChange hs t) fun _ => ?_
  refine Coupled.get_bind' fun h g r => ?_
  rw [table_agree (hs.agree r)]
  refine coupled_inLink hs _ (fun _ _ => hs.and_left _) hs ?_
  split
  · exact L.emitUpdates client pairs
  · exact L.replace client pairs

theorem rowCount (client : Option Nat) :
    Alike (R .settled) (e.rowCount t client) (e'.rowCount t client) := by
  have hs := L.quiet .settled
  refine Coupled.get_bind' fun h g r => ?_
  rw [table_agree (hs.agree r)]
  refine Coupled.executeNamed hs t (fun _ _ => hs.and_left _) (Coupled.wrapping _ ?_)
  refine L.reading fun r st st' => ?_
  exact Leads.bind (L.readSingle _ r st st') fun v => Steady.of_ofExcept _

/-! ### Queries -/

theorem query (client : Option Nat) (sql : String) (params : List Value)
    (failure : Option Fault) :
    Alike (R .settled) (e.query t client sql params failure)
      (e'.query t client sql params failure) := by
  refine L.reading fun r st st' => ?_
  cases failure with
  | some fault => exact Steady.of_throw fault
  | none => exact L.readRows sql r st st'

/-- A statement that is executed and handed back at once. -/
theorem executeAway (client : Option Nat) (sql : String) (params : List Value) :
    Alike (R .settled) (e.executeFor t client sql params false)
      (e'.executeFor t client sql params false) := by
  have hs := L.quiet .settled
  refine Coupled.executeNamed hs t (fun _ _ => hs.and_left _) ?_
  exact Leads.bind (L.run sql params client) fun _ => Steady.of_pure none

/-- A statement that is executed and kept. -/
theorem executeKept (client : Option Nat) (sql : String) (params : List Value) :
    Coupled (R .settled) (e.executeFor t client sql params true)
      (e'.executeFor t client sql params true)
      (fun kept kept' h g => ∃ r st st', kept = some st ∧ kept' = some st' ∧
        R (.busy sql r st st') h g)
      (R .settled) := by
  refine Coupled.executeNamed (L.quiet _) t (fun kept kept' => ?_) (L.execute_bind fun r st st' =>
    Coupled.of_pure fun _ _ q => ⟨r, st, st', rfl, rfl, q⟩)
  exact Quiet.of_exists fun r => Quiet.of_exists fun st => Quiet.of_exists fun st' =>
    ((L.quiet _).and_left _).and_left _

end LinkLogic

end LinkedTables
