import LinkedTables.Proofs.WorkInTableName

/-!
# The names in the log

Whatever is logged during an operation bears one signature (`Host.perform_signs`): the name of the
table that is created, the name of the table in whose name the operation works, and for everything
else the name that was there before. The reading of rows is among everything else: a query that runs
when its first row is asked for is executed and tried again in nobody's name. The name that was
there before is there again behind every operation, so that behind a run nobody's is
(`signed_of_run`).
-/

namespace LinkedTables

/-- What has been logged was logged in the name of the table `t`. -/
structure Named (t : Nat) (h h' : Host) : Prop where
  link : h'.link = h.link
  log : ∃ new, h'.log = new ++ h.log ∧ ∀ e ∈ new, e.link = some (h.table t).name
  names : ∀ u, (h'.table u).name = (h.table u).name

theorem named (t : Nat) : Frame (Named t) where
  refl _ := ⟨rfl, ⟨[], rfl, nofun⟩, fun _ => rfl⟩
  trans := by
    rintro h h' h'' ⟨link, ⟨new, log, own⟩, names⟩ ⟨link', ⟨new', log', own'⟩, names'⟩
    refine ⟨link'.trans link, ⟨new' ++ new, ?_, fun e among => ?_⟩,
      fun u => (names' u).trans (names u)⟩
    · rw [log', log, List.append_assoc]
    · rw [names t] at own'
      exact (List.mem_append.mp among).elim (own' e) (own e)

/-- What is done in the name of the table `t` is logged in it. -/
def SignsAs (t : Nat) (h h' : Host) : Prop := h.link = some (h.table t).name → Signed h h'

theorem signsAs (t : Nat) : Frame (SignsAs t) where
  refl h _ := signed.refl h
  trans := by
    intro h h' h'' a b own
    have first := a own
    exact signed.trans first (b (by rw [first.link, own, first.names]))

/-! ### Executions -/

namespace Action

open Keeps

variable {α : Type}

theorem signed_of_chore {x : Action α} (hx : Keeps Chore x) : Keeps Signed x :=
  hx.mono fun _ _ c => c.toSigned

theorem signed_prepare (s : Nat) (sql : String) (fetchSize : Int) :
    Keeps Signed (prepare s sql fetchSize) :=
  get_bind fun _ => bind signed (of_modify fun _ => .of_same rfl rfl rfl) fun _ => of_pure signed _

theorem signed_executeStatement (st : Nat) (params : List Value) :
    Keeps Signed (executeStatement st params) := by
  have received (connection : Nat) :=
    (errand_receive st connection).mono fun _ _ e => e.toSigned
  refine bind signed (signed_of_chore (chore_closeResult st)) fun _ => get_bind fun h => ?_
  dsimp only
  refine bind signed (of_modify fun _ => .of_same rfl rfl rfl) fun _ => ?_
  exact of_ite (bind signed (of_throw signed _) fun _ => received _) (received _)

theorem signed_attemptExecute (u s : Nat) (sql : String) (params : List Value)
    (client : Option Nat) : Keeps Signed (attemptExecute u s sql params client) := by
  refine bind signed (of_mapM signed params fun v => signed_of_chore (chore_convertFor client v))
    fun values => get_bind fun h => ?_
  refine bind signed (signed_of_chore (chore_takeStatement s sql)) fun found => ?_
  have executed (st : Nat) : Keeps Signed (do
      report ⟨.debug, Sql.trace (h.table u).name sql params⟩
      settle st values) := by
    refine bind signed (signed_of_chore (chore_report _)) fun _ => ?_
    refine outcome_bind signed (signed_executeStatement st values) fun r => ?_
    cases r with
    | ok _ => exact of_pure signed _
    | error fault =>
      exact of_ite (bind signed (signed_of_chore (chore_closeStatement st)) fun _ =>
        of_pure signed _) (of_throw signed fault)
  cases found with
  | some st => exact executed st
  | none => exact bind signed (signed_prepare s sql _) executed

theorem signed_executeFrom (u : Nat) (sql : String) (params : List Value) (client : Option Nat)
    (s left : Nat) : Keeps Signed (executeFrom u sql params client s left) := by
  induction left generalizing s with
  | zero =>
    refine bind signed (signed_attemptExecute u s sql params client) fun r => ?_
    cases r with
    | ok st => exact of_pure signed st
    | error fault => exact of_throw signed _
  | succ left ih =>
    refine bind signed (signed_attemptExecute u s sql params client) fun r => ?_
    cases r with
    | ok st => exact of_pure signed st
    | error fault =>
      refine get_bind fun h => bind signed (signed_of_chore (chore_report _)) fun _ => ?_
      exact bind signed (signed_of_chore (chore_reconnect u _)) ih

theorem signed_execute (u : Nat) (sql : String) (params : List Value) (client : Option Nat) :
    Keeps Signed (execute u sql params client) :=
  bind signed (get_bind fun _ => of_ofExcept signed _) fun s =>
    signed_executeFrom u sql params client s maxRetry

theorem signed_handBack (u st : Nat) (sql : String) : Keeps Signed (handBack u st sql) :=
  (minor_handBack u st sql).mono fun _ _ m => m.toSigned

theorem signed_run (u : Nat) (sql : String) (params : List Value) (client : Option Nat) :
    Keeps Signed (run u sql params client) :=
  bind signed (signed_execute u sql params client) fun st => signed_handBack u st sql

theorem signed_reading (u : Nat) (sql : String) (params : List Value) (client : Option Nat)
    {read : Nat → Action α} (hr : ∀ st, Keeps Signed (read st)) :
    Keeps Signed (reading u sql params client read) := by
  refine bind signed (signed_execute u sql params client) fun st => ?_
  refine outcome_bind signed (hr st) fun r => ?_
  cases r with
  | ok a => exact bind signed (signed_handBack u st sql) fun _ => of_pure signed a
  | error fault =>
    exact bind signed (signed_of_chore (chore_closeStatement st)) fun _ => of_throw signed fault

/-! ### Reading rows -/

theorem signed_query (u : Nat) (client : Option Nat) (sql : String) (params : List Value)
    (failure : Option Fault) : Keeps Signed (query u client sql params failure) := by
  refine signed_reading u sql params client fun st => ?_
  cases failure with
  | some fault => exact of_throw signed fault
  | none => exact (errand_readRows st).mono fun _ _ e => e.toSigned

theorem signed_reviseCursor (c : Nat) (f : Cursor → Cursor) : Keeps Signed (reviseCursor c f) :=
  of_modify fun _ => .of_same rfl rfl rfl

theorem signed_readNext (c : Nat) (cursor : Cursor) (st r : Nat) :
    Keeps Signed (readNext c cursor st r) := by
  refine outcome_bind signed (signed_of_chore (chore_fetch r)) fun found => ?_
  rcases found with fault | _ | row
  · exact bind signed (signed_reviseCursor c _) fun _ => bind signed
      (signed_of_chore (chore_closeStatement st)) fun _ => of_throw signed fault
  · exact bind signed (signed_reviseCursor c _) fun _ => bind signed
      (signed_handBack _ st _) fun _ => of_pure signed none
  · exact of_pure signed _

/-- The next row of a cursor is read in the name that is there, whatever table it is of. -/
theorem signed_next (c : Nat) : Keeps Signed (next c) := by
  refine get_bind fun h => ?_
  dsimp only
  split
  · exact of_pure signed none
  · exact signed_readNext c _ _ _
  · refine outcome_bind signed (signed_execute _ _ _ _) fun r => ?_
    cases r with
    | error fault => exact bind signed (signed_reviseCursor c _) fun _ => of_throw signed fault
    | ok st =>
      refine get_bind fun h' => ?_
      split
      · exact bind signed (signed_reviseCursor c _) fun _ => of_pure signed none
      · exact bind signed (signed_reviseCursor c _) fun _ => signed_readNext c _ st _

theorem signed_drainFrom (c fuel : Nat) : Keeps Signed (drainFrom c fuel) := by
  induction fuel with
  | zero => exact of_pure signed []
  | succ fuel ih =>
    refine bind signed (signed_next c) fun row => ?_
    cases row with
    | none => exact of_pure signed []
    | some row => exact bind signed ih fun _ => of_pure signed _

theorem signed_drain (c : Nat) : Keeps Signed (drain c) := by
  refine bind signed (signed_next c) fun row => ?_
  cases row with
  | none => exact of_pure signed []
  | some row => exact get_bind fun _ => bind signed (signed_drainFrom c _) fun _ => of_pure signed _

end Action

/-! ### Operations -/

/-- What is done in the name of a table is signed with it, and all that is seen of it. -/
theorem signing_voice (t : Nat) : Voice t (SignsAs t) (Named t) where
  inner := signsAs t
  outer := named t
  enter n own := ⟨n.link, by rw [own]; exact n.log, n.names⟩
  errand e _ := e.toSigned
  command _ _ := ⟨rfl, ⟨[], rfl, nofun⟩, fun _ => rfl⟩
  aloud signs :=
    have s := signs rfl
    ⟨rfl, s.log, s.names⟩
  execute sql params client h _ := Action.signed_execute t sql params client h
  run sql params client h _ := Action.signed_run t sql params client h
  reading sql params client hr h _ :=
    Action.signed_reading t sql params client (fun st => (hr st).mono fun _ _ e => e.toSigned) h

/-- The name that the notices of an operation bear. -/
def Operation.signature (h : Host) : Operation → Option String
  | createTable table => some table.name
  | addRow t .. | removeRow t .. | updateRows t .. | rowCount t .. | execute t .. =>
    some (h.table t).name
  | _ => h.link

/-- The link is as it was, and what has been logged bears a name. -/
def Host.Signs (h : Host) (name : Option String) (h' : Host) : Prop :=
  h'.link = h.link ∧ ∃ new, h'.log = new ++ h.log ∧ ∀ e ∈ new, e.link = name

namespace Host

open LinkedTables.Action in
/-- A table is created in its name. -/
theorem createTable_signs (h : Host) (table : LinkedTable) :
    h.Signs (some table.name) (h.act (createTable table)).2 := by
  have connected := signed_of_chore (chore_connectNew h.tables.next) (h.joining table)
  have made : h.Signs (some table.name) ((h.withTable table).act (do
      inLink table.name (connectNew h.tables.next)
      return h.tables.next)).2 := by
    rw [snd_act_map _ _ fun _ => h.tables.next, act_inLink]
    exact ⟨rfl, connected.log⟩
  exact made

open LinkedTables.Action in
/-- Behind every operation the link is as it was, and all that has been logged bears the name of the
operation. -/
theorem perform_signs (h : Host) (o : Operation) : h.Signs (o.signature h) (h.perform o).2 := by
  have reply {α : Type} {x : Action α} (f : α → Reply) (hx : Keeps Signed x) :
      h.Signs h.link (h.act (do return f (← x))).2 := by
    rw [snd_act_map]
    exact ⟨(hx h).link, (hx h).log⟩
  have voiced {t : Nat} (name : o.signature h = some (h.table t).name) (voices : o.Voices t) :
      h.Signs (o.signature h) (h.perform o).2 := by
    have named := (signing_voice t).perform voices h
    exact ⟨named.link, name ▸ named.log⟩
  by_cases speaks : o.Speaks
  · cases o with
    | createTable table =>
      show h.Signs _ (h.act (do return Reply.table (← createTable table))).2
      rw [snd_act_map]
      exact h.createTable_signs table
    | addRow t | removeRow t | updateRows t | rowCount t | execute t => exact voiced rfl rfl
    | next c => exact reply .row (signed_next c)
    | drain c => exact reply .rows (signed_drain c)
    | query t client sql params failure =>
      exact reply .rows (signed_query t client sql params failure)
    | prepare s sql fetchSize =>
      exact reply (fun st => .statement (some st)) (signed_prepare s sql fetchSize)
    | executeStatement st params => exact reply .result (signed_executeStatement st params)
    | _ => exact speaks.elim
  · have signed := minor_perform speaks h
    cases o with
    | createTable | addRow | removeRow | updateRows | rowCount | execute =>
      exact (speaks trivial).elim
    | _ => exact ⟨signed.link, signed.log⟩

/-- Behind a run of operations work is done in the name in which it was done before. -/
theorem link_after (h : Host) (run : List Operation) : (h.after run).link = h.link := by
  induction run generalizing h with
  | nil => rfl
  | cons o run ih => exact (ih _).trans (h.perform_signs o).1

end Host

open Host in
/-- Behind every run of operations, on any pool and whatever the remote side answers, work is done
in nobody's name. Whatever the next operation is, and whether it fails or not, it is so again behind
it, and all that is logged during it bears its signature: the name of the table where one is
created, where rows are changed or counted and where a statement is executed, whatever retries,
reconnects and handshakes that takes; where the rows of a query are read it is nobody's. -/
theorem signed_of_run (script : Remote.Script) (pool : Pool) (level : Level) (run : List Operation)
    (o : Operation) :
    let h := (start script pool level).after run
    h.link = none ∧ (h.perform o).2.link = none ∧
      ∃ new, (h.perform o).2.log = new ++ h.log ∧ ∀ e ∈ new, e.link = o.signature h := by
  intro h
  have nobody : h.link = none := link_after (start script pool level) run
  obtain ⟨link, logged⟩ := h.perform_signs o
  exact ⟨nobody, link.trans nobody, logged⟩

open Host in
/-- The rows of a table are scanned over a connection that is gone: the warning that the table
connects anew names no table. -/
theorem unsigned_of_scan :
    let gone := Action.closedResource "gone"
    let begin := start { Remote.Script.quiet with answers := [.error gone] } (.bare false) .warning
    let h := begin.after [.createTable (.bare "LT"), .openScan 0 none]
    (h.table 0).name = "LT" ∧ (Operation.drain 0).subject h = some 0 ∧
      ∃ new, (h.perform (.drain 0)).2.log = new ++ h.log ∧ ∃ e ∈ new, e.link ≠ some "LT" := by
  intro gone begin h
  refine ⟨by decide +kernel, by decide +kernel,
    [⟨Action.failedNotice "LT" gone, none⟩], by decide +kernel, _, List.mem_singleton_self _, nofun⟩

end LinkedTables
