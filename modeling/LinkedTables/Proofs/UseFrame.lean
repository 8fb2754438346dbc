import LinkedTables.Proofs.LinkWork
import LinkedTables.Proofs.OperationLogic

/-!
# The use of tables

Tables are used by statements that are executed for them, and each use ends with a statement that
is handed back or closed. A relation of hosts for which only the tables, the outcomes to come and
the rows to come matter is a `UseFrame` if it is kept when an answer is taken. It is kept by every
operation on a table that is linked already (`Upkeep.perform`), if it is kept by what is executed
for tables and by changes of their settings (`Upkeep`). What is executed connects the table again
where it has to, so that a `LinkFrame` for the table is one way to the former
(`UseFrame.execute`).
-/

namespace LinkedTables

/-- Nothing has happened to the tables, and of what was to come only the last is left. -/
structure Idle (h h' : Host) : Prop where
  tables : h'.tables = h.tables
  script : h.script.Later h'.script
  answered : h'.results.next = h.results.next
  rows : ∀ r, (h'.result r).rows <:+ (h.result r).rows

theorem Idle.of_same {h h' : Host} (tables : h'.tables = h.tables) (script : h'.script = h.script)
    (results : h'.results = h.results) : Idle h h' := by
  refine ⟨tables, script ▸ .refl _, congrArg Roster.next results, fun r => ?_⟩
  rw [Host.result, results]
  exact List.suffix_rfl

theorem Still.idle {h h' : Host} (s : Still h h') : Idle h h' :=
  ⟨s.tables, s.script ▸ .refl _, s.answered, s.rows⟩

/-- A table but for its settings and what its columns put in for a default. -/
def LinkedTable.unset (table : LinkedTable) : LinkedTable :=
  { table with readOnly := false, globalTemporary := false, fetchSize := 0, fillings := [] }

/-- A relation that statements keep while they are in use: what was sent stays sent. -/
structure UseFrame (ρ : Host → Host → Prop) : Prop extends Frame ρ where
  idle : ∀ {h h'}, Idle h h' → h.sent <:+ h'.sent → ρ h h'
  /-- A statement is answered, and the rows of the answer are to come. -/
  answer : ∀ {h answer script connection}, h.script.execute = (.ok answer, script) →
    ρ h { h with script, results := h.results.join ⟨connection, answer.rows, false⟩ }

/-- A relation that the use of tables keeps. -/
structure Upkeep (ρ : Host → Host → Prop) : Prop extends UseFrame ρ where
  execute : ∀ u sql params client, Action.Keeps ρ (Action.execute u sql params client)
  settings : ∀ {h u f}, (f (h.table u)).unset = (h.table u).unset →
    ρ h { h with tables := h.tables.revise u f }

/-! ### Statements -/

namespace UseFrame

open LinkedTables.Action Keeps

variable {ρ : Host → Host → Prop} (F : UseFrame ρ) {α : Type}
include F

theorem toSessionFrame : SessionFrame ρ where
  toFrame := F.toFrame
  calm c := F.idle c.idle (c.sent ▸ List.suffix_rfl)
  script later := F.idle ⟨rfl, later, rfl, fun _ => List.suffix_rfl⟩ List.suffix_rfl
  session _ := F.idle (.of_same rfl rfl rfl) List.suffix_rfl
  opened _ := F.idle (.of_same rfl rfl rfl) List.suffix_rfl

theorem of_calm {x : Action α} (hx : Keeps Calm x) : Keeps ρ x := F.toSessionFrame.of_calm hx

/-- A change that leaves the tables, the journal and what is to come alone. -/
theorem of_others {f : Host → Host} (tables : ∀ h, (f h).tables = h.tables)
    (script : ∀ h, (f h).script = h.script) (results : ∀ h, (f h).results = h.results)
    (journal : ∀ h, (f h).journal = h.journal) : Keeps ρ (modify f) :=
  of_modify fun h => by
    have sent : (f h).sent = h.sent := congrArg (List.filterMap Event.sent?) (journal h)
    exact F.idle (.of_same (tables h) (script h) (results h)) (sent ▸ List.suffix_rfl)

theorem of_note (event : Event) : Keeps ρ (note event) :=
  of_modify fun h => F.idle (.of_same rfl rfl rfl)
    ((List.suffix_cons event h.journal).filterMap Event.sent?)

theorem of_inLink {x : Action α} (name : String) (hx : Keeps ρ x) : Keeps ρ (inLink name x) :=
  Keeps.of_inLink F.toFrame (fun _ _ => F.idle (.of_same rfl rfl rfl) List.suffix_rfl) name hx

theorem putStatement (s : Nat) (sql : String) (st : Nat) : Keeps ρ (putStatement s sql st) := by
  refine get_bind fun h => ?_
  dsimp only
  refine of_ite (F.of_calm (calm_closeStatement st)) ?_
  refine bind F.toFrame (F.of_others (fun _ => rfl) (fun _ => rfl) (fun _ => rfl) fun _ => rfl)
    fun _ => ?_
  split
  · exact of_ite (F.of_calm (calm_closeStatement _)) (of_pure F.toFrame ())
  · exact of_pure F.toFrame ()

theorem handBack (u st : Nat) (sql : String) : Keeps ρ (handBack u st sql) := by
  refine get_bind fun h => ?_
  split
  · exact F.of_calm (calm_closeStatement st)
  · exact of_ite (F.of_calm (calm_closeStatement st))
      (bind F.toFrame (F.of_calm (calm_closeResult st)) fun _ => F.putStatement _ sql st)

theorem executeStatement (st : Nat) (params : List Value) :
    Keeps ρ (executeStatement st params) := by
  refine bind F.toFrame (F.of_calm (calm_closeResult st)) fun _ => get_bind fun h => ?_
  dsimp only
  refine bind F.toFrame (F.of_note _) fun _ => ?_
  have answered : Keeps ρ (do
      let answer ← Action.ofExcept (← fromScript Remote.Script.execute)
      let r := (← get).results.next
      modify fun h' =>
        { h' with
          cancelled := h'.cancelled || answer.cancels
          results := h'.results.join
            ⟨(h.session (h.statement st).session).connection, answer.rows, false⟩ }
      reviseStatement st fun statement => { statement with result := some r }
      return r) := by
    intro g
    -- The answer and the host behind it are told together: the rows to come are the answer's.
    have later := F.toSessionFrame.script (Remote.Script.later_execute g.script)
    refine Reaches.fromScript_bind (Q := fun _ h' => ρ g h') ?_
    generalize found : g.script.execute = p at later ⊢
    obtain ⟨fault | answer, script⟩ := p
    · exact later
    · exact F.trans (F.answer found) (F.idle (.of_same rfl rfl rfl) List.suffix_rfl)
  exact of_ite (bind F.toFrame (of_throw F.toFrame _) fun _ => answered) answered

theorem settle (st : Nat) (values : List Value) : Keeps ρ (settle st values) := by
  refine outcome_bind F.toFrame (F.executeStatement st values) fun r => ?_
  cases r with
  | ok _ => exact of_pure F.toFrame _
  | error fault =>
    exact of_ite (bind F.toFrame (F.of_calm (calm_closeStatement st)) fun _ =>
      of_pure F.toFrame _) (of_throw F.toFrame fault)

theorem attemptExecute (u s : Nat) (sql : String) (params : List Value) (client : Option Nat) :
    Keeps ρ (attemptExecute u s sql params client) := by
  refine bind F.toFrame (of_mapM F.toFrame params fun v => F.of_calm (calm_convertFor client v))
    fun values => get_bind fun h => ?_
  refine bind F.toFrame (F.of_calm (calm_takeStatement s sql)) fun found => ?_
  have executed (st : Nat) : Keeps ρ (do
      report ⟨.debug, Sql.trace (h.table u).name sql params⟩
      Action.settle st values) :=
    bind F.toFrame (F.of_calm (calm_report _)) fun _ => F.settle st values
  cases found with
  | some st => exact executed st
  | none => exact bind F.toFrame (F.of_calm (calm_prepare s sql _)) executed

theorem executeFrom {u : Nat} (hr : ∀ failed, Keeps ρ (reconnect u failed)) (sql : String)
    (params : List Value) (client : Option Nat) (s left : Nat) :
    Keeps ρ (executeFrom u sql params client s left) := by
  induction left generalizing s with
  | zero =>
    refine bind F.toFrame (F.attemptExecute u s sql params client) fun r => ?_
    cases r with
    | ok st => exact of_pure F.toFrame st
    | error fault => exact of_throw F.toFrame _
  | succ left ih =>
    refine bind F.toFrame (F.attemptExecute u s sql params client) fun r => ?_
    cases r with
    | ok st => exact of_pure F.toFrame st
    | error fault =>
      refine get_bind fun h => bind F.toFrame (F.of_calm (calm_report _)) fun _ => ?_
      exact bind F.toFrame (hr _) ih

/-- What is executed for a table keeps what connecting it keeps. -/
theorem execute {u : Nat} (L : LinkFrame u ρ) (sql : String) (params : List Value)
    (client : Option Nat) : Keeps ρ (execute u sql params client) :=
  bind F.toFrame (F.of_calm (calm_requireSession u)) fun s =>
    F.executeFrom L.reconnect sql params client s maxRetry

end UseFrame

/-! ### Making and removing tables -/

namespace UseFrame

open LinkedTables.Action Keeps

variable {ρ : Host → Host → Prop} (F : UseFrame ρ) {u : Nat}
include F

theorem connectNew (connected : Keeps ρ (connect u))
    (forced : Keeps ρ (reviseTable u withoutColumns)) :
    Keeps ρ (connectNew u) := by
  refine outcome_bind F.toFrame connected fun r => ?_
  split
  · exact of_pure F.toFrame ()
  · refine get_bind fun h => of_ite ?_ (of_throw F.toFrame _)
    exact bind F.toFrame (F.of_calm (calm_report _)) fun _ => forced
  · exact of_throw F.toFrame _

theorem createTable {h : Host} {table : LinkedTable} (joined : ρ h (h.withTable table))
    (connected : Keeps ρ (Action.connectNew h.tables.next)) :
    ρ h (h.act (createTable table)).2 := by
  have made : Keeps ρ (do
      inLink table.name (Action.connectNew h.tables.next)
      return h.tables.next) :=
    bind F.toFrame (F.of_inLink _ connected) fun _ => of_pure F.toFrame _
  exact F.trans joined (made (h.withTable table))

theorem removeTable (closed : Keeps ρ (closeLink u))
    (removed : Keeps ρ (reviseTable u fun table => { table with indexes := [], valid := false })) :
    Keeps ρ (removeTable u) :=
  bind F.toFrame closed fun _ => bind F.toFrame removed fun _ => get_bind fun _ =>
    F.of_calm (calm_report _)

/-- A table is dropped in the name under which it is registered. -/
theorem dropTable {h : Host} {schema name : String}
    (removed : ∀ variant, h.registry.value? (schema, name) = some variant →
      Keeps ρ (Action.removeTable variant.table)) :
    ρ h (h.act (dropTable schema name)).2 := by
  rw [Action.dropTable, Host.act_get_bind, Registry.remove]
  cases found : h.registry.value? (schema, name) with
  | none => exact F.refl h
  | some variant =>
    have dropped : Keeps ρ (do
        modify fun h' => { h' with registry := h.registry.drop (schema, name) }
        Action.removeTable variant.table
        report (Registry.notice "Dropped" schema variant)) := by
      refine bind F.toFrame (F.of_others (fun _ => rfl) (fun _ => rfl) (fun _ => rfl) fun _ => rfl)
        fun _ => ?_
      exact bind F.toFrame (removed variant found) fun _ => F.of_calm (calm_report _)
    exact dropped h

end UseFrame

/-! ### Operations -/

namespace Action

open Keeps

theorem calm_checkChange (u : Nat) : Keeps Calm (checkChange u) :=
  get_bind fun _ => bind calm (of_ofExcept calm _) fun _ => of_ofExcept calm _

theorem calm_checkCancelled : Keeps Calm checkCancelled := get_bind fun _ => of_ofExcept calm _

theorem calm_closeCursor (c : Nat) : Keeps Calm (closeCursor c) := by
  refine get_bind fun h => bind calm (calm_reviseCursor c _) fun _ => ?_
  split
  · exact calm_closeStatement _
  · exact of_pure calm ()

end Action

namespace Upkeep

open LinkedTables.Action Keeps

variable {ρ : Host → Host → Prop} (F : Upkeep ρ) {α : Type}
include F

theorem run (u : Nat) (sql : String) (params : List Value) (client : Option Nat) :
    Keeps ρ (run u sql params client) :=
  bind F.toFrame (F.execute u sql params client) fun st => F.handBack u st sql

theorem reading (u : Nat) (sql : String) (params : List Value) (client : Option Nat)
    {read : Nat → Action α} (hr : ∀ st, Keeps ρ (read st)) :
    Keeps ρ (reading u sql params client read) := by
  refine bind F.toFrame (F.execute u sql params client) fun st => ?_
  refine outcome_bind F.toFrame (hr st) fun r => ?_
  cases r with
  | ok a => exact bind F.toFrame (F.handBack u st sql) fun _ => of_pure F.toFrame a
  | error fault =>
    exact bind F.toFrame (F.of_calm (calm_closeStatement st)) fun _ => of_throw F.toFrame fault

theorem executeNamed (u : Nat) {work : Action α} (hw : Keeps ρ work) :
    Keeps ρ (executeNamed u work) :=
  get_bind fun _ => bind F.toFrame (of_ofExcept F.toFrame _) fun _ => F.of_inLink _ hw

/-! #### Rows -/

theorem runRows (u : Nat) (client : Option Nat) (statement : Except Fault Sql.RowStatement) :
    Keeps ρ (runRows u client statement) :=
  bind F.toFrame (of_ofExcept F.toFrame _) fun _ => get_bind fun _ =>
    F.executeNamed u (F.run u _ _ client)

theorem addRow (u : Nat) (client : Option Nat) (row : List Value) :
    Keeps ρ (addRow u client row) :=
  bind F.toFrame (F.of_calm (calm_checkChange u)) fun _ => get_bind fun _ => F.runRows u client _

theorem removeRow (u : Nat) (client : Option Nat) (row : List Value) :
    Keeps ρ (removeRow u client row) :=
  bind F.toFrame (F.of_calm (calm_checkChange u)) fun _ => get_bind fun _ => F.runRows u client _

theorem recordChange (client : Nat) (record : UndoRecord) : Keeps ρ (recordChange client record) :=
  F.of_others (fun _ => rfl) (fun _ => rfl) (fun _ => rfl) fun _ => rfl

theorem updateRows (u client : Nat) (pairs : List (List Value × List Value)) :
    Keeps ρ (updateRows u client pairs) := by
  have check := F.of_calm calm_checkCancelled
  have record (row : List Value) (change : Change) : Keeps ρ (do
      Action.recordChange client ⟨((← get).table u).label, change, row⟩) :=
    get_bind fun _ => F.recordChange client _
  refine bind F.toFrame (F.of_calm (calm_checkChange u)) fun _ => get_bind fun h => ?_
  refine F.of_inLink _ (of_ite ?_ ?_)
  · refine of_forM F.toFrame pairs fun pair => bind F.toFrame check fun _ => ?_
    refine bind F.toFrame (get_bind fun _ => F.runRows u (some client) _) fun _ => ?_
    exact get_bind fun _ => bind F.toFrame (F.recordChange client _) fun _ =>
      F.recordChange client _
  · refine bind F.toFrame ?_ fun _ => ?_
    · refine of_forM F.toFrame pairs fun pair => bind F.toFrame check fun _ => ?_
      exact bind F.toFrame (F.removeRow u (some client) pair.1) fun _ => record pair.1 .delete
    · refine of_forM F.toFrame pairs fun pair => bind F.toFrame check fun _ => ?_
      exact bind F.toFrame (F.addRow u (some client) pair.2) fun _ => record pair.2 .insert

theorem rowCount (u : Nat) (client : Option Nat) : Keeps ρ (rowCount u client) := by
  refine get_bind fun h => F.executeNamed u ?_
  refine outcome_bind F.toFrame (F.reading u _ [] client fun st => ?_) fun r => ?_
  · exact bind F.toFrame (F.of_calm (calm_readSingle st)) fun v => of_ofExcept F.toFrame _
  · cases r with
    | ok a => exact of_pure F.toFrame a
    | error fault => exact of_throw F.toFrame _

theorem executeFor (u : Nat) (client : Option Nat) (sql : String) (params : List Value)
    (keep : Bool) : Keeps ρ (executeFor u client sql params keep) := by
  refine F.executeNamed u (of_ite ?_ ?_)
  · exact bind F.toFrame (F.execute u sql params client) fun _ => of_pure F.toFrame _
  · exact bind F.toFrame (F.run u sql params client) fun _ => of_pure F.toFrame _

theorem query (u : Nat) (client : Option Nat) (sql : String) (params : List Value)
    (failure : Option Fault) : Keeps ρ (query u client sql params failure) := by
  refine F.reading u sql params client fun st => ?_
  cases failure with
  | some fault => exact of_throw F.toFrame fault
  | none => exact F.of_calm (calm_readRows st)

/-! #### Cursors -/

theorem openCursor (cursor : Cursor) : Keeps ρ (openCursor cursor) :=
  get_bind fun _ =>
    bind F.toFrame (F.of_others (fun _ => rfl) (fun _ => rfl) (fun _ => rfl) fun _ => rfl)
      fun _ => of_pure F.toFrame _

theorem readNext (c : Nat) (cursor : Cursor) (st r : Nat) :
    Keeps ρ (readNext c cursor st r) := by
  have ended : Keeps ρ (endCursor c) := F.of_calm (calm_reviseCursor c _)
  refine outcome_bind F.toFrame (F.of_calm (calm_fetch r)) fun found => ?_
  rcases found with fault | _ | row
  · exact bind F.toFrame ended fun _ => bind F.toFrame
      (F.of_calm (calm_closeStatement st)) fun _ => of_throw F.toFrame fault
  · exact bind F.toFrame ended fun _ => bind F.toFrame
      (F.handBack _ _ _) fun _ => of_pure F.toFrame none
  · exact of_pure F.toFrame _

theorem next (c : Nat) : Keeps ρ (next c) := by
  have ended : Keeps ρ (endCursor c) := F.of_calm (calm_reviseCursor c _)
  refine get_bind fun h => ?_
  dsimp only
  split
  · exact of_pure F.toFrame none
  · exact F.readNext c _ _ _
  · refine outcome_bind F.toFrame (F.execute _ _ _ _) fun r => ?_
    cases r with
    | error fault => exact bind F.toFrame ended fun _ => of_throw F.toFrame fault
    | ok st =>
      refine get_bind fun h' => ?_
      split
      · exact bind F.toFrame ended fun _ => of_pure F.toFrame none
      · exact bind F.toFrame (F.of_calm (calm_reviseCursor c _)) fun _ => F.readNext c _ st _

theorem drainFrom (c fuel : Nat) : Keeps ρ (drainFrom c fuel) := by
  induction fuel with
  | zero => exact of_pure F.toFrame []
  | succ fuel ih =>
    refine bind F.toFrame (F.next c) fun row => ?_
    cases row with
    | none => exact of_pure F.toFrame []
    | some row => exact bind F.toFrame ih fun _ => of_pure F.toFrame _

theorem drain (c : Nat) : Keeps ρ (drain c) := by
  refine bind F.toFrame (F.next c) fun row => ?_
  cases row with
  | none => exact of_pure F.toFrame []
  | some row =>
    exact get_bind fun _ => bind F.toFrame (F.drainFrom c _) fun _ => of_pure F.toFrame _

/-! #### Tables and registry -/

theorem reviseTable (u : Nat) {f : LinkedTable → LinkedTable}
    (unset : ∀ table, (f table).unset = table.unset) : Keeps ρ (reviseTable u f) :=
  of_modify fun _ => F.settings (unset _)

theorem setFetchSize (u : Nat) (n : Int) : Keeps ρ (setFetchSize u n) := by
  refine get_bind_at fun h => ?_
  rw [LinkedTable.withFetchSize]
  split
  · exact F.refl h
  · -- The table that is put in was made of the one that is replaced.
    exact F.settings rfl

theorem registerTable (schema : String) (u : Nat) : Keeps ρ (registerTable schema u) := by
  refine get_bind fun h => bind F.toFrame (of_ofExcept F.toFrame _) ?_
  rintro ⟨registry, notice⟩
  refine bind F.toFrame (F.of_others (fun _ => rfl) (fun _ => rfl) (fun _ => rfl) fun _ => rfl)
    fun _ => ?_
  exact F.of_calm (calm_report _)

end Upkeep

/-- The operation makes, connects, disconnects or removes a table. -/
def Operation.Links : Operation → Prop
  | createTable _ | connect _ | reconnect .. | giveUpSession _ | closeLink _ | removeTable _
  | dropTable .. => True
  | _ => False

open LinkedTables.Action Keeps in
/-- Whatever is asked for but the making, connecting, disconnecting and removing of tables. -/
theorem Upkeep.perform {ρ : Host → Host → Prop} (F : Upkeep ρ) {o : Operation}
    (usual : ¬ o.Links) : Keeps ρ o.perform := by
  have S := F.toSessionFrame
  -- What is replied is made of what the work comes to, and changes nothing.
  have reply {α : Type} {x : Action α} (f : α → Reply) (hx : Keeps ρ x) :
      Keeps ρ (do return f (← x)) :=
    bind F.toFrame hx fun a => of_pure F.toFrame (f a)
  have silent {x : Action Unit} (hx : Keeps ρ x) : Keeps ρ (silently x) :=
    bind F.toFrame hx fun _ => of_pure F.toFrame Reply.done
  have others {f : Host → Host} (tables : ∀ h, (f h).tables = h.tables)
      (script : ∀ h, (f h).script = h.script) (results : ∀ h, (f h).results = h.results)
      (journal : ∀ h, (f h).journal = h.journal) : Keeps ρ (modify f) :=
    F.of_others tables script results journal
  cases o with
  | join convert =>
    refine reply .client (get_bind fun _ => ?_)
    exact bind F.toFrame (others (fun _ => rfl) (fun _ => rfl) (fun _ => rfl) fun _ => rfl)
      fun _ => of_pure F.toFrame _
  | clearUndo client =>
    exact silent (others (fun _ => rfl) (fun _ => rfl) (fun _ => rfl) fun _ => rfl)
  | addRow u client row => exact silent (F.addRow u client row)
  | removeRow u client row => exact silent (F.removeRow u client row)
  | updateRows u client cancelled pairs =>
    refine silent (bind F.toFrame ?_ fun _ => F.updateRows u client pairs)
    exact others (fun _ => rfl) (fun _ => rfl) (fun _ => rfl) fun _ => rfl
  | rowCount u client => exact reply .number (F.rowCount u client)
  | openScan u client => exact reply .cursor (get_bind fun _ => F.openCursor _)
  | openFind u index client first last =>
    refine reply .cursor (get_bind fun _ => ?_)
    exact bind F.toFrame (of_ofExcept F.toFrame _) fun _ => F.openCursor _
  | next c => exact reply .row (F.next c)
  | drain c => exact reply .rows (F.drain c)
  | closeCursor c => exact silent (F.of_calm (calm_closeCursor c))
  | execute u client sql params keep =>
    exact reply .statement (F.executeFor u client sql params keep)
  | query u client sql params failure => exact reply .rows (F.query u client sql params failure)
  | handBack u st sql => exact silent (F.handBack u st sql)
  | convertRow u row =>
    refine reply (fun p : List Value × Option Fault => .converted p.1 p.2) (get_bind fun _ => ?_)
    exact bind F.toFrame (F.reviseTable u fun _ => rfl) fun _ => of_pure F.toFrame _
  | setReadOnly u b => exact silent (F.reviseTable u fun _ => rfl)
  | setGlobalTemporary u b => exact silent (F.reviseTable u fun _ => rfl)
  | setFetchSize u n => exact silent (F.setFetchSize u n)
  | setDefault u c default => exact silent (F.reviseTable u fun _ => rfl)
  | setSequence u c sequence => exact silent (F.reviseTable u fun _ => rfl)
  | registerTable schema u => exact silent (F.registerTable schema u)
  | acquire key => exact reply .session (S.acquire key)
  | release s force => exact silent (S.release s force)
  | closePool => exact silent S.closePool
  | prepare s sql fetchSize =>
    exact reply (fun st => .statement (some st)) (F.of_calm (calm_prepare s sql fetchSize))
  | executeStatement st params => exact reply .result (F.executeStatement st params)
  | fetchAll r => exact reply .rows (F.of_calm (calm_fetchAll r))
  | closeStatement st => exact silent (F.of_calm (calm_closeStatement st))
  | putStatement s sql st => exact silent (F.putStatement s sql st)
  | takeStatement s sql => exact reply .statement (F.of_calm (calm_takeStatement s sql))
  | clearStatements s => exact silent (F.of_calm (calm_clearStatements s))
  | discard s force => exact silent (S.discard s force)
  | createTable | connect | reconnect | giveUpSession | closeLink | removeTable | dropTable =>
    exact (usual trivial).elim

end LinkedTables
