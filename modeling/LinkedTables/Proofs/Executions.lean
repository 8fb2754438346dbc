import LinkedTables.Proofs.ConnectAttempts

/-!
# The executions of a statement

A statement is executed on the session of its table. When that fails, the table gives the session up
and connects, which comes to the session for the next execution, or to a failure that is remembered
(`Renewal`). So the executions of a statement form a chain (`Executions`): each is on the connection
of its session, all are of one text with one list of values, and the last one decides what the call
comes to, unless it fails and the table cannot be connected behind it (`executions_of_execute`).
-/

namespace LinkedTables

open LinkedTables.Action

/-! ### What is executed where -/

/-- The connection on which an event has executed a statement, and the statement. -/
def Event.execution? : Event → Option (Nat × Sent)
  | executed n sql params _ => some (n, ⟨sql, params⟩)
  | _ => none

/-- The statements that were executed, with their connections, the latest first. -/
def Host.executions (h : Host) : List (Nat × Sent) := h.journal.filterMap Event.execution?

/-- What was executed was sent. -/
theorem Host.map_executions (h : Host) : h.executions.map Prod.snd = h.sent := by
  rw [executions, sent, List.map_filterMap]
  congr 1
  funext event
  cases event <;> rfl

/-- Nothing was executed, and nothing that matters for statements has changed. -/
structure Silent (h h' : Host) : Prop where
  calm : Calm h h'
  firm : Firm h h'
  executions : h'.executions = h.executions

theorem silent : Frame Silent where
  refl h := ⟨calm.refl h, firm.refl h, rfl⟩
  trans a b := ⟨calm.trans a.calm b.calm, firm.trans a.firm b.firm,
    b.executions.trans a.executions⟩

namespace Silent

open Keeps

/-- Nothing is executed by work that is calm and firm and leaves the executions alone. -/
theorem of_keeps {α : Type} {x : Action α} (calm : Keeps Calm x) (firm : Keeps Firm x)
    (executions : Keeps (fun h h' => h'.executions = h.executions) x) : Keeps Silent x :=
  fun h => ⟨calm h, firm h, executions h⟩

theorem same : Frame fun h h' : Host => h'.executions = h.executions :=
  ⟨fun _ => rfl, fun a b => b.trans a⟩

theorem report (notice : Notice) : Keeps Silent (report notice) :=
  of_keeps (calm_report notice) (firm_report notice) (of_report same (fun _ _ => rfl) notice)

theorem closeResult (st : Nat) : Keeps Silent (closeResult st) := by
  refine of_keeps (calm_closeResult st) (firm_closeResult st) (get_bind fun h => ?_)
  split
  · exact of_pure same ()
  · exact bind same (of_modify fun _ => rfl) fun _ =>
      bind same (of_modify fun _ => rfl) fun _ => of_modify fun _ => rfl

theorem closeStatement (st : Nat) : Keeps Silent (closeStatement st) :=
  of_keeps (calm_closeStatement st) (firm_closeStatement st)
    (bind same ((closeResult st).mono fun _ _ s => s.executions) fun _ => of_modify fun _ => rfl)

theorem takeStatement (s : Nat) (sql : String) : Keeps Silent (takeStatement s sql) :=
  of_keeps (calm_takeStatement s sql) (firm_takeStatement s sql)
    (get_bind fun _ => bind same (of_modify fun _ => rfl) fun _ => of_pure same _)

theorem prepare (s : Nat) (sql : String) (n : Int) : Keeps Silent (prepare s sql n) :=
  of_keeps (calm_prepare s sql n) (firm_prepare s sql n)
    (get_bind fun _ => bind same (of_modify fun _ => rfl) fun _ => of_pure same _)

end Silent

namespace Action

/-! ### One execution -/

variable {h : Host} {s : Nat} {sql : String}

end Action

/-! ### Connecting anew -/

/-- The table `t` gives up the session `s`, which is closed then, and connects. -/
structure Renewal (t s : Nat) (h h' : Host) (r : Except Fault Nat) : Prop where
  held : (h.table t).session = some s
  renewed : h.act (reconnect t (some s)) = (r, h')
  gaveUp : ∃ g, h.act (giveUpSession t) = (.ok (), g) ∧ (g.session s).closed = true ∧
    g.act (connect t) = (r, h')

section Renewals

variable {t : Nat} {h : Host} (known : t < h.tables.next) (there : h.lines.Known)
  (foreseen : ∀ fault, ¬ h.script.Unforeseen (h.table t).definition.key fault)
include known there foreseen

end Renewals

/-! ### Chains of executions -/

section Chains

variable (t : Nat) (sql : String) (params : List Value) (client : Option Nat)

/-- One execution of a message on the session `s`. -/
structure Execution (m : Sent) (s : Nat) (h h' : Host) (o : Except Fault Nat) : Prop where
  ran : h.act (attemptExecute t s sql params client) = (.ok o, h')
  executed : h'.executions = ((h.session s).connection, m) :: h.executions

/-- The host when the failure of a statement has been reported. -/
def Host.reporting (h : Host) (t : Nat) (fault : Fault) : Host :=
  (h.act (report (failedNotice (h.table t).name fault))).2

/-- What a call comes to behind the last of the executions that were tried, of so many at most. -/
inductive ExecuteEnds (most tried z : Nat) (g : Host) :
    Except Fault Nat → Except Fault Nat → Host → Prop
  /-- The statement is executed. -/
  | executed (st : Nat) : ExecuteEnds most tried z g (.ok st) (.ok st) g
  /-- All executions failed. -/
  | refused {fault : Fault} (spent : tried = most)
      (held : readySession (g.table t) = .ok z) :
      ExecuteEnds most tried z g (.error fault) (.error (.link (wrapped sql fault))) g
  /-- The table cannot be connected. -/
  | unlinked {fault : Fault} {failure : LinkFault} {h' : Host} (left : tried < most)
      (renewal : Renewal t z (g.reporting t fault) h' (.error (.link failure)))
      (remembered : (h'.table t).failure = some failure) (sent : h'.sent = g.sent) :
      ExecuteEnds most tried z g (.error fault) (.error (.link failure)) h'

end Chains

/-! ### What a call depends on -/

/-- Statements can be executed for the table `t`: the values can be bound, what sessions keep was
prepared for the text under which they keep it, and no fault goes through but those of the remote
side and of breakers. -/
structure Host.Serves (h : Host) (t : Nat) (client : Option Nat) (params values : List Value) :
    Prop where
  known : t < h.tables.next
  there : h.lines.Known
  truthful : h.Truthful
  bound : params.mapM (h.converted client) = .ok values
  told : ∀ fault, .error fault ∈ h.script.answers → fault.isRemote = true
  foreseen : ∀ fault, ¬ h.script.Unforeseen (h.table t).definition.key fault

/-- Statements can be executed for the table `t` as they could before. -/
structure Serving (t : Nat) (h h' : Host) : Prop extends Defines t h h' where
  there : h.lines.Known → h'.lines.Known
  truthful : h.Truthful → h'.Truthful
  clients : h'.clients = h.clients

variable {t : Nat} {client : Option Nat} {params values : List Value} {sql : String} {s : Nat}
  {h h' : Host}

/-- Nothing has changed but what statements may change. -/
theorem Serving.of_same (script : h.script.Later h'.script) (tables : h'.tables = h.tables)
    (lines : h'.lines = h.lines) (shelved : Shelved h h') (clients : h'.clients = h.clients) :
    Serving t h h' :=
  ⟨.of_tables script tables, fun there => lines.symm ▸ there, shelved.truthful, clients⟩

theorem Execution.sent {m : Sent} {o : Except Fault Nat}
    (execution : Execution t sql params client m s h h' o) : h'.sent = m :: h.sent := by
  rw [← h'.map_executions, execution.executed, List.map_cons, h.map_executions]

/-- Reporting a failure changes the log only. -/
theorem serving_reporting (h : Host) (t : Nat) (fault : Fault) :
    Serving t h (h.reporting t fault) ∧ (h.reporting t fault).table t = h.table t ∧
      (h.reporting t fault).connects = h.connects ∧ (h.reporting t fault).sent = h.sent := by
  let notice := failedNotice (h.table t).name fault
  have told := calm_report notice h
  have lines : Keeps SameLines (report notice) :=
    keeps_lines fun hR => (smooth_report hR notice).steady
  have later := (firm_report notice h).script
  have table : (h.reporting t fault).table t = h.table t :=
    congrArg (fun tables => (Roster.at? tables t).getD default) told.tables
  exact ⟨.of_same later told.tables (lines h) told.shelved told.clients, table,
    congrArg Lines.connects (lines h), told.sent⟩

theorem Renewal.sent {r : Except Fault Nat} (renewal : Renewal t s h h' r) : h'.sent = h.sent :=
  (Keeps.of_act renewal.renewed ((asideLink t t).reconnect _)).sent

/-- One execution more is tried. -/
theorem ExecuteEnds.succ {most tried z : Nat} {g : Host} {o r : Except Fault Nat}
    (ends : ExecuteEnds t sql most tried z g o r h') :
    ExecuteEnds t sql (most + 1) (tried + 1) z g o r h' := by
  cases ends with
  | executed st => exact .executed st
  | refused spent held => exact .refused (congrArg (· + 1) spent) held
  | unlinked left renewal remembered sent =>
    exact .unlinked (Nat.succ_lt_succ left) renewal remembered sent

/-! ### Calls -/

/-- The host when a table has been created and more has been done, where the remote side answers
statements as it is told to. -/
def Host.answered (answers : List (Except Fault Remote.Answer)) (run : List Operation) : Host :=
  (start { Remote.Script.quiet with answers } (.bare true) .error).after
    (.createTable (.bare "FIRST") :: run)

end LinkedTables
