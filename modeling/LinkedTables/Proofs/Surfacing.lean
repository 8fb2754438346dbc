import LinkedTables.Proofs.ConnectOutcomes
import LinkedTables.Proofs.StatementAttempts

/-!
# How the faults of the remote side surface

A statement that the remote side refuses at every attempt ends in a failure that carries its text
and the words of the last refusal; a table that cannot be connected anew in between ends in the
failure that it remembers then (`Action.came_execute`). This is so where the remote side raises
no faults but its own, and connecting none that is not foreseen (`Host.Honest`).
-/

namespace LinkedTables

/-! ### What the remote side may raise -/

/-- A fault that the remote side tells when a row is fetched. -/
def Host.TellsRow (h : Host) (g : Fault) : Prop :=
  (∃ answer, .ok answer ∈ h.script.answers ∧ .error g ∈ answer.rows)
    ∨ ∃ r, .error g ∈ (h.result r).rows

/-- A fault with which the remote side may answer a statement or the fetching of its rows. -/
def Host.Tells (h : Host) (g : Fault) : Prop := .error g ∈ h.script.answers ∨ h.TellsRow g

/-- A fault that the fetching of rows may raise: one that the remote side tells then, or that of a
result that is closed. -/
def Host.RaisesRow (h : Host) (g : Fault) : Prop :=
  h.TellsRow g ∨ ∃ f, g = .remote f ∧ f.kind = .closedResource

/-- A fault that a statement or the fetching of its rows may raise: one that the remote side tells,
or one of a closed resource or of a result without a single row. -/
def Host.Raises (h : Host) (g : Fault) : Prop :=
  h.Tells g ∨ ∃ f, g = .remote f ∧ f.kind ∈ [.closedResource, .noRow, .manyRows]

theorem Host.RaisesRow.raises {h : Host} {g : Fault} (raised : h.RaisesRow g) : h.Raises g := by
  rcases raised with told | ⟨f, rfl, kind⟩
  · exact .inl (.inr told)
  · exact .inr ⟨f, rfl, kind ▸ List.mem_cons_self⟩

/-- The remote side of the table `t` fails with faults of its own, and connecting the table with
none but those that are foreseen. -/
structure Host.Honest (t : Nat) (h : Host) : Prop where
  foreseen : ∀ fault, ¬ h.script.Unforeseen (h.table t).definition.key fault
  told : ∀ g, h.Tells g → g.isRemote = true

theorem Host.Honest.isRemote {t : Nat} {h : Host} (honest : h.Honest t) {g : Fault}
    (raised : h.Raises g) : g.isRemote = true := by
  rcases raised with told | ⟨f, rfl, -⟩
  · exact honest.told g told
  · rfl

/-- The table `t` keeps its definition, and its remote side tells nothing that it would not have
told. -/
structure Follows (t : Nat) (h h' : Host) : Prop where
  script : h.script.Later h'.script
  fetched : ∀ g, h'.TellsRow g → h.TellsRow g
  known : t < h.tables.next → t < h'.tables.next
  definition : t < h.tables.next → (h'.table t).definition = (h.table t).definition

variable {t : Nat}

theorem Follows.told {h h' : Host} (follows : Follows t h h') {g : Fault} (told : h'.Tells g) :
    h.Tells g :=
  told.imp (fun there => follows.script.answers.subset there) (follows.fetched g)

/-- A change of tables that leaves the definitions alone. -/
theorem Follows.of_revise {h : Host} {u : Nat} {f : LinkedTable → LinkedTable}
    (same : (f (h.table u)).definition = (h.table u).definition) :
    Follows t h { h with tables := h.tables.revise u f } := by
  refine ⟨.refl _, fun _ => id, fun known => ?_, fun _ => ?_⟩
  · exact (Roster.next_revise h.tables u f).symm ▸ known
  · rcases h.table_of_revise u t f with e | ⟨rfl, e⟩
    · rw [e]
    · rw [e, same]

theorem Idle.follows {h h' : Host} (i : Idle h h') : Follows t h h' := by
  have table : h'.table t = h.table t := by rw [Host.table, i.tables]; rfl
  refine ⟨i.script, fun g told => ?_, fun known => i.tables.symm ▸ known, fun _ => by rw [table]⟩
  rcases told with ⟨answer, there, row⟩ | ⟨r, row⟩
  · exact .inl ⟨answer, i.script.answers.subset there, row⟩
  · exact .inr ⟨r, (i.rows r).subset row⟩

/-- What an answer holds was to be told. -/
theorem Remote.Script.execute_mem {script : Script} {r : Except Fault Answer}
    (e : script.execute.1 = r) : r ∈ script.answers ∨ r = .ok default := by
  unfold execute at e
  split at e
  · exact .inr e.symm
  next here =>
    subst e
    exact .inl (here ▸ List.mem_cons_self)

theorem followsUse (t : Nat) : UseFrame (Follows t) where
  refl _ := (Idle.of_same rfl rfl rfl).follows
  trans a b := ⟨a.script.trans b.script, fun g told => a.fetched g (b.fetched g told),
    fun known => b.known (a.known known),
    fun known => (b.definition (a.known known)).trans (a.definition known)⟩
  idle i _ := i.follows
  answer := by
    intro h answer script connection e
    have later := Remote.Script.later_execute h.script
    rw [e] at later
    refine ⟨later, fun g told => ?_, id, fun _ => rfl⟩
    rcases told with ⟨answer', there, row⟩ | ⟨r, row⟩
    · exact .inl ⟨answer', later.answers.subset there, row⟩
    · -- The rows of the new result are those of the answer.
      simp only [Host.result, Roster.at?_join] at row
      split at row
      · rcases Remote.Script.execute_mem (congrArg Prod.fst e) with there | blank
        · exact .inl ⟨answer, there, row⟩
        · cases blank
          cases row
      · exact .inr ⟨r, row⟩

theorem followsLink (t u : Nat) : LinkFrame u (Follows t) :=
  { (followsUse t).toSessionFrame with
    link := fun standing => .of_revise (definition_of_standing (standing _))
    adopt := fun _ _ => .of_revise rfl }

theorem follows (t : Nat) : Upkeep (Follows t) :=
  { followsUse t with
    execute := fun u => (followsUse t).execute (followsLink t u)
    settings := fun unset => .of_revise (congrArg LinkedTable.definition unset :) }

theorem Host.Honest.of_follows {h h' : Host} (honest : h.Honest t) (known : t < h.tables.next)
    (follows : Follows t h h') : h'.Honest t := by
  refine ⟨fun fault raised => ?_, fun g told => honest.told g (follows.told told)⟩
  rw [follows.definition known] at raised
  exact honest.foreseen fault (raised.of_later follows.script)

/-! ### How faults surface -/

/-- The statement that was sent last has a text. -/
def Host.Last (h : Host) (sql : String) : Prop :=
  ∃ values, h.sent.head? = some ⟨(Sql.numberMarkers sql).1, values⟩

theorem Host.Last.of_sent {h h' : Host} {sql : String} (last : h.Last sql)
    (sent : h'.sent = h.sent) : h'.Last sql := by
  obtain ⟨values, e⟩ := last
  exact ⟨values, sent ▸ e⟩

/-- The failures that are found without the remote side. -/
def LinkFaultKind.IsLocal (kind : LinkFaultKind) : Prop :=
  kind ∈ [.readOnlyViolation, .tableClosed, .queryCancelled, .unsupportedOperation]

instance : DecidablePred LinkFaultKind.IsLocal := fun _ => inferInstanceAs (Decidable (_ ∈ _))

/-- How a fault comes from the work on the table `t` between two hosts. Rows may be read to someone
or not, and `atHand` says which faults are found in what is at hand on a host. -/
inductive Host.Surfaces (t : Nat) (reads : Prop) (atHand : Host → Fault → Prop) (h h' : Host) :
    Fault → Prop
  | found {failure : LinkFault} (kind : failure.kind.IsLocal) :
      Surfaces t reads atHand h h' (.link failure)
  /-- The table is not ready, and cannot be made so. -/
  | unlinked {failure : LinkFault}
      (refuses : Action.readySession (h'.table t) = .error (.link failure)) :
      Surfaces t reads atHand h h' (.link failure)
  /-- The last statement, or the fetching of its rows, has failed. -/
  | refused {sql : String} {g : Fault} (last : h'.Last sql) (raised : h.Raises g) :
      Surfaces t reads atHand h h' (.link (wrapped sql g))
  /-- The fetching of rows has failed that are read to someone. -/
  | unread {g : Fault} (read : reads) (raised : h.RaisesRow g) : Surfaces t reads atHand h h' g
  | atHand {g : Host} {fault : Fault} (behind : Follows t h g) (there : atHand g fault) :
      Surfaces t reads atHand h h' fault

/-- How a failure of the link comes from the work on the table `t` between two hosts: it is found
without the remote side; or the table is not ready, and remembers it; or it is that of the statement
that was sent last, with the text of the statement and the words of the remote driver. -/
def Host.Fails (t : Nat) (h h' : Host) (failure : LinkFault) : Prop :=
  failure.kind.IsLocal ∨ Action.readySession (h'.table t) = .error (.link failure)
    ∨ ∃ sql f, h'.Last sql ∧ h.Raises (.remote f) ∧ failure.kind = .remoteExecutionFailure
      ∧ failure.sql = some sql ∧ failure.remoteMessage = some (f.driverText.getD f.text)

variable {b h h' : Host} {reads : Prop} {atHand : Host → Fault → Prop} {fault : Fault}

namespace Host.Surfaces

/-- Nothing has been sent since, and the table is as it was. -/
theorem behind (surfaces : b.Surfaces t reads atHand h fault) (sent : h'.sent = h.sent)
    (table : h'.table t = h.table t) : b.Surfaces t reads atHand h' fault := by
  cases surfaces with
  | found kind => exact .found kind
  | unlinked refuses => exact .unlinked (table ▸ refuses)
  | refused last raised => exact .refused (last.of_sent sent) raised
  | unread read raised => exact .unread read raised
  | atHand behind there => exact .atHand behind there

theorem calm (surfaces : b.Surfaces t reads atHand h fault) (kept : Calm h h') :
    b.Surfaces t reads atHand h' fault :=
  surfaces.behind kept.sent (by rw [Host.table, kept.tables]; rfl)

theorem of_local {kind : LinkFaultKind} {message : String} (here : kind.IsLocal) :
    b.Surfaces t reads atHand h (.link (.plain kind message)) :=
  .found here

/-- A table that is not ready ends in a failure of the link. -/
theorem of_unready (refuses : Action.readySession (h.table t) = .error fault) :
    b.Surfaces t reads atHand h fault := by
  obtain ⟨failure, rfl⟩ : ∃ failure, fault = .link failure := by
    unfold Action.readySession at refuses
    split at refuses <;> cases refuses <;> exact ⟨_, rfl⟩
  exact .unlinked refuses

theorem mono {reads' : Prop} {atHand' : Host → Fault → Prop}
    (surfaces : b.Surfaces t reads atHand h fault) (more : reads → reads')
    (wider : ∀ g fault, atHand g fault → atHand' g fault) :
    b.Surfaces t reads' atHand' h fault := by
  cases surfaces with
  | found kind => exact .found kind
  | unlinked refuses => exact .unlinked refuses
  | refused last raised => exact .refused last raised
  | unread read raised => exact .unread (more read) raised
  | atHand behind there => exact .atHand behind (wider _ _ there)

/-- Where no rows are read to anyone and nothing is amiss at hand, every fault is a failure of the
link. -/
theorem link_of_unread (honest : b.Honest t) (surfaces : b.Surfaces t reads atHand h fault)
    (unread : ¬ reads) (sound : ∀ g, ¬ atHand g fault) :
    ∃ failure, fault = .link failure ∧ b.Fails t h failure := by
  cases surfaces with
  | found kind => exact ⟨_, rfl, .inl kind⟩
  | unlinked refuses => exact ⟨_, rfl, .inr (.inl refuses)⟩
  | @refused sql g last raised =>
    cases g with
    | remote f => exact ⟨_, rfl, .inr (.inr ⟨sql, f, last, raised, rfl, rfl, rfl⟩)⟩
    | _ => cases honest.isRemote raised
  | unread read raised => exact absurd read unread
  | atHand _ there => exact absurd there (sound _)

end Host.Surfaces

/-- A statement that was executed for a text is open with its result. -/
structure Host.Opened (h : Host) (sql : String) (st : Nat) : Prop where
  last : h.Last sql
  known : st < h.statements.next
  own : (h.statement st).sql = sql
  result : ∃ r, (h.statement st).result = some r

/-- A fault of binding one of some values on behalf of a client. -/
def Host.Unbound (client : Option Nat) (params : List Value) (h : Host) (fault : Fault) : Prop :=
  ∃ v ∈ params, h.converted client v = .error fault

/-- The host `h` comes behind `b`, where the table `t` is, and its sessions keep statements under
their own texts. -/
structure Tracks (t : Nat) (b h : Host) : Prop extends Follows t b h where
  there : t < b.tables.next
  truthful : h.Truthful

theorem Tracks.behind (tracks : Tracks t b h) (kept : Follows t h h') (shelved : Shelved h h') :
    Tracks t b h' :=
  ⟨(followsUse t).trans tracks.toFollows kept, tracks.there, shelved.truthful tracks.truthful⟩

theorem Tracks.calm (tracks : Tracks t b h) (kept : Calm h h') : Tracks t b h' :=
  tracks.behind kept.idle.follows kept.shelved

namespace Action

open Keeps

/-! ### Statements -/

/-- What a statement that was executed raises when it fails is what the remote side tells. -/
theorem reaches_executeStatement {st : Nat} {sql : String} {values : List Value}
    (follows : Follows t b h) (known : st < h.statements.next) (own : (h.statement st).sql = sql) :
    Reaches (executeStatement st values) h fun r h' => h'.Last sql ∧ match r with
      | .ok r => (h'.statement st).result = some r
      | .error g => b.Raises g := by
  refine .past (closeResult_succeeds st) (calm_closeResult st) fun _ h₁ closed => .get_bind ?_
  have follows := (followsUse t).trans follows closed.idle.follows
  dsimp only
  rw [closed.shelved.sql st known, own]
  generalize marked : Sql.numberMarkers sql = p
  obtain ⟨text, n⟩ := p
  refine .modify_bind ?_
  -- The statement has been sent, whatever comes of it.
  generalize sending : ({ h₁ with journal := _ } : Host) = g
  have last : g.Last sql := by
    rw [← sending]
    exact ⟨values, by rw [marked]; rfl⟩
  have noted : Follows t h₁ g := by
    rw [← sending]
    exact Idle.follows (.of_same rfl rfl rfl)
  have follows : Follows t b g := (followsUse t).trans follows noted
  have known : st < g.statements.next := by
    rw [← sending]
    exact Nat.lt_of_lt_of_le known closed.shelved.next
  refine .of_ite (fun _ => ⟨last, .inr ⟨_, rfl, List.mem_cons_self⟩⟩) fun _ => .fromScript_bind ?_
  refine .bind_ofExcept (fun answer _ => .get_bind (.modify_bind (.modify_bind ⟨?_, ?_⟩)))
    fun fault e => ⟨last, .inl (follows.told ?_)⟩
  · exact last
  · exact congrArg Statement.result (Host.statement_of_revise_self known _)
  · rcases Remote.Script.execute_mem e with there | blank
    · exact .inl there
    · cases blank

/-- An attempt is won, or lost to a fault that the remote side raises; else a value could not be
bound. -/
theorem reaches_attempt (honest : b.Honest t) (tracks : Tracks t b h) (u s : Nat) (sql : String)
    (params : List Value) (client : Option Nat) :
    Reaches (attemptExecute u s sql params client) h fun r h' => match r with
      | .ok (.ok st) => h'.Opened sql st
      | .ok (.error g) => h'.Last sql ∧ b.Raises g
      | .error fault => h.Unbound client params fault := by
  cases bound : params.mapM (h.converted client) with
  | error fault =>
    rw [Reaches, act_attemptExecute_unbound bound]
    exact Success.exists_of_mapM_error bound
  | ok values =>
    refine reaches_attemptExecute tracks.truthful bound fun st g before prepared => ?_
    obtain ⟨known, -, own⟩ := prepared
    have follows := (tracks.calm before).toFollows
    -- What comes of the execution, and that the statement stays what it was prepared for.
    have executed : Reaches (executeStatement st values) g _ :=
      reaches_executeStatement follows known own
    have tried : Reaches (executeStatement st values) g _ :=
      tried_executeStatement (t := t) known own
    have shelved : Shelved g (g.act (executeStatement st values)).2 := tried.shelved
    refine .outcome_bind (P := fun r h' => (h'.Last sql ∧ match r with
      | .ok r => (h'.statement st).result = some r
      | .error g => b.Raises g) ∧ Shelved g h') ⟨executed, shelved⟩ ?_
    rintro (g' | r) h' ⟨⟨last, came⟩, shelved⟩
    · refine Reaches.of_ite (fun _ => ?_) fun other => absurd (honest.isRemote came) other
      refine Reaches.past (closeStatement_succeeds st) (calm_closeStatement st) ?_
      intro _ h'' closed
      exact ⟨last.of_sent closed.sent, came⟩
    · exact ⟨last, Nat.lt_of_lt_of_le known shelved.next, (shelved.sql st known).trans own, r, came⟩

/-- What work for the table `t` has come to behind the host `b`: a value as `V` says, or a fault
that surfaces. -/
def Came {α : Type} (t : Nat) (reads : Prop) (atHand : Host → Fault → Prop) (b : Host)
    (V : α → Host → Prop) (r : Except Fault α) (h : Host) : Prop :=
  Tracks t b h ∧ match r with
    | .ok a => V a h
    | .error fault => b.Surfaces t reads atHand h fault

section Execution

variable (honest : b.Honest t) {sql : String} {params : List Value} {client : Option Nat}
  (unbound : ∀ g fault, g.Unbound client params fault → atHand g fault)
include honest unbound

theorem came_attemptExecute (tracks : Tracks t b h) (s : Nat) :
    Reaches (attemptExecute t s sql params client) h (Came t reads atHand b fun r h' => match r with
      | .ok st => h'.Opened sql st
      | .error g => h'.Last sql ∧ b.Raises g) := by
  have kept := (follows t).attemptExecute t s sql params client h
  have tried := (tried_attemptExecute (t := t) t s sql params client tracks.truthful).1
  have came := reaches_attempt honest tracks t s sql params client
  refine (came.with_host (tracks.behind kept tried.shelved)).mono ?_
  rintro (fault | g | st) h' ⟨came, behind⟩
  · exact ⟨behind, .atHand tracks.toFollows (unbound h fault came)⟩
  · exact ⟨behind, came⟩
  · exact ⟨behind, came⟩

omit unbound in
/-- A table is connected anew, or remembers why it could not be. -/
theorem came_reconnect (tracks : Tracks t b h) (failed : Option Nat) :
    Reaches (reconnect t failed) h (Came t reads atHand b fun _ _ => True) := by
  have honest := honest.of_follows tracks.there tracks.toFollows
  have came := reaches_reconnect (tracks.known tracks.there) failed honest.foreseen
  have kept := (followsLink t t).reconnect failed h
  have aside := (asideLink t t).reconnect failed h
  refine (came.with_host (tracks.behind kept aside.shelved)).mono ?_
  rintro (fault | s) h' ⟨came, behind⟩
  · obtain ⟨failure, rfl, remembered⟩ := came fault rfl
    exact ⟨behind, .unlinked (by rw [readySession, remembered])⟩
  · exact ⟨behind, trivial⟩

theorem came_executeFrom (tracks : Tracks t b h) (s left : Nat) :
    Reaches (executeFrom t sql params client s left) h
      (Came t reads atHand b fun st h' => h'.Opened sql st) := by
  induction left generalizing h s with
  | zero =>
    refine .bind (came_attemptExecute honest unbound tracks s) ?_ fun _ _ came => came
    rintro (g | st) h' ⟨tracks, came⟩
    · exact ⟨tracks, .refused came.1 came.2⟩
    · exact ⟨tracks, came⟩
  | succ left ih =>
    refine .bind (came_attemptExecute honest unbound tracks s) ?_ fun _ _ came => came
    rintro (g | st) h' ⟨tracks, came⟩
    · refine .get_bind (.past (report_succeeds _) (calm_report _) fun _ h'' reported => ?_)
      refine .bind (came_reconnect honest (tracks.calm reported) _) (fun s' h₃ came => ?_)
        fun _ _ came => came
      exact ih came.1 s'
    · exact ⟨tracks, came⟩

omit honest unbound in
/-- A table that is not ready does not become so by being looked at. -/
theorem came_requireSession (tracks : Tracks t b h) :
    Reaches (requireSession t) h (Came t reads atHand b fun _ _ => True) := by
  refine .get_bind ?_
  cases e : readySession (h.table t) with
  | ok s => exact ⟨tracks, trivial⟩
  | error fault => exact ⟨tracks, .of_unready e⟩

theorem came_execute (tracks : Tracks t b h) :
    Reaches (execute t sql params client) h
      (Came t reads atHand b fun st h' => h'.Opened sql st) := by
  refine .bind (came_requireSession tracks) (fun s h' came => ?_) fun _ _ came => came
  exact came_executeFrom honest unbound came.1 s maxRetry

theorem came_run (tracks : Tracks t b h) :
    Reaches (run t sql params client) h (Came t reads atHand b fun _ _ => True) := by
  refine .bind (came_execute honest unbound tracks) (fun st h' came => ?_) fun _ _ came => came
  obtain ⟨tracks, opened⟩ := came
  obtain ⟨_, given⟩ := handBack_succeeds t st sql h'
  rw [Reaches, given]
  exact ⟨tracks.calm (calm_handBack opened.known opened.own), trivial⟩

/-- The result of a statement is read; a fault of reading comes through as it is. -/
theorem came_reading {α : Type} {read : Nat → Action α} {Q : Fault → Prop}
    (reader : ∀ st g, Tracks t b g → g.Opened sql st → Reaches (read st) g fun r h' =>
      Calm g h' ∧ ∀ fault, r = .error fault → Q fault) (tracks : Tracks t b h) :
    Reaches (reading t sql params client read) h fun r h' => Tracks t b h' ∧
      ∀ fault, r = .error fault → b.Surfaces t reads atHand h' fault ∨ h'.Last sql ∧ Q fault := by
  have executed : Reaches (execute t sql params client) h
      (Came t reads atHand b fun st h' => h'.Opened sql st) := came_execute honest unbound tracks
  refine .bind executed (fun st h' came => ?_) fun fault h' came => ?_
  · obtain ⟨tracks, opened⟩ := came
    refine .outcome_bind (reader st h' tracks opened) ?_
    rintro (fault | a) g ⟨kept, failed⟩
    · refine .past (closeStatement_succeeds st) (calm_closeStatement st) fun _ g' closed => ?_
      refine ⟨(tracks.calm kept).calm closed, ?_⟩
      rintro fault' ⟨⟩
      exact .inr ⟨(opened.last.of_sent kept.sent).of_sent closed.sent, failed fault rfl⟩
    · obtain ⟨_, given⟩ := handBack_succeeds t st sql g
      have known : st < g.statements.next := Nat.lt_of_lt_of_le opened.known kept.shelved.next
      have own : (g.statement st).sql = sql := (kept.shelved.sql st opened.known).trans opened.own
      have handed : Tracks t b (g.act (handBack t st sql)).2 :=
        (tracks.calm kept).calm (calm_handBack known own)
      refine .bind_of_act (Prod.ext given rfl) ⟨handed, fun fault failed => ?_⟩
      cases failed
  · refine ⟨came.1, ?_⟩
    rintro fault' ⟨⟩
    exact .inl came.2

end Execution

end Action

end LinkedTables
