import LinkedTables.Proofs.LinkWorkKeepsColumns

/-!
# Attempts at a statement

A statement about rows is sent until the remote side has executed it: once, and once more after each
of at most `maxRetry` reconnects. Whatever happens on the way, nothing but this one statement is
sent, the remote side executes it at the last attempt or never, and the call comes to a value if and
only if it was executed (`tried_runRows`).
-/

namespace LinkedTables

/-! ### What is sent -/

/-- A value as it is bound on behalf of a client. -/
def Host.converted (h : Host) (client : Option Nat) (v : Value) : Except Fault Value :=
  match client with
  | none => .ok v
  | some c => ((h.clients.at? c).getD default).convert v

/-- A statement as it is sent on behalf of a client, if its values can be bound. -/
def Host.message (h : Host) (client : Option Nat) (sql : String) (params : List Value) :
    Except Fault Sent := do
  return ⟨(Sql.numberMarkers sql).1, ← params.mapM (h.converted client)⟩

theorem converted_of_clients {h h' : Host} (clients : h'.clients = h.clients) :
    h'.converted = h.converted := by
  funext client v
  cases client with
  | none => rfl
  | some c => rw [Host.converted, Host.converted, clients]

theorem message_of_clients {h h' : Host} (clients : h'.clients = h.clients) (client : Option Nat)
    (sql : String) (params : List Value) :
    h'.message client sql params = h.message client sql params := by
  rw [Host.message, Host.message, converted_of_clients clients]

/-- Converting values leaves the host alone. -/
theorem Host.act_convert (h : Host) (client : Option Nat) (params : List Value) :
    h.act (params.mapM (Action.convertFor client)) = (params.mapM (h.converted client), h) := by
  have single (v : Value) : h.act (Action.convertFor client v) = (h.converted client v, h) := by
    cases client with
    | none => rfl
    | some c =>
      show h.act (Action.ofExcept (((h.clients.at? c).getD default).convert v)) = _
      rw [converted]
      cases ((h.clients.at? c).getD default).convert v <;> rfl
  induction params with
  | nil => rfl
  | cons v params ih =>
    rw [List.mapM_cons, List.mapM_cons, act_bind, single]
    cases h.converted client v with
    | error fault => rfl
    | ok w =>
      show h.act (params.mapM (Action.convertFor client) >>= fun ws => pure (w :: ws)) = _
      rw [act_bind, ih]
      cases params.mapM (h.converted client) <;> rfl

/-! ### The relation -/

/-- A statement was sent, so many times at most, and executed at the last time if it was won;
nothing else was sent, and nothing of the table `t` or of the clients has changed. -/
structure Tried (t : Nat) (message : Except Fault Sent) (most : Nat) (won : Bool) (h h' : Host) :
    Prop extends Held t h h' where
  sent : ∃ attempts : List Sent, h'.sent = attempts ++ h.sent ∧ attempts.length ≤ most
    ∧ (∀ m ∈ attempts, message = .ok m) ∧ (won = true → attempts ≠ [])
  answered : h'.results.next = h.results.next + won.toNat
  cancelled : won = false → h'.cancelled = h.cancelled

variable {t : Nat} {message : Except Fault Sent} {h h' h'' : Host}

/-- Nothing has been sent yet. -/
theorem Aside.tried (a : Aside t h h') (message : Except Fault Sent) (most : Nat) :
    Tried t message most false h h' :=
  ⟨a.toHeld, ⟨[], a.sent, Nat.zero_le _, by simp, nofun⟩, a.answered, fun _ => a.cancelled⟩

namespace Tried

variable {most most' : Nat} {won : Bool}

/-- Attempts behind attempts that failed. -/
theorem trans (a : Tried t message most false h h') (b : Tried t message most' won h' h'') :
    Tried t message (most + most') won h h'' := by
  obtain ⟨attempts, sent, few, same, -⟩ := a.sent
  obtain ⟨attempts', sent', few', same', some_attempt⟩ := b.sent
  refine ⟨(held t).trans a.toHeld b.toHeld, ⟨attempts' ++ attempts, ?_, ?_, fun m hm => ?_,
    fun w => ?_⟩, b.answered.trans (by rw [a.answered]; rfl),
    fun lost => (b.cancelled lost).trans (a.cancelled rfl)⟩
  · rw [sent', sent, List.append_assoc]
  · rw [List.length_append]
    omega
  · exact (List.mem_append.mp hm).elim (same' m) (same m)
  · simp [some_attempt w]

/-- Work behind attempts that sends nothing. -/
theorem behind (a : Tried t message most won h h') (b : Aside t h' h'') :
    Tried t message most won h h'' := by
  obtain ⟨attempts, sent, rest⟩ := a.sent
  exact ⟨(held t).trans a.toHeld b.toHeld, ⟨attempts, b.sent.trans sent, rest⟩,
    b.answered.trans a.answered, fun lost => b.cancelled.trans (a.cancelled lost)⟩

theorem mono (a : Tried t message most won h h') (more : most ≤ most') :
    Tried t message most' won h h' := by
  obtain ⟨attempts, sent, few, rest⟩ := a.sent
  exact ⟨a.toHeld, ⟨attempts, sent, Nat.le_trans few more, rest⟩, a.answered, a.cancelled⟩

/-- The last attempt was won: a result has come of what was sent. -/
theorem win (a : Tried t message most false h h') (attempted : h'.sent ≠ h.sent)
    (b : Held t h' h'') (sent : h''.sent = h'.sent)
    (answered : h''.results.next = h'.results.next + 1) : Tried t message most true h h'' := by
  obtain ⟨attempts, sent', few, same, -⟩ := a.sent
  refine ⟨(held t).trans a.toHeld b, ⟨attempts, sent.trans sent', few, same, fun _ none => ?_⟩,
    answered.trans (congrArg (· + 1) a.answered), nofun⟩
  rw [none] at sent'
  exact attempted sent'

end Tried

/-- Work before attempts that sends nothing. -/
theorem Aside.before {most : Nat} {won : Bool} (a : Aside t h h')
    (b : Tried t message most won h' h'') : Tried t message most won h h'' := by
  have tried := (a.tried message 0).trans b
  rwa [Nat.zero_add] at tried

/-- A statement is sent. -/
theorem tried_sent {event : Event} {m : Sent} (sent : event.sent? = some m) (h : Host) :
    Tried t (.ok m) 1 false h { h with journal := event :: h.journal } := by
  refine ⟨.of_shelved (.of_same rfl rfl) rfl rfl, ⟨[m], ?_, Nat.le_refl 1, by simp, nofun⟩, rfl,
    fun _ => rfl⟩
  rw [Host.sent, List.filterMap_cons, sent]
  rfl

namespace Action

open Keeps Host

/-! ### One attempt -/

/-- A statement that was prepared for a text is executed as that text. -/
theorem tried_executeStatement {st : Nat} {sql : String} {values : List Value}
    (known : st < h.statements.next) (own : (h.statement st).sql = sql) :
    Reaches (executeStatement st values) h fun r h' =>
      Tried t (.ok ⟨(Sql.numberMarkers sql).1, values⟩) 1 r.toBool h h' := by
  refine .behind (calm_closeResult st) (fun _ h₁ closed => .get_bind ?_) fun _ _ closed =>
    closed.aside.tried _ 1
  dsimp only
  rw [closed.shelved.sql st known, own]
  generalize Sql.numberMarkers sql = marked
  obtain ⟨text, n⟩ := marked
  refine .modify_bind ?_
  -- The statement has been sent, whatever comes of it.
  generalize sending : ({ h₁ with journal := _ } : Host) = g
  have sent : Tried t (.ok ⟨text, values⟩) 1 false h₁ g := by
    rw [← sending]
    exact tried_sent rfl h₁
  have attempted : g.sent ≠ h.sent := by
    rw [← sending, ← closed.sent]
    exact List.cons_ne_self _ _
  have lost := closed.aside.before sent
  refine .of_ite (fun _ => lost) fun _ => ?_
  refine .behind (aside_fromScript (t := t) Remote.Script.execute) (fun answer g' asked => ?_)
    fun _ _ asked => lost.behind asked
  refine .bind_ofExcept (fun answer _ => .get_bind (.modify_bind (.modify_bind ?_)))
    fun _ _ => lost.behind asked
  -- A result is opened, and put to the statement.
  have opened : Held t g' { g' with
      cancelled := g'.cancelled || answer.cancels
      results := g'.results.join
        ⟨(h₁.session (h₁.statement st).session).connection, answer.rows, false⟩ } :=
    .of_shelved (.of_same rfl rfl) rfl rfl
  refine (lost.behind asked).win (asked.sent ▸ attempted) ((held t).trans opened ?_) rfl
    (Roster.next_join ..)
  exact .of_shelved (.of_statements (fun _ => rfl) fun _ => rfl) rfl rfl

/-- The statement that is prepared for a text. -/
theorem reaches_prepare (s : Nat) (sql : String) (n : Int) :
    Reaches (prepare s sql n) h fun r h' =>
      ∀ st, r = .ok st → Calm h h' ∧ h'.Prepared s sql st := by
  intro st e
  obtain rfl := Except.ok.inj e
  have here := Roster.at?_join_next h.statements ⟨s, sql, n, none, false⟩
  exact ⟨calm_prepare s sql n h, (Roster.next_join ..).symm ▸ Nat.lt_succ_self _,
    congrArg (fun found : Option Statement => (found.getD default).session) here,
    congrArg (fun found : Option Statement => (found.getD default).sql) here⟩

/-- A value that cannot be bound ends an attempt before it is made. -/
theorem act_attemptExecute_unbound {h : Host} {params : List Value} {client : Option Nat}
    {fault : Fault} (unbound : params.mapM (h.converted client) = .error fault) (u s : Nat)
    (sql : String) : h.act (attemptExecute u s sql params client) = (.error fault, h) :=
  act_bind_error h (by rw [act_convert, unbound])

/-- A relation that is kept until a statement has been found for an attempt and is reported. -/
structure SearchFrame (ρ : Host → Host → Prop) : Prop extends Frame ρ where
  take : ∀ s sql, Keeps ρ (takeStatement s sql)
  prepare : ∀ s sql n, Keeps ρ (prepare s sql n)
  report : ∀ notice, Keeps ρ (report notice)

theorem calmSearch : SearchFrame Calm :=
  ⟨calm, calm_takeStatement, calm_prepare, calm_report⟩

section Search

variable {Q : Except Fault (Except Fault Nat) → Host → Prop} {h : Host} {u s : Nat} {sql : String}
  {params values : List Value} {client : Option Nat}

/-- An attempt whose values can be bound is settled with a statement that its session has kept, or
that is prepared on it. What is known of either is known of the statement when it is settled. -/
theorem SearchFrame.attempt {ρ : Host → Host → Prop} (F : SearchFrame ρ) {P : Host → Nat → Prop}
    (lasts : ∀ {g g' st}, ρ g g' → P g st → P g' st)
    (kept : ∀ st, (h.session s).cache.value? sql = some st → P h st)
    (made : ∀ (n : Int) (g : Host) st, (g.act (Action.prepare s sql n)).1 = .ok st →
      P (g.act (Action.prepare s sql n)).2 st)
    (bound : params.mapM (h.converted client) = .ok values)
    (settled : ∀ st g, ρ h g → P g st → Reaches (settle st values) g Q) :
    Reaches (attemptExecute u s sql params client) h Q := by
  have reported {st : Nat} {g : Host} (before : ρ h g) (known : P g st) : Reaches (do
      Action.report ⟨.debug, Sql.trace (h.table u).name sql params⟩
      settle st values) g Q :=
    .past (report_succeeds _) (F.report _) fun _ g' later =>
      settled st g' (F.trans before later) (lasts later known)
  refine .bind_of_act ((act_convert ..).trans (congrArg (·, h) bound)) (.get_bind ?_)
  refine .bind_of_succeeds (takeStatement_succeeds s sql) (P := fun found g => ρ h g ∧
    ∀ st, found = some st → P g st) ?_ ?_
  · intro found e
    cases e
    have taken := F.take s sql h
    exact ⟨taken, fun st here => lasts taken (kept st here)⟩
  · rintro (_ | st) g ⟨taken, found⟩
    · refine .bind_of_succeeds (prepare_succeeds s sql _) (P := fun st g' => ρ g g' ∧ P g' st)
        (fun st e => ⟨F.prepare s sql _ g, made _ g st e⟩) ?_
      rintro st g' ⟨prepared, known⟩
      exact reported (F.trans taken prepared) known
    · exact reported taken (found st rfl)

/-- An attempt is made with a statement that its session has prepared for its text. -/
theorem reaches_attemptExecute (truthful : h.Truthful)
    (bound : params.mapM (h.converted client) = .ok values)
    (settled : ∀ st g, Calm h g → g.Prepared s sql st → Reaches (settle st values) g Q) :
    Reaches (attemptExecute u s sql params client) h Q :=
  calmSearch.attempt (P := fun g st => g.Prepared s sql st)
    (fun later prepared => later.shelved.prepared prepared) (truthful s sql)
    (fun n _ st e => (reaches_prepare s sql n st e).2) bound settled

end Search

/-- An attempt comes to a statement if the remote side has executed it. -/
def isWon : Except Fault (Except Fault Nat) → Bool
  | .ok (.ok _) => true
  | _ => false

/-- An attempt at a statement, which is one for its text if the remote side has executed it. -/
theorem tried_attemptExecute {h : Host} (u s : Nat) (sql : String) (params : List Value)
    (client : Option Nat) (truthful : h.Truthful) :
    Reaches (attemptExecute u s sql params client) h fun r h' =>
      Tried t (h.message client sql params) 1 (isWon r) h h'
        ∧ ∀ st, r = .ok (.ok st) → st < h'.statements.next ∧ (h'.statement st).sql = sql := by
  cases bound : params.mapM (h.converted client) with
  | error fault =>
    rw [Reaches, act_attemptExecute_unbound bound]
    exact ⟨((aside t).refl h).tried _ 1, fun _ won => by cases won⟩
  | ok values =>
    rw [show h.message client sql params = .ok ⟨(Sql.numberMarkers sql).1, values⟩ by
      rw [Host.message, bound]; rfl]
    refine reaches_attemptExecute truthful bound fun st g before prepared => ?_
    obtain ⟨known, -, own⟩ := prepared
    refine .outcome_bind (tried_executeStatement (t := t) known own) fun r h' tried => ?_
    have attempt := before.aside.before tried
    cases r with
    | ok _ =>
      refine ⟨attempt, fun st' won => ?_⟩
      cases won
      exact ⟨Nat.lt_of_lt_of_le known tried.shelved.next, (tried.shelved.sql st known).trans own⟩
    | error fault =>
      refine .of_ite (fun _ => .behind (calm_closeStatement st) (fun _ _ closed => ?_)
        fun _ _ closed => ?_) fun _ => ⟨attempt, fun _ won => by cases won⟩
      · exact ⟨attempt.behind closed.aside, fun _ won => by cases won⟩
      · exact ⟨attempt.behind closed.aside, fun _ won => by cases won⟩

/-! ### Trying again -/

/-- A statement is tried until the remote side has executed it, or no attempt is left. -/
theorem tried_executeFrom {h : Host} (t : Nat) (sql : String) (params : List Value)
    (client : Option Nat) (s left : Nat) (truthful : h.Truthful) :
    Reaches (executeFrom t sql params client s left) h fun r h' =>
      Tried t (h.message client sql params) (left + 1) r.toBool h h'
        ∧ ∀ st, r = .ok st → st < h'.statements.next ∧ (h'.statement st).sql = sql := by
  induction left generalizing h s with
  | zero =>
    refine .bind (tried_attemptExecute (t := t) t s sql params client truthful) ?_ ?_
    · rintro (fault | st) h' ⟨tried, own⟩
      · exact ⟨tried, nofun⟩
      · exact ⟨tried, fun st' e => by cases e; exact own st rfl⟩
    · rintro fault h' ⟨tried, -⟩
      exact ⟨tried, nofun⟩
  | succ left ih =>
    refine .bind (tried_attemptExecute (t := t) t s sql params client truthful) ?_ ?_
    · rintro (fault | st) h' ⟨tried, own⟩
      · -- The table is connected anew, and the rest of the attempts are made behind that.
        refine .get_bind (.behind (calm_report _) (fun _ h₁ reported => ?_) fun _ _ reported =>
          ⟨(tried.behind reported.aside).mono (by omega), nofun⟩)
        have tried := tried.behind (t := t) reported.aside
        refine .behind ((asideLink t t).reconnect _) (fun s' h₂ again => ?_) fun _ _ again =>
          ⟨(tried.behind again).mono (by omega), nofun⟩
        have tried := tried.behind again
        have rest := ih s' (tried.shelved.truthful truthful)
        rw [message_of_clients tried.clients] at rest
        exact ⟨Nat.add_comm 1 (left + 1) ▸ tried.trans rest.1, rest.2⟩
      · exact ⟨tried.mono (by omega), fun st' e => by cases e; exact own st rfl⟩
    · rintro fault h' ⟨tried, -⟩
      exact ⟨tried.mono (by omega), nofun⟩

/-- A statement is executed on the session of a table. -/
theorem tried_execute {h : Host} (t : Nat) (sql : String) (params : List Value)
    (client : Option Nat) (truthful : h.Truthful) :
    Reaches (execute t sql params client) h fun r h' =>
      Tried t (h.message client sql params) (maxRetry + 1) r.toBool h h'
        ∧ ∀ st, r = .ok st → st < h'.statements.next ∧ (h'.statement st).sql = sql := by
  refine .behind (calm_requireSession t) (fun s h₁ required => ?_) fun _ _ required =>
    ⟨required.aside.tried _ _, nofun⟩
  have executed := tried_executeFrom t sql params client s maxRetry
    (required.shelved.truthful truthful)
  rw [message_of_clients required.clients] at executed
  exact ⟨required.aside.before executed.1, executed.2⟩

/-- A statement is executed and handed back, which cannot fail. -/
theorem tried_run {h : Host} (t : Nat) (sql : String) (params : List Value) (client : Option Nat)
    (truthful : h.Truthful) :
    Reaches (run t sql params client) h fun r h' =>
      Tried t (h.message client sql params) (maxRetry + 1) r.toBool h h' := by
  refine .bind (tried_execute t sql params client truthful) ?_ fun fault h' executed => executed.1
  rintro st h₁ ⟨tried, own⟩
  obtain ⟨known, own⟩ := own st rfl
  obtain ⟨_, succeeded⟩ := handBack_succeeds t st sql h₁
  rw [Reaches, succeeded]
  exact tried.behind (calm_handBack known own).aside

/-! ### Statements about rows -/

/-- The message of a statement about rows, as it is written on the session of a table. -/
def rowMessage (h : Host) (t : Nat) (client : Option Nat)
    (statement : Except Fault Sql.RowStatement) : Except Fault Sent := do
  let statement ← statement
  h.message client (statement.text (quoteFor h t) (h.table t).qualifiedName) statement.params

/-- A statement about rows is executed in the name of a table. -/
theorem tried_runRows {h : Host} (t : Nat) (client : Option Nat)
    (statement : Except Fault Sql.RowStatement) (truthful : h.Truthful) :
    Reaches (runRows t client statement) h fun r h' =>
      Tried t (rowMessage h t client statement) (maxRetry + 1) r.toBool h h' := by
  have untouched (m : Except Fault Sent) : Tried t m (maxRetry + 1) false h h :=
    ((aside t).refl h).tried _ _
  refine .bind_ofExcept (fun statement made => ?_) fun _ _ => untouched _
  subst made
  refine .get_bind (.get_bind (.bind_ofExcept (fun _ _ => ?_) fun _ _ => untouched _))
  -- The name of the link is put in before and taken out behind.
  rw [Reaches, act_inLink]
  have enter (g : Host) (link : Option String) : Aside t g { g with link } :=
    (Calm.link g link).aside
  have ran := tried_run t (statement.text (quoteFor h t) (h.table t).qualifiedName) statement.params
    client ((enter h (some (h.table t).name)).shelved.truthful truthful)
  exact (((enter h _).before ran).behind (enter _ h.link))

end Action

end LinkedTables
