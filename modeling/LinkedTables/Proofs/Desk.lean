import LinkedTables.Proofs.CustodyLogic
import LinkedTables.Proofs.LineLogic

/-!
# A desk for statements

At a `Desk`, whoever executes a statement may keep it and gets a ticket for it. With the ticket the
rows of the statement are read, and the statement is handed back, under the text under which it was
executed, or closed; a ticket that has been redeemed is good for nothing. Everything else that is
asked for is a plain operation.

The cache of statements cannot be noticed at a desk: every request has the reply that it has with an
executor that keeps no statements, and the remote side sees the same events
(`replies_of_fresh_statements`).
-/

namespace LinkedTables

/-- A host, with the statements that callers keep, by ticket. -/
structure Desk where
  host : Host
  /-- The statement of each ticket, until it is redeemed. -/
  tickets : Roster (Option Use)

/-- What can be asked for at a desk. -/
inductive Desk.Request where
  | plain (o : Operation) (plain : o.Plain)
  /-- A statement is executed, to be kept by the caller. -/
  | execute (t : Nat) (client : Option Nat) (sql : String) (params : List Value)
  /-- All rows still to come of a statement that is kept. -/
  | read (ticket : Nat)
  | handBack (t ticket : Nat)
  | close (ticket : Nat)

namespace Desk

/-- The statement of a ticket that has not been redeemed. -/
def kept (d : Desk) (ticket : Nat) : Option Use := (d.tickets.at? ticket).getD none

/-- A desk at which nothing has been asked for. -/
def opening (h : Host) : Desk := ⟨h, []⟩

/-- Does an operation for a desk. -/
def perform (does : Operation → Action Reply) (d : Desk) (o : Operation) :
    Except Fault Reply × Desk :=
  ((d.host.act (does o)).1, { d with host := (d.host.act (does o)).2 })

/-- Takes a ticket back. -/
def redeem (d : Desk) (ticket : Nat) : Desk :=
  { d with tickets := d.tickets.revise ticket fun _ => none }

/-- Gives a ticket for a statement that has been executed. -/
def issue (d : Desk) (sql : String) : Except Fault Reply × Host → Except Fault Reply × Desk
  | (.ok (.statement (some st)), h) =>
    (.ok (.statement (some d.tickets.next)),
      ⟨h, d.tickets.join (some ⟨st, sql, (h.statement st).result.getD 0⟩)⟩)
  | (r, h) => (r, { d with host := h })

/-- Answers a request, where operations are done in a given way. -/
def serve (does : Operation → Action Reply) (d : Desk) : Request → Except Fault Reply × Desk
  | .plain o _ => d.perform does o
  | .execute t client sql params =>
    d.issue sql (d.host.act (does (.execute t client sql params true)))
  | .read ticket =>
    match d.kept ticket with
    | some u => d.perform does (.fetchAll u.result)
    | none => (.ok .done, d)
  | .handBack t ticket =>
    match d.kept ticket with
    | some u => (d.redeem ticket).perform does (.handBack t u.statement u.sql)
    | none => (.ok .done, d)
  | .close ticket =>
    match d.kept ticket with
    | some u => (d.redeem ticket).perform does (.closeStatement u.statement)
    | none => (.ok .done, d)

/-- The desk behind a run of requests. -/
def after (does : Operation → Action Reply) (d : Desk) (run : List Request) : Desk :=
  run.foldl (fun d request => (d.serve does request).2) d

/-- The replies to a run of requests. -/
def replies (does : Operation → Action Reply) : Desk → List Request → List (Except Fault Reply)
  | _, [] => []
  | d, request :: run =>
    (d.serve does request).1 :: replies does (d.serve does request).2 run

/-! ### Requests as operations -/

/-- The operation that a request comes to; a ticket that is good for nothing comes to none. -/
def Request.operation? (d : Desk) : Request → Option Operation
  | plain o _ => some o
  | execute t client sql params => some (.execute t client sql params true)
  | read ticket => (d.kept ticket).map fun u => .fetchAll u.result
  | handBack t ticket => (d.kept ticket).map fun u => .handBack t u.statement u.sql
  | close ticket => (d.kept ticket).map fun u => .closeStatement u.statement

/-- The table that a request works for. -/
def Request.subject (d : Desk) (request : Request) : Option Nat :=
  (request.operation? d).bind (·.subject d.host)

theorem host_of_issue (d : Desk) (sql : String) (p : Except Fault Reply × Host) :
    (d.issue sql p).2.host = p.2 := by
  unfold issue
  split <;> rfl

/-- A request does an operation on the host, or nothing. -/
theorem host_of_serve (d : Desk) (request : Request) :
    (request.operation? d = none ∧ (d.serve Operation.perform request).2.host = d.host) ∨
      ∃ o, request.operation? d = some o ∧ o.UsesTables ∧
        (d.serve Operation.perform request).2.host = (d.host.perform o).2 := by
  cases request with
  | plain o plain => exact .inr ⟨o, rfl, plain.usesTables, rfl⟩
  | execute t client sql params => exact .inr ⟨_, rfl, trivial, d.host_of_issue sql _⟩
  | read ticket =>
    simp only [serve, Request.operation?]
    cases d.kept ticket with
    | none => exact .inl ⟨rfl, rfl⟩
    | some u => exact .inr ⟨_, rfl, trivial, rfl⟩
  | handBack t ticket =>
    simp only [serve, Request.operation?]
    cases d.kept ticket with
    | none => exact .inl ⟨rfl, rfl⟩
    | some u => exact .inr ⟨_, rfl, trivial, rfl⟩
  | close ticket =>
    simp only [serve, Request.operation?]
    cases d.kept ticket with
    | none => exact .inl ⟨rfl, rfl⟩
    | some u => exact .inr ⟨_, rfl, trivial, rfl⟩

/-! ### Tickets -/

theorem issue_error (d : Desk) (sql : String) (fault : Fault) (h : Host) :
    d.issue sql (.error fault, h) = (.error fault, { d with host := h }) := rfl

theorem issue_statement (d : Desk) (sql : String) {h : Host} {s st r : Nat} {n : Int}
    (ha : h.statements.at? st = some ⟨s, sql, n, some r, false⟩) :
    d.issue sql (.ok (.statement (some st)), h)
      = (.ok (.statement (some d.tickets.next)), ⟨h, d.tickets.join (some ⟨st, sql, r⟩)⟩) := by
  rw [issue, Host.statement_of_at? ha, Option.getD_some]

theorem kept_redeem (d : Desk) (ticket : Nat) :
    (d.redeem ticket).kept = fun k => if k = ticket then none else d.kept k := by
  funext k
  unfold kept redeem
  by_cases e : k = ticket
  · subst e
    rw [if_pos rfl, Roster.at?_revise_self]
    cases d.tickets.at? k <;> rfl
  · rw [if_neg e, Roster.at?_revise_of_ne _ (Ne.symm e)]

/-- A new ticket is good for its statement. -/
theorem kept_join (tickets : Roster (Option Use)) (h h' : Host) (u : Option Use) :
    kept ⟨h, tickets.join u⟩ = fun k => if k = tickets.next then u else kept ⟨h', tickets⟩ k := by
  funext k
  unfold kept
  rw [Roster.at?_join]
  split <;> rfl

/-- A ticket that has not been given is good for nothing. -/
theorem kept_next (d : Desk) : d.kept d.tickets.next = none := by
  rw [kept, Roster.at?_next]
  rfl

/-! ### Two desks -/

/-- What a caller can tell of a statement: the text, and the result. -/
def look (u : Use) : String × Nat := (u.sql, u.result)

/-- Desks whose hosts are paired; a ticket is good for the same on both sides. -/
structure Alike (watch : Watch) (d d' : Desk) : Prop where
  paired : PairedIn watch d.kept d'.kept .settled d.host d'.host
  same : ∀ ticket, (d.kept ticket).map look = (d'.kept ticket).map look
  next : d.tickets.next = d'.tickets.next

namespace Alike

open LinkedTables.Action

variable {watch : Watch} {d d' : Desk}

/-- A ticket is good for nothing on both sides, or for a statement on each. -/
theorem cases (a : Alike watch d d') (ticket : Nat) :
    (d.kept ticket = none ∧ d'.kept ticket = none) ∨
      ∃ sql r st st', d.kept ticket = some ⟨st, sql, r⟩ ∧ d'.kept ticket = some ⟨st', sql, r⟩ := by
  have same := a.same ticket
  cases hu : d.kept ticket with
  | none =>
    rw [hu] at same
    exact .inl ⟨rfl, Option.map_eq_none_iff.mp same.symm⟩
  | some u =>
    rw [hu] at same
    obtain ⟨u', hu', look⟩ := Option.map_eq_some_iff.mp same.symm
    obtain ⟨sql, r⟩ := Prod.mk.inj look
    exact .inr ⟨u.sql, u.result, u.statement, u'.statement, rfl, by rw [hu', ← sql, ← r]⟩

/-- Both sides give the same reply, and the desks behind it are alike. -/
def Answers (watch : Watch) (p p' : Except Fault Reply × Desk) : Prop :=
  p.1 = p'.1 ∧ Alike watch p.2 p'.2

/-- Work that comes to the same on both sides keeps desks alike. -/
theorem perform (d d' : Desk) {R : Host → Host → Prop} {x y : Action Reply}
    (r : R d.host d'.host)
    (hx : Leads R x y (fun _ => PairedIn watch d.kept d'.kept .settled)
      (PairedIn watch d.kept d'.kept .settled))
    (same : ∀ ticket, (d.kept ticket).map look = (d'.kept ticket).map look)
    (next : d.tickets.next = d'.tickets.next) :
    Answers watch ((d.host.act x).1, { d with host := (d.host.act x).2 })
      ((d'.host.act y).1, { d' with host := (d'.host.act y).2 }) := by
  have ends := hx r
  generalize d.host.act x = p, d'.host.act y = p' at ends ⊢
  obtain ⟨r, h⟩ := p
  obtain ⟨r', g⟩ := p'
  cases ends with
  | value q => exact ⟨congrArg Except.ok q.1, q.2, same, next⟩
  | fault e => exact ⟨rfl, e, same, next⟩

theorem plain (a : Alike watch d d') {o : Operation} (plain : o.Plain) :
    Answers watch (d.perform Operation.perform o) (d'.perform Executor.fresh.perform o) := by
  have logic := (PairedIn.cursorLogic watch d.kept d'.kept
    ((o.subject d.host).getD 0)).perform plain fun _ _ => trivial
  rw [Executor.perform_cached] at logic
  refine perform d d' ⟨a.paired, fun t' subject => ?_⟩ logic a.same a.next
  rw [subject]
  rfl

/-- A ticket is given on both sides for the statement that was executed. -/
theorem issue (a : Alike watch d d') {h g : Host} {sql : String} {r st st' : Nat}
    (busy : PairedIn watch d.kept d'.kept (.busy sql r st st') h g) :
    Alike watch ⟨h, d.tickets.join (some ⟨st, sql, r⟩)⟩
      ⟨g, d'.tickets.join (some ⟨st', sql, r⟩)⟩ where
  paired := by
    have free : holdings d.kept h.cursors (.caller d.tickets.next) = none := d.kept_next
    have free' : holdings d'.kept g.cursors (.caller d.tickets.next) = none := by
      rw [a.next]
      exact d'.kept_next
    -- The new ticket is the same on both sides, as equally many have been given.
    have lent := busy.1.lend free free' busy.2
    rw [← holdings_lend, ← holdings_lend] at lent
    rw [kept_join _ _ d.host, kept_join _ _ d'.host, ← a.next]
    exact lent
  same ticket := by
    rw [kept_join _ _ d.host, kept_join _ _ d'.host, ← a.next]
    show Option.map look (if ticket = d.tickets.next then _ else d.kept ticket)
      = Option.map look (if ticket = d.tickets.next then _ else d'.kept ticket)
    split
    · rfl
    · exact a.same ticket
  next := by rw [Roster.next_join, Roster.next_join, a.next]

/-- A statement that is executed gets the same ticket on both sides. -/
theorem execute (a : Alike watch d d') (t : Nat) (client : Option Nat) (sql : String)
    (params : List Value) :
    Answers watch (d.serve Operation.perform (.execute t client sql params))
      (d'.serve Executor.fresh.perform (.execute t client sql params)) := by
  have l := (PairedIn.cursorLogic watch d.kept d'.kept t).plain
  have executed : Coupled (PairedIn watch d.kept d'.kept .settled)
      (Executor.cached.perform (.execute t client sql params true))
      (Executor.fresh.perform (.execute t client sql params true))
      (fun reply reply' h g => ∃ r st st', reply = .statement (some st) ∧
        reply' = .statement (some st') ∧ PairedIn watch d.kept d'.kept (.busy sql r st st') h g)
      (PairedIn watch d.kept d'.kept .settled) := by
    refine Coupled.bind (l.executeKept client sql params) fun kept kept' => Coupled.of_pure ?_
    rintro h g ⟨r, st, st', rfl, rfl, busy⟩
    exact ⟨r, st, st', rfl, rfl, busy⟩
  rw [Executor.perform_cached] at executed
  have ends := executed a.paired
  -- From here on only the two outcomes matter, not how they came about.
  show Answers watch
    (d.issue sql (d.host.act (Operation.perform (.execute t client sql params true))))
    (d'.issue sql (d'.host.act (Executor.fresh.perform (.execute t client sql params true))))
  generalize d.host.act (Operation.perform (.execute t client sql params true)) = p,
    d'.host.act (Executor.fresh.perform (.execute t client sql params true)) = p' at ends ⊢
  obtain ⟨reply, h⟩ := p
  obtain ⟨reply', g⟩ := p'
  cases ends with
  | fault e =>
    rw [issue_error, issue_error]
    exact ⟨rfl, e, a.same, a.next⟩
  | value q =>
    obtain ⟨r, st, st', rfl, rfl, busy⟩ := q
    obtain ⟨s, n, ha⟩ := busy.1.busy
    obtain ⟨s', n', hb⟩ := busy.1.busy'
    rw [issue_statement d sql ha, issue_statement d' sql hb, a.next]
    exact ⟨rfl, a.next ▸ a.issue busy⟩

/-- What is kept is taken back on both sides, and given to work that is done with it. -/
theorem redeem (a : Alike watch d d') {ticket st st' r : Nat} {sql : String}
    (hu : d.kept ticket = some ⟨st, sql, r⟩) (hu' : d'.kept ticket = some ⟨st', sql, r⟩)
    {does does' : Operation → Action Reply} {o o' : Operation}
    (hx : Leads
      (PairedIn watch (d.redeem ticket).kept (d'.redeem ticket).kept (.spent sql r st st'))
      (does o) (does' o')
      (fun _ => PairedIn watch (d.redeem ticket).kept (d'.redeem ticket).kept .settled)
      (PairedIn watch (d.redeem ticket).kept (d'.redeem ticket).kept .settled)) :
    Answers watch ((d.redeem ticket).perform does o) ((d'.redeem ticket).perform does' o') := by
  refine perform (d.redeem ticket) (d'.redeem ticket) ?_ hx (fun k => ?_) ?_
  · have taken := Paired.redeem (x := .caller ticket) a.paired hu hu'
    rw [← holdings_lend, ← holdings_lend] at taken
    rw [kept_redeem, kept_redeem]
    exact taken
  · rw [kept_redeem, kept_redeem]
    dsimp only
    split
    · rfl
    · exact a.same k
  · simp only [Desk.redeem, Roster.next_revise, a.next]

/-- Every request has the same reply on both sides. -/
theorem serve (a : Alike watch d d') (request : Request) :
    Answers watch (d.serve Operation.perform request)
      (d'.serve Executor.fresh.perform request) := by
  cases request with
  | plain o plain => exact a.plain plain
  | execute t client sql params => exact a.execute t client sql params
  | read ticket =>
    obtain ⟨hu, hu'⟩ | ⟨sql, r, st, st', hu, hu'⟩ := a.cases ticket
    · simp only [Desk.serve, hu, hu']
      exact ⟨rfl, a⟩
    · simp only [Desk.serve, hu, hu']
      exact a.plain (o := .fetchAll r) trivial
  | handBack t ticket =>
    obtain ⟨hu, hu'⟩ | ⟨sql, r, st, st', hu, hu'⟩ := a.cases ticket
    · simp only [Desk.serve, hu, hu']
      exact ⟨rfl, a⟩
    · -- The statement has left its caller, and is about to be handed back.
      simp only [Desk.serve, hu, hu']
      have l := (PairedIn.cursorLogic watch (d.redeem ticket).kept (d'.redeem ticket).kept t).plain
      exact a.redeem hu hu' (Coupled.silently (l.handBack sql r st st'))
  | close ticket =>
    obtain ⟨hu, hu'⟩ | ⟨sql, r, st, st', hu, hu'⟩ := a.cases ticket
    · simp only [Desk.serve, hu, hu']
      exact ⟨rfl, a⟩
    · simp only [Desk.serve, hu, hu']
      -- Closing does not depend on a table.
      have l := (PairedIn.cursorLogic watch (d.redeem ticket).kept (d'.redeem ticket).kept 0).plain
      exact a.redeem hu hu' (Coupled.silently (l.close sql r st st'))

/-- Every run of requests has the same replies on both sides, and leaves the desks alike. -/
theorem run (a : Alike watch d d') (run : List Request) :
    d.replies Operation.perform run = d'.replies Executor.fresh.perform run ∧
      Alike watch (d.after Operation.perform run) (d'.after Executor.fresh.perform run) := by
  induction run generalizing d d' with
  | nil => exact ⟨rfl, a⟩
  | cons request run ih =>
    obtain ⟨reply, behind⟩ := a.serve request
    obtain ⟨rest, last⟩ := ih behind
    exact ⟨by rw [replies, replies, reply, rest], last⟩

/-- Two desks at the start. -/
theorem opening (script : Remote.Script) (pool : Pool) (level : Level) :
    Alike .nothing (opening (Host.start script pool level))
      (Desk.opening (Host.start script pool level)) where
  paired :=
    { agree := rfl
      cursors := rfl
      cursors' := rfl
      left := Custody.start fun x => by cases x <;> rfl
      right := Custody.start fun x => by cases x <;> rfl
      bare := nofun
      tally := Tally.start fun x => by cases x <;> rfl }
  same _ := rfl
  next := rfl

end Alike

end Desk

open Desk in
/-- Keeping idle statements cannot be noticed: for every run of requests on the tables of a host,
whatever the remote side answers, the replies are those of an executor that prepares a new statement
for each attempt and closes it when it is handed back; and the remote side sees the same events, up
to the number of rows to fetch at a time. -/
theorem replies_of_fresh_statements (script : Remote.Script) (pool : Pool) (level : Level)
    (run : List Desk.Request) :
    let d := opening (Host.start script pool level)
    d.replies Operation.perform run = d.replies Executor.fresh.perform run ∧
      (d.after Operation.perform run).host.journal.map Event.outline
        = (d.after Executor.fresh.perform run).host.journal.map Event.outline := by
  intro d
  obtain ⟨replies, alike⟩ := (Alike.opening script pool level).run run
  exact ⟨replies, congrArg Host.journal alike.paired.agree⟩

open Desk in
/-- A statement is executed a second time with the one that was handed back. -/
example :
    let d := opening (Host.start .quiet (.bare true) .error)
    let run := [.plain (.createTable (.bare "FIRST")) rfl,
      .plain (.execute 0 none "PING" [] false) rfl, .plain (.execute 0 none "PING" [] false) rfl]
    (d.after Operation.perform run).host.statements.next = 1 ∧
      (d.after Executor.fresh.perform run).host.statements.next = 2 := by decide +kernel

end LinkedTables
