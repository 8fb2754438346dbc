import LinkedTables.Proofs.ExecutionOnOwnSession
import LinkedTables.Proofs.TableInService
import Mathlib.Data.List.Induction

/-!
# The rows that executions fetch at a time

An execution asks the remote side for as many rows at a time as its statement was prepared with.
Behind any requests at a desk every statement comes from one of them, which has prepared it with the
number of rows that its table fetched at a time then (`Traced`). So each execution in a request asks
for the number of its own table, as it is now, if its statement is a new one, and for an earlier
number if its statement is one that was kept: that of the table itself, unless sessions are shared
(`fetchSize_of_executions`).
-/

namespace LinkedTables

open LinkedTables.Action (effectiveFetchSize)

/-- The options with which an event is sent: those of an execution that fetches so many rows at a
time. -/
def Event.options : Event → List Value
  | executed _ _ _ fetchSize => streamOptions fetchSize
  | _ => []

/-- The number of rows that an execution fetches at a time. -/
def Event.fetchSize? : Event → Option Int
  | executed _ _ _ fetchSize => some fetchSize
  | _ => none

theorem options_of_fetchSize {e : Event} {n : Int} (size : e.fetchSize? = some n) :
    e.options = streamOptions n := by
  cases e with
  | executed => exact congrArg streamOptions (Option.some.inj size)
  | _ => cases size

theorem Statement.Sends.options {statement : Statement} {e : Event} (sends : statement.Sends e) :
    e.options = streamOptions statement.fetchSize := by
  obtain ⟨connection, params, rfl⟩ := sends
  rfl

namespace Desk

/-! ### Where statements come from -/

/-- A request prepares a statement, for a table. -/
def Prepares (d : Desk) (request : Request) (st u : Nat) : Prop :=
  request.subject d = some u ∧ d.host.statements.next ≤ st ∧
    st < (d.serve Operation.perform request).2.host.statements.next

/-- A statement of the host behind a run of requests comes from one of them, which has prepared it
for a table with the number of rows that the table fetched at a time then. -/
def Source (begin : Desk) (run : List Request) (h : Host) (st u : Nat) : Prop :=
  ∃ before p later, run = before ++ p :: later ∧
    (begin.after Operation.perform before).Prepares p st u ∧
    (h.statement st).fetchSize
      = effectiveFetchSize ((begin.after Operation.perform before).host.table u)

/-- Every statement of the host behind a run of requests has its source, and unless sessions are
shared no table but that of the source holds its session. -/
structure Traced (begin : Desk) (run : List Request) (h : Host) : Prop where
  source : ∀ st, st < h.statements.next → ∃ u, begin.Source run h st u ∧
    (h.lines.shares = false → ∀ t, h.lines.heldBy t = some (h.statement st).session → t = u)
  placed : ∀ st, st < h.statements.next → (h.statement st).session < h.sessions.next
  known : h.lines.Known
  shares : h.lines.shares = begin.host.lines.shares
  single : h.lines.shares = false → ∀ t u s, h.lines.heldBy t = some s →
    h.lines.heldBy u = some s → t = u

variable {begin : Desk} {run : List Request} {h : Host}

/-- A statement keeps its source, whatever else is asked for. -/
theorem Source.later {h' : Host} {st u : Nat} (source : begin.Source run h st u)
    (same : (h'.statement st).origin = (h.statement st).origin) (request : Request) :
    begin.Source (run ++ [request]) h' st u := by
  obtain ⟨before, p, later, rfl, prepares, size⟩ := source
  refine ⟨before, p, later ++ [request], by simp, prepares, ?_⟩
  rw [fetchSize_of_origin same, size]

/-- What sessions keep and cursors read behind requests are statements in custody. -/
theorem Traced.orderly {script : Remote.Script} {pool : Pool} {level : Level}
    (traced : Traced begin run
      ((opening (Host.start script pool level)).after Operation.perform run).host) :
    ((opening (Host.start script pool level)).after Operation.perform run).host.Orderly where
  kept s sql st found := by
    obtain ⟨known, home, -⟩ := truthful_of_after script pool level run s sql st found
    exact ⟨known, home⟩
  read c st r phase := by
    obtain ⟨custody, -⟩ := follow script pool level run []
    obtain ⟨u, holds, rfl⟩ := (uses_iff _ (.cursor c) st).mp ⟨r, phase⟩
    obtain ⟨s, n, prepared⟩ := custody.lent _ u holds
    exact (List.getElem?_eq_some_iff.mp prepared).1
  placed := traced.placed
  known := traced.known

/-- What has been done for a table in a request keeps track of the statements, if the new ones come
from the request. -/
theorem Traced.dealt {h' : Host} {t : Nat} (traced : Traced begin run h) (deals : Deals t h h')
    (inLines : h'.lines.Known) (request : Request)
    (made : ∀ st, h.statements.next ≤ st → st < h'.statements.next →
      begin.Source (run ++ [request]) h' st t) : Traced begin (run ++ [request]) h' := by
  have shares := deals.lines.shares
  have opened := deals.lines.next
  rw [Host.lines_next, Host.lines_next] at opened
  -- A session that was there before is held by nobody who did not hold it.
  have before {u s : Nat} (there : s < h.sessions.next) (apart : h'.lines.shares = false)
      (held : h'.lines.heldBy u = some s) : h.lines.heldBy u = some s := by
    by_cases e : u = t
    · subst e
      refine (deals.lines.own s held (shares ▸ apart)).resolve_right ?_
      rw [Host.lines_next]
      omega
    · rw [← deals.lines.others u e, held]
  -- Other tables hold sessions that were there before.
  have old {u s : Nat} (other : u ≠ t) (held : h'.lines.heldBy u = some s) :
      s < h.sessions.next := by
    rw [deals.lines.others u other] at held
    rw [← h.lines_next]
    exact traced.known.held s (List.mem_of_getElem? (Lines.held_of_heldBy held))
  refine ⟨fun st known => ?_, fun st known => ?_, inLines, shares.trans traced.shares,
    fun apart u v s hu hv => ?_⟩
  · by_cases early : st < h.statements.next
    · obtain ⟨u, source, alone⟩ := traced.source st early
      refine ⟨u, source.later (deals.origin st early) request, fun apart v held => ?_⟩
      rw [session_of_origin (deals.origin st early)] at held
      exact alone (shares ▸ apart) v (before (traced.placed st early) apart held)
    · have new := Nat.not_lt.mp early
      obtain ⟨-, own, -⟩ := deals.made st new known
      refine ⟨t, made st new known, fun apart v held => ?_⟩
      -- Another table would have held the session before, as the table itself then did.
      by_cases e : v = t
      · exact e
      have there := old e held
      have held' := (own (shares ▸ apart)).resolve_right (by rw [Host.lines_next]; omega)
      exact traced.single (shares ▸ apart) v t _ (before there apart held) held'
  · by_cases early : st < h.statements.next
    · rw [session_of_origin (deals.origin st early)]
      exact Nat.lt_of_lt_of_le (traced.placed st early) opened
    · exact (deals.made st (Nat.not_lt.mp early) known).2.2
  · by_cases e : u = t
    · by_cases e' : v = t
      · rw [e, e']
      · have there := old e' hv
        exact traced.single (shares ▸ apart) u v s (before there apart hu) (before there apart hv)
    · have there := old e hu
      exact traced.single (shares ▸ apart) u v s (before there apart hu) (before there apart hv)

/-- What a request executes it executes with statements for its table, and behind it every statement
has its source. -/
theorem Traced.serve (traced : Traced begin run (begin.after Operation.perform run).host)
    (orderly : (begin.after Operation.perform run).host.Orderly) (request : Request) :
    let d := begin.after Operation.perform run
    let h' := (d.serve Operation.perform request).2.host
    Traced begin (run ++ [request]) h' ∧ ∃ new, h'.dispatches = new ++ d.host.dispatches ∧
      ∀ e ∈ new, ∃ t, request.subject d = some t ∧ ∃ st u, st < h'.statements.next ∧
        (h'.statement st).Sends e ∧ begin.Source (run ++ [request]) h' st u ∧
        (d.host.statements.next ≤ st → u = t) ∧ (d.host.lines.shares = false → u = t) := by
  intro d h'
  obtain ⟨-, same⟩ | ⟨o, found, uses, same⟩ := d.host_of_serve request
  · rw [show h' = d.host from same]
    have deals := (unsent.refl d.host).deals (.refl 0 d.host.lines)
    exact ⟨traced.dealt deals traced.known request fun _ old new =>
      absurd new (Nat.not_lt.mpr old), [], rfl, nofun⟩
  have named (t : Nat) : request.subject d = some t ↔ o.subject d.host = some t := by
    rw [Request.subject, found, Option.bind_some]
  generalize table : (o.subject d.host).getD 0 = t
  have mine (u : Nat) (subject : o.subject d.host = some u) : u = t := by
    rw [← table, subject]
    rfl
  have performed : h' = (d.host.perform o).2 := same
  have deals : Deals t d.host h' := performed ▸ Host.perform_deals uses orderly mine
  have known : h'.lines.Known :=
    performed ▸ (Lines.known_lineLogic t).perform uses mine orderly.known
  have unsent (none : o.subject d.host = none) : Unsent d.host h' :=
    performed ▸ Host.unsent_of_subjectless uses none
  have made (st : Nat) (old : d.host.statements.next ≤ st) (new : st < h'.statements.next) :
      begin.Source (run ++ [request]) h' st t := by
    refine ⟨run, request, [], rfl, ⟨(named t).mpr ?_, old, new⟩, (deals.made st old new).1⟩
    cases subject : o.subject d.host with
    | none => exact absurd ((unsent subject).next ▸ new) (Nat.not_lt.mpr old)
    | some u => rw [mine u subject]
  obtain ⟨new, sent, each⟩ := deals.sent
  refine ⟨traced.dealt deals known request made, new, sent, fun e among => ⟨t, ?_, ?_⟩⟩
  · rw [named]
    cases subject : o.subject d.host with
    | none =>
      rw [(unsent subject).dispatches, List.self_eq_append_left] at sent
      rw [sent] at among
      cases among
    | some u => rw [mine u subject]
  · obtain ⟨st, there, sends, own⟩ := each e among
    by_cases early : st < d.host.statements.next
    · obtain ⟨u, source, alone⟩ := traced.source st early
      refine ⟨st, u, there, sends, source.later (deals.origin st early) request,
        fun late => absurd early (Nat.not_lt.mpr late), fun apart => ?_⟩
      -- The session was the table's own before, which only the source of the statement has.
      rw [session_of_origin (deals.origin st early)] at own
      have placed := traced.placed st early
      have held := (own apart).resolve_right (by rw [Host.lines_next]; exact Nat.not_le.mpr placed)
      exact (alone apart t held).symm
    · exact ⟨st, t, there, sends, made st (Nat.not_lt.mp early) there, fun _ => rfl, fun _ => rfl⟩

/-- Nothing is there at the start. -/
theorem traced_opening (script : Remote.Script) {pool : Pool} (level : Level)
    (unused : pool.shared = []) :
    Traced (opening (Host.start script pool level)) [] (Host.start script pool level) where
  source st known := absurd known (Nat.not_lt_zero st)
  placed st known := absurd known (Nat.not_lt_zero st)
  known := by
    refine ⟨fun key s value => ?_, nofun⟩
    rw [show (Host.start script pool level).lines.shared = [] from unused] at value
    cases value
  shares := rfl
  single _ t u s held := by cases held

theorem after_snoc (does : Operation → Action Reply) (d : Desk) (run : List Request)
    (request : Request) :
    d.after does (run ++ [request]) = ((d.after does run).serve does request).2 := by
  rw [after, List.foldl_append]
  rfl

/-- Behind every run of requests every statement has its source. -/
theorem traced_of_run (script : Remote.Script) {pool : Pool} (level : Level)
    (unused : pool.shared = []) (run : List Request) :
    let begin := opening (Host.start script pool level)
    Traced begin run (begin.after Operation.perform run).host := by
  intro begin
  induction run using List.reverseRecOn with
  | nil => exact traced_opening script level unused
  | append_singleton run request ih =>
    rw [after_snoc]
    exact (ih.serve ih.orderly request).1

end Desk

open Desk in
/-- The hint of an execution is that of its statement. Behind every run of requests at a desk, on a
pool that shares sessions or not, with any tables whose fetch sizes may have been set to anything at
any time, everything that the next request executes is executed for its table, with a statement that
one of the requests so far, or this one, has prepared for a table: the options are those for the
number of rows that this table fetched at a time then, its own or the configured one, and none where
that was zero. It is the same table if the statement is prepared in this request, and so is its
number then, and always unless sessions are shared. -/
theorem fetchSize_of_executions (script : Remote.Script) {pool : Pool} (level : Level)
    (unused : pool.shared = []) (run : List Desk.Request) (request : Desk.Request) :
    let begin := opening (Host.start script pool level)
    let d := begin.after Operation.perform run
    let h' := (d.serve Operation.perform request).2.host
    ∃ new, h'.dispatches = new ++ d.host.dispatches ∧ ∀ e ∈ new, ∃ t,
      request.subject d = some t ∧ ∃ before p later st u, run ++ [request] = before ++ p :: later ∧
        (begin.after Operation.perform before).Prepares p st u ∧ (h'.statement st).Sends e ∧
        e.options = streamOptions
          (effectiveFetchSize ((begin.after Operation.perform before).host.table u)) ∧
        (later = [] → u = t) ∧ (pool.shares = false → u = t) := by
  intro begin d h'
  have traced := traced_of_run script level unused run
  obtain ⟨-, new, sent, each⟩ := traced.serve traced.orderly request
  refine ⟨new, sent, fun e among => ?_⟩
  obtain ⟨t, subject, st, u, -, sends, ⟨before, p, later, whole, prepares, size⟩, now, alone⟩ :=
    each e among
  refine ⟨t, subject, before, p, later, st, u, whole, prepares, sends, ?_, ?_, ?_⟩
  · rw [sends.options, size]
  · rintro rfl
    obtain ⟨rfl, -⟩ := List.append_inj' whole rfl
    exact now prepares.2.1
  · exact fun apart => alone (traced.shares.trans apart)

open Desk in
/-- Two tables share a session: the second executes a statement that the session has kept for the
first, with the number of rows that the first one fetched at a time then. -/
theorem fetchSize_of_shared_statement :
    let begin := opening (Host.start .quiet (.bare true) .error)
    let ping (t : Nat) : Desk.Request := .plain (.execute t none "PING" [] false) rfl
    let run := [.plain (.createTable (.bare "FIRST")) rfl,
      .plain (.createTable (.bare "SECOND")) rfl, .plain (.setFetchSize 0 7) trivial, ping 0]
    let d := begin.after Operation.perform run
    let h' := (d.serve Operation.perform (ping 1)).2.host
    (Pool.bare true).shared = [] ∧
      h'.dispatches.map Event.fetchSize? = [some 7, some 7] ∧
      ∃ new, h'.dispatches = new ++ d.host.dispatches ∧ ∀ e ∈ new, ∃ t,
        (ping 1).subject d = some t ∧ ∃ before p later st u,
          run ++ [ping 1] = before ++ p :: later ∧
          (begin.after Operation.perform before).Prepares p st u ∧ (h'.statement st).Sends e ∧
          e.options = streamOptions
            (effectiveFetchSize ((begin.after Operation.perform before).host.table u)) ∧
          (later = [] → u = t) ∧ ((Pool.bare true).shares = false → u = t) := by
  intro begin ping run d h'
  exact ⟨rfl, by decide +kernel, fetchSize_of_executions .quiet .error rfl run (ping 1)⟩

open Desk in
/-- A table executes the same text before and after its fetch size is set: the second execution has
the options of the first, as its statement is the same. -/
theorem options_of_earlier_size :
    let begin := opening (Host.start .quiet (.bare false) .error)
    let ping : Desk.Request := .plain (.execute 0 none "PING" [] false) rfl
    let d := begin.after Operation.perform
      [.plain (.createTable (.bare "FIRST")) rfl, ping, .plain (.setFetchSize 0 7) trivial]
    let h' := (d.serve Operation.perform ping).2.host
    ping.subject d = some 0 ∧ ∃ new, h'.dispatches = new ++ d.host.dispatches ∧
      ∃ e ∈ new, e.options ≠ streamOptions (effectiveFetchSize (d.host.table 0)) := by
  intro begin ping d h'
  have traced := traced_of_run .quiet .error (rfl : (Pool.bare false).shared = [])
    [.plain (.createTable (.bare "FIRST")) rfl, ping, .plain (.setFetchSize 0 7) trivial]
  obtain ⟨-, new, sent, -⟩ := traced.serve traced.orderly ping
  have before : d.host.dispatches.map Event.fetchSize? = [some 100] := by decide +kernel
  have behind : h'.dispatches.map Event.fetchSize? = [some 100] ++ [some 100] := by decide +kernel
  have now : effectiveFetchSize (d.host.table 0) = 7 := by decide +kernel
  refine ⟨by decide +kernel, new, sent, ?_⟩
  rw [show h'.dispatches = new ++ d.host.dispatches from sent, List.map_append, before,
    List.append_left_inj] at behind
  obtain ⟨e, rfl, size⟩ := List.map_eq_singleton_iff.mp behind
  refine ⟨e, List.mem_singleton_self e, ?_⟩
  rw [options_of_fetchSize size, now]
  simp [streamOptions]

end LinkedTables
