import LinkedTables.Proofs.Calls
import LinkedTables.Proofs.CursorEnds
import LinkedTables.Proofs.Ownership

/-!
# Every result is closed once

A result is read by the caller that has a ticket for its statement, or by the cursor that holds it;
a request works for one holder at most (`Desk.Request.holder`), and leaves what others read alone
(`Desk.has_serve`). Between requests every result that was opened has been closed once, or is
being read by one holder and has not been closed (`results_of_desk`): so the results of a request
are closed when it ends, but for the one that its own cursor or caller goes on to read. That one is
closed with the request that ends the reading (`Desk.Request.ended?`), as nobody reads it from then
on (`Desk.not_reads_of_ended?`).
-/

namespace LinkedTables

/-! ### Cursors that are not read -/

/-- An operation that does not read a cursor leaves alone what the cursor uses. -/
theorem Operation.use?_of_perform {o : Operation} (uses : o.UsesTables) {c : Nat}
    (other : o.cursor? ≠ some c) (h : Host) :
    ((h.perform o).2.cursors.at? c).bind Cursor.use? = (h.cursors.at? c).bind Cursor.use? := by
  -- Nothing is asked of the lines.
  have free : LineLogic ((o.subject h).getD 0) fun _ _ => True := by
    constructor <;> intros <;> trivial
  refine (free.perform_beside (· ≠ c) (F := fun cs => (cs.at? c).bind Cursor.use? = _)
    (fun {cs cursor} same phase => ?_) (fun f other same => ?_) uses (fun c' own same => ?_)
    (fun t' subject => ?_) trivial rfl).2
  · -- A cursor that is opened uses nothing, as before.
    rw [← same, Roster.at?_join]
    split
    next e => rw [e, Roster.at?_next, Option.bind_some, Cursor.use?, phase, Option.bind_none]
    next => rfl
  · rw [Roster.at?_revise_of_ne f other, same]
  · exact other (own.trans (congrArg some same))
  · rw [subject, Option.getD_some]

/-! ### Probes -/

open LinkedTables.Action in
/-- The result of a probe that is answered is closed at once. -/
theorem journal_of_probe {h : Host} {s : Nat} {name table : String}
    {description : Option (List (List Value))} (answered : h.script.probe.1 = .ok description) :
    (h.act (Action.probe s name table)).2.journal
      = .resultClosed (h.session s).connection none
        :: .probed (h.session s).connection (Shape.probeText name) :: h.journal := by
  have closed : Reaches (Action.probe s name table) h fun _ h' =>
      h'.journal = .resultClosed (h.session s).connection none
        :: .probed (h.session s).connection (Shape.probeText name) :: h.journal := by
    refine .get_bind (.modify_bind (.fromScript_bind ?_))
    dsimp only
    rw [answered]
    refine .modify_bind (.get_bind ?_)
    -- Whether the columns can be told from the description comes after.
    generalize Probe.rows _ description = rows
    cases rows <;> rfl
  exact closed

/-! ### Requests -/

namespace Desk

/-- The holder that a request works for, if it works for one: the cursor that it reads, or the
caller whose ticket it gives or takes. -/
def Request.holder (d : Desk) : Request → Option Holder
  | .plain o _ => o.cursor?.map .cursor
  | .execute .. => some (.caller d.tickets.next)
  | .read ticket | .handBack _ ticket | .close ticket => some (.caller ticket)

/-- What a holder has between requests. -/
def has (d : Desk) : Holder → Option Use := holdings d.kept d.host.cursors

theorem has_perform (d : Desk) {o : Operation} (uses : o.UsesTables) {x : Holder}
    (other : o.cursor?.map Holder.cursor ≠ some x) :
    (d.perform Operation.perform o).2.has x = d.has x := by
  cases x with
  | caller ticket => rfl
  | cursor c =>
    refine Operation.use?_of_perform uses (fun own => other ?_) d.host
    rw [own, Option.map_some]

theorem has_redeem (d : Desk) {ticket : Nat} {x : Holder} (other : Holder.caller ticket ≠ x) :
    (d.redeem ticket).has x = d.has x := by
  rw [has, kept_redeem]
  show holdings _ d.host.cursors x = _
  rw [holdings_lend, handing_of_ne _ _ other.symm, has]

/-- Taking a ticket back and working with its statement concerns nobody but its holder. -/
theorem has_redeem_perform (d : Desk) {ticket : Nat} {o : Operation} (uses : o.UsesTables)
    (unread : o.cursor? = none) {x : Holder} (other : Holder.caller ticket ≠ x) :
    ((d.redeem ticket).perform Operation.perform o).2.has x = d.has x := by
  refine ((d.redeem ticket).has_perform uses ?_).trans (d.has_redeem other)
  rw [unread]
  nofun

/-- Nobody but the holder of a new ticket has anything else when it is given. -/
theorem has_issue (d : Desk) (sql : String) (p : Except Fault Reply × Host) {x : Holder}
    (other : Holder.caller d.tickets.next ≠ x) :
    (d.issue sql p).2.has x = ({ d with host := p.2 } : Desk).has x := by
  unfold issue
  split
  next st h =>
    show holdings (kept ⟨h, d.tickets.join _⟩) h.cursors x = _
    rw [kept_join _ h h, holdings_lend, handing_of_ne _ _ other.symm]
    rfl
  next => rfl

/-- A request leaves alone what those have for whom it does not work. -/
theorem has_serve (d : Desk) {request : Request} {x : Holder} (other : request.holder d ≠ some x) :
    (d.serve Operation.perform request).2.has x = d.has x := by
  cases request with
  | plain o plain => exact d.has_perform plain.usesTables other
  | execute t client sql params =>
    have other : Holder.caller d.tickets.next ≠ x := fun same => other (congrArg some same)
    refine (d.has_issue sql _ other).trans ?_
    exact d.has_perform (o := .execute t client sql params true) trivial nofun
  | read ticket =>
    unfold serve
    dsimp only
    split
    · exact d.has_perform (o := .fetchAll _) trivial nofun
    · rfl
  | handBack t ticket =>
    have other : Holder.caller ticket ≠ x := fun same => other (congrArg some same)
    unfold serve
    dsimp only
    split
    · exact d.has_redeem_perform (o := .handBack ..) trivial rfl other
    · rfl
  | close ticket =>
    have other : Holder.caller ticket ≠ x := fun same => other (congrArg some same)
    unfold serve
    dsimp only
    split
    · exact d.has_redeem_perform (o := .closeStatement _) trivial rfl other
    · rfl

/-! ### Readers -/

/-- A result is read by the caller that has a ticket for it, and by the cursor that holds it. -/
def Reads (d : Desk) : Holder → Nat → Prop
  | .caller ticket, r => ∃ u, d.kept ticket = some u ∧ u.result = r
  | .cursor c, r => ∃ st, (d.host.cursor c).phase = .reading st r

theorem reads_iff (d : Desk) (x : Holder) (r : Nat) :
    d.Reads x r ↔ ∃ u, d.has x = some u ∧ u.result = r := by
  cases x with
  | caller ticket => exact Iff.rfl
  | cursor c =>
    simp only [has, PairedIn.holdings_cursor, Cursor.use?_eq_some]
    constructor
    · rintro ⟨st, phase⟩
      exact ⟨⟨st, (d.host.cursor c).sql, r⟩, ⟨phase, rfl⟩, rfl⟩
    · rintro ⟨u, ⟨phase, -⟩, rfl⟩
      exact ⟨u.statement, phase⟩

theorem reads_serve (d : Desk) {request : Request} {x : Holder} (other : request.holder d ≠ some x)
    (r : Nat) : (d.serve Operation.perform request).2.Reads x r ↔ d.Reads x r := by
  rw [reads_iff, reads_iff, d.has_serve other]

end Desk

/-! ### Requests that end a reading -/

/-- However an operation comes out, the results that were opened before it are there. -/
theorem growing : LifeFrame fun h h' => h.results.next ≤ h'.results.next where
  refl _ := Nat.le_refl _
  trans := Nat.le_trans
  idle i _ := Nat.le_of_eq i.answered.symm
  answer _ := by
    rw [Roster.next_join]
    exact Nat.le_succ _
  joined := Nat.le_refl _
  link _ := Nat.le_refl _
  adopt _ _ := Nat.le_refl _
  forced := Nat.le_refl _
  settings _ := Nat.le_refl _
  removed := Nat.le_refl _

namespace Desk

theorem results_serve (d : Desk) (request : Request) :
    d.host.results.next ≤ (d.serve Operation.perform request).2.host.results.next := by
  obtain ⟨-, same⟩ | ⟨o, -, -, same⟩ := d.host_of_serve request
  · exact Nat.le_of_eq (congrArg (·.results.next) same).symm
  · rw [same]
    exact growing.operation o d.host

/-- The holder that is done with reading when a request comes to a reply: a cursor that has come to
its end, or a caller that hands its statement back or closes it. -/
def Request.ended? : Request → Except Fault Reply → Option Holder
  | .plain o _, reply => (o.ended? reply).map .cursor
  | .handBack _ ticket, _ | .close ticket, _ => some (.caller ticket)
  | .execute .., _ | .read _, _ => none

/-- A request ends nobody's reading but that of the holder for whom it works. -/
theorem Request.holder_of_ended? (d : Desk) {request : Request} {reply : Except Fault Reply}
    {x : Holder} (ends : request.ended? reply = some x) : request.holder d = some x := by
  cases request with
  | plain o plain =>
    obtain ⟨c, ended, rfl⟩ := Option.map_eq_some_iff.mp ends
    rw [holder, o.cursor?_of_ended? ended, Option.map_some]
  | handBack | close => exact ends
  | execute | read => cases ends

theorem not_reads_of_ended? (d : Desk) {request : Request} {x : Holder}
    (ends : request.ended? (d.serve Operation.perform request).1 = some x) (r : Nat) :
    ¬(d.serve Operation.perform request).2.Reads x r := by
  cases request with
  | plain o plain =>
    obtain ⟨c, ended, rfl⟩ := Option.map_eq_some_iff.mp ends
    rintro ⟨st, reading⟩
    cases (Host.phase_of_ended? (h := d.host) ended).symm.trans reading
  | handBack t ticket =>
    obtain rfl := Option.some.inj ends
    rintro ⟨u, kept, -⟩
    cases (kept_handBack Operation.perform d t ticket).symm.trans kept
  | close ticket =>
    obtain rfl := Option.some.inj ends
    rintro ⟨u, kept, -⟩
    cases (kept_close Operation.perform d ticket).symm.trans kept
  | execute | read => cases ends

end Desk

/-! ### The account -/

/-- How often a result was closed. -/
def Host.closings (h : Host) (r : Nat) : Nat := (h.journal.filterMap Event.closed?).count r

namespace Desk

/-- Every result that was opened has been closed once and is read by nobody, or has not been closed
and is read by one holder; no other result has been closed, or is read. -/
structure Settled (d : Desk) : Prop where
  opened : ∀ r, r < d.host.results.next →
    (d.host.closings r = 1 ∧ ∀ x, ¬d.Reads x r) ∨
      (d.host.closings r = 0 ∧ ∃ x, d.Reads x r ∧ ∀ y, d.Reads y r → y = x)
  others : ∀ r, d.host.results.next ≤ r → d.host.closings r = 0 ∧ ∀ x, ¬d.Reads x r

theorem settled_of_tally {d : Desk} (t : Tally (users none d.has) d.host.results.next
    (d.host.journal.filterMap Event.closed?)) : d.Settled := by
  have unclosed {x : Holder} {r : Nat} (reads : d.Reads x r) :
      r < d.host.results.next ∧ r ∉ d.host.journal.filterMap Event.closed? := by
    obtain ⟨u, hu, rfl⟩ := (d.reads_iff x r).mp reads
    exact t.unclosed (some x) u hu
  refine ⟨fun r isOpen => ?_, fun r unopened => ⟨?_, fun x reads => ?_⟩⟩
  · by_cases ended : r ∈ d.host.journal.filterMap Event.closed?
    · exact .inl ⟨t.once.count.trans (if_pos ended), fun x reads => (unclosed reads).2 ended⟩
    · obtain ⟨_ | x, u, hu, rfl⟩ := t.due r isOpen ended
      · cases hu
      refine .inr ⟨List.count_eq_zero_of_not_mem ended, x,
        (d.reads_iff x _).mpr ⟨u, hu, rfl⟩, fun y reads => ?_⟩
      obtain ⟨v, hv, same⟩ := (d.reads_iff y _).mp reads
      exact Option.some.inj (t.alone (some y) (some x) v u hv hu same)
  · refine List.count_eq_zero_of_not_mem fun ended => ?_
    exact Nat.not_lt.mpr unopened (t.begun r ended)
  · exact Nat.not_lt.mpr unopened (unclosed reads).1

theorem Settled.closings_of_reads {d : Desk} (settled : d.Settled) {x : Holder} {r : Nat}
    (reads : d.Reads x r) : d.host.closings r = 0 := by
  by_cases isOpen : r < d.host.results.next
  · obtain ⟨-, nobody⟩ | ⟨none, -⟩ := settled.opened r isOpen
    · exact absurd reads (nobody x)
    · exact none
  · exact (settled.others r (Nat.not_lt.mp isOpen)).1

/-- A result that was opened and that nobody reads has been closed once. -/
theorem Settled.closings_of_unread {d : Desk} (settled : d.Settled) {r : Nat}
    (isOpen : r < d.host.results.next) (unread : ∀ x, ¬d.Reads x r) : d.host.closings r = 1 := by
  obtain ⟨once, -⟩ | ⟨-, x, reads, -⟩ := settled.opened r isOpen
  · exact once
  · exact absurd reads (unread x)

theorem Settled.lt_of_reads {d : Desk} (settled : d.Settled) {x : Holder} {r : Nat}
    (reads : d.Reads x r) : r < d.host.results.next :=
  Nat.lt_of_not_le fun unopened => (settled.others r unopened).2 x reads

theorem Settled.reader_unique {d : Desk} (settled : d.Settled) {x y : Holder} {r : Nat}
    (reads : d.Reads x r) (reads' : d.Reads y r) : y = x := by
  obtain ⟨-, nobody⟩ | ⟨-, z, -, only⟩ := settled.opened r (settled.lt_of_reads reads)
  · exact absurd reads (nobody x)
  · exact (only y reads').trans (only x reads).symm

theorem settled_of_run (script : Remote.Script) (pool : Pool) (level : Level)
    (run : List Request) :
    ((opening (Host.start script pool level)).after Operation.perform run).Settled := by
  obtain ⟨-, a⟩ := (Alike.opening script pool level).run run
  exact settled_of_tally a.paired.tally

end Desk

open Desk Host in
/-- Behind every run of requests, on any pool and whatever the remote side answers:

* every result that was opened has been closed once, or has not been closed and is read by one
  holder;
* every result that a further request opens has been closed once when the request ends, unless it
  is what the holder reads for whom the request works;
* where the request ends the reading of a holder, as a cursor is given up, is read to its end, or
  has no next row or fails, or a caller is done with its statement, the holder reads nothing any
  more, and both what it has read and what the request has opened has been closed once;
* a result that is read is still read behind a request that works for another holder, and has not
  been closed.

The result of a query for the shape of a table, which nobody reads on, is closed at once. -/
theorem results_of_desk (script : Remote.Script) (pool : Pool) (level : Level)
    (run : List Desk.Request) :
    let d := (opening (start script pool level)).after Operation.perform run
    d.Settled ∧
    (∀ request, let d' := (d.serve Operation.perform request).2
      (∀ r, d.host.results.next ≤ r → r < d'.host.results.next →
        d'.host.closings r = 1 ∨ ∃ x, request.holder d = some x ∧ d'.Reads x r) ∧
      (∀ x, request.ended? (d.serve Operation.perform request).1 = some x →
        (∀ r, ¬d'.Reads x r) ∧ (∀ r, d.Reads x r → d'.host.closings r = 1) ∧
        ∀ r, d.host.results.next ≤ r → r < d'.host.results.next → d'.host.closings r = 1) ∧
      ∀ x r, request.holder d ≠ some x → d.Reads x r →
        d'.Reads x r ∧ d'.host.closings r = 0) ∧
    ∀ (h : Host) s name table description, h.script.probe.1 = .ok description →
      (h.act (Action.probe s name table)).2.journal
        = .resultClosed (h.session s).connection none
          :: .probed (h.session s).connection (Shape.probeText name) :: h.journal := by
  intro d
  have settled := settled_of_run script pool level run
  refine ⟨settled, fun request => ?_, fun h s name table description answered =>
    journal_of_probe answered⟩
  intro d'
  have settled' : d'.Settled := by
    have run' := settled_of_run script pool level (run ++ [request])
    rwa [Desk.after, List.foldl_append] at run'
  have opened (r : Nat) (unopened : d.host.results.next ≤ r) (isOpen : r < d'.host.results.next) :
      d'.host.closings r = 1 ∨ ∃ x, request.holder d = some x ∧ d'.Reads x r := by
    obtain ⟨once, -⟩ | ⟨-, x, reads, -⟩ := settled'.opened r isOpen
    · exact .inl once
    -- Nobody has read the result before the request.
    · refine .inr ⟨x, Classical.byContradiction fun other => ?_, reads⟩
      exact (settled.others r unopened).2 x ((d.reads_serve other r).mp reads)
  refine ⟨opened, fun x ends => ?_, fun x r other reads => ?_⟩
  · have unread := d.not_reads_of_ended? ends
    have holder := Request.holder_of_ended? d ends
    refine ⟨unread, fun r reads => ?_, fun r unopened isOpen => ?_⟩
    · have isOpen := Nat.lt_of_lt_of_le (settled.lt_of_reads reads) (d.results_serve request)
      refine settled'.closings_of_unread isOpen fun y reads' => ?_
      by_cases own : request.holder d = some y
      · obtain rfl := Option.some.inj (holder.symm.trans own)
        exact unread r reads'
      -- Another holder would have read the result before the request as well.
      · obtain rfl := settled.reader_unique reads ((d.reads_serve own r).mp reads')
        exact own holder
    · refine (opened r unopened isOpen).resolve_right ?_
      rintro ⟨y, same, reads⟩
      obtain rfl := Option.some.inj (holder.symm.trans same)
      exact unread r reads
  · have reads' := (d.reads_serve other r).mpr reads
    exact ⟨reads', settled'.closings_of_reads reads'⟩

open Desk in
/-- A cursor is read while its table connects anew and a row is added, and is then given up. -/
example :
    let rows := [.ok [.int 1], .ok [.int 2]]
    let d := (opening (Host.start { Remote.Script.quiet with answers := [.ok ⟨rows, false⟩] }
      (.bare true) .error)).after Operation.perform
        [.plain (.createTable (.bare "FIRST")) rfl, .plain (.openScan 0 none) trivial,
          .plain (.next 0) trivial, .plain (.reconnect 0 none) trivial,
          .plain (.addRow 0 none []) trivial]
    (d.host.cursor 0).phase = .reading 0 0 ∧ (d.host.session 0).closed = true ∧
      d.host.results.next = 2 ∧ d.host.closings 0 = 0 ∧ d.host.closings 1 = 1 ∧
      (d.serve Operation.perform (.plain (.closeCursor 0) trivial)).2.host.closings 0 = 1 := by
  decide +kernel

end LinkedTables
