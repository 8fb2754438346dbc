import LinkedTables.Proofs.Desk

/-!
# The owners of statements

Between the requests at a desk a statement is used by one holder, or waits in the cache of the
session that prepared it, or is nobody's any more. A session that has been closed stays closed and
keeps nothing, and a statement of it that is still in use can only be closed: it never comes into a
cache again (`statements_of_desk`).
-/

namespace LinkedTables

namespace Host

/-- What is on no shelf is in the cache of no session. -/
theorem not_cached {h : Host} {st : Nat} (off : h.shelves.Off st) (s : Nat) (sql : String) :
    (sql, st) ∉ (h.session s).cache :=
  fun mem => off s _ (shelf_of_mem mem) sql mem

end Host

namespace Custody

variable {watch : Watch} {held : Holder → Option Use} {l : Shelves}

/-- A statement that is followed is in no cache. -/
theorem off_of_watched (k : Custody watch none held l) {x : Holder} {st : Nat}
    (w : watch.statements x st) : l.Off st := by
  obtain ⟨statement, hst, -, closed | ⟨u, rfl, holds⟩⟩ := k.late x st w
  · intro s shelf hs sql mem
    obtain ⟨n, idle⟩ := k.idle s shelf hs sql st mem
    rw [hst] at idle
    rw [Option.some.inj idle] at closed
    cases closed
  · exact k.off (k.lent x u (holds.resolve_right nofun))

end Custody

namespace Desk

/-- A statement is used by the caller that has a ticket for it, and by the cursor that reads it. -/
def Uses (d : Desk) : Holder → Nat → Prop
  | .caller ticket, st => ∃ u, d.kept ticket = some u ∧ u.statement = st
  | .cursor c, st => ∃ r, (d.host.cursor c).phase = .reading st r

theorem uses_iff (d : Desk) (x : Holder) (st : Nat) :
    d.Uses x st ↔ ∃ u, holdings d.kept d.host.cursors x = some u ∧ u.statement = st := by
  cases x with
  | caller ticket => exact Iff.rfl
  | cursor c =>
    simp only [PairedIn.holdings_cursor, Cursor.use?_eq_some]
    constructor
    · rintro ⟨r, phase⟩
      exact ⟨⟨st, (d.host.cursor c).sql, r⟩, ⟨phase, rfl⟩, rfl⟩
    · rintro ⟨u, ⟨phase, -⟩, rfl⟩
      exact ⟨u.result, phase⟩

/-- The statements of a host behind requests are in custody. -/
def InCustody (watch : Watch) (d : Desk) : Prop :=
  Custody watch none (holdings d.kept d.host.cursors) d.host.shelves

/-- Whatever is closed now can be followed through later requests. -/
theorem follow (script : Remote.Script) (pool : Pool) (level : Level) (run later : List Request) :
    let d := (opening (Host.start script pool level)).after Operation.perform run
    d.InCustody .nothing ∧ (d.after Operation.perform later).InCustody
      (Custody.watchOf (holdings d.kept d.host.cursors) d.host.shelves) := by
  intro d
  obtain ⟨-, a⟩ := (Alike.opening script pool level).run run
  -- The run is followed from its end on: what is closed there is watched from then on.
  obtain ⟨agree, cursors, cursors', left, right, bare, tally⟩ := a.paired
  have followed : Alike (Custody.watchOf (holdings d.kept d.host.cursors) d.host.shelves) d _ :=
    ⟨⟨agree, cursors, cursors', left.follow, right, bare, tally⟩, a.same, a.next⟩
  obtain ⟨-, b⟩ := followed.run later
  exact ⟨left, b.paired.left⟩

/-- A ticket that is redeemed for some work with its statement is good for nothing any more. -/
theorem kept_redeemed (does : Operation → Action Reply) (d : Desk) (ticket : Nat)
    (work : Use → Operation) :
    (match d.kept ticket with
      | some u => (d.redeem ticket).perform does (work u)
      | none => (.ok .done, d)).2.kept ticket = none := by
  split
  next u hu =>
    show (d.redeem ticket).kept ticket = none
    rw [kept_redeem]
    exact if_pos rfl
  next none_left => exact none_left

theorem kept_handBack (does : Operation → Action Reply) (d : Desk) (t ticket : Nat) :
    (d.serve does (.handBack t ticket)).2.kept ticket = none :=
  kept_redeemed does d ticket fun u => .handBack t u.statement u.sql

theorem kept_close (does : Operation → Action Reply) (d : Desk) (ticket : Nat) :
    (d.serve does (.close ticket)).2.kept ticket = none :=
  kept_redeemed does d ticket fun u => .closeStatement u.statement

end Desk

open Desk Host in
/-- Behind every run of requests, on any pool and whatever the remote side answers:

* every statement that a session keeps was prepared by that session for the text under which it is
  kept, is not closed, and has no result;
* a statement that a caller or a cursor uses is kept by no session, and has no other user;
* a session that is closed is closed, and keeps nothing, behind every later run too;
* a statement in use whose session is closed is kept by no session behind any later run, and is
  closed once its user no longer uses it; in particular when a caller hands it back. -/
theorem statements_of_desk (script : Remote.Script) (pool : Pool) (level : Level)
    (run later : List Desk.Request) :
    let d := (opening (start script pool level)).after Operation.perform run
    let d' := d.after Operation.perform later
    (∀ s sql st, (sql, st) ∈ (d.host.session s).cache → ∃ statement,
      d.host.statements.at? st = some statement ∧ statement.session = s ∧ statement.sql = sql ∧
        statement.closed = false ∧ statement.result = none) ∧
    (∀ x st, d.Uses x st → (∀ s sql, (sql, st) ∉ (d.host.session s).cache) ∧
      ∀ y, d.Uses y st → y = x) ∧
    (∀ s, (d.host.session s).closed = true →
      (d'.host.session s).closed = true ∧ (d'.host.session s).cache = []) ∧
    ∀ x st, d.Uses x st → (d.host.session (d.host.statement st).session).closed = true →
      (∀ s sql, (sql, st) ∉ (d'.host.session s).cache) ∧
      (d'.Uses x st ∨ (d'.host.statement st).closed = true) ∧
      ∀ t ticket, x = .caller ticket →
        ((d.serve Operation.perform (.handBack t ticket)).2.host.statement st).closed = true := by
  intro d d'
  obtain ⟨k, k'⟩ := follow script pool level run later
  have watched {x : Holder} {st : Nat} (uses : d.Uses x st)
      (closed : (d.host.session (d.host.statement st).session).closed = true) :
      (Custody.watchOf (holdings d.kept d.host.cursors) d.host.shelves).statements x st := by
    obtain ⟨u, hu, rfl⟩ := (d.uses_iff x st).mp uses
    obtain ⟨s, n, busy⟩ := k.lent x u hu
    refine ⟨u, hu, rfl, d.host.statement u.statement, _, ?_, shelf_of_closed closed, closed⟩
    rw [statement_of_at? busy]
    exact busy
  -- What becomes of a statement that is followed, behind any requests.
  have late {later : List Desk.Request} {x : Holder} {st : Nat}
      (k' : (d.after Operation.perform later).InCustody
        (Custody.watchOf (holdings d.kept d.host.cursors) d.host.shelves))
      (w : (Custody.watchOf (holdings d.kept d.host.cursors) d.host.shelves).statements x st) :
      (d.after Operation.perform later).Uses x st ∨
        ((d.after Operation.perform later).host.statement st).closed = true := by
    obtain ⟨statement, hst, -, closed | ⟨u, rfl, holds⟩⟩ := k'.late x st w
    · exact .inr (by rw [statement_of_at? hst, closed])
    · exact .inl ((uses_iff _ x _).mpr ⟨u, holds.resolve_right nofun, rfl⟩)
  refine ⟨fun s sql st mem => ?_, fun x st uses => ⟨?_, fun y uses' => ?_⟩, fun s closed => ?_,
    fun x st uses closed => ⟨?_, late k' (watched uses closed), fun t ticket caller => ?_⟩⟩
  · obtain ⟨n, idle⟩ := k.idle s _ (shelf_of_mem mem) sql st mem
    exact ⟨_, idle, rfl, rfl, rfl, rfl⟩
  · obtain ⟨u, hu, rfl⟩ := (d.uses_iff x st).mp uses
    exact not_cached (k.off (k.lent x u hu))
  · obtain ⟨u, hu, rfl⟩ := (d.uses_iff x st).mp uses
    obtain ⟨v, hv, same⟩ := (d.uses_iff y _).mp uses'
    exact k.alone y x v u hv hu same
  · obtain ⟨shelf, hs, closed'⟩ := k'.stays s ⟨_, shelf_of_closed closed, closed⟩
    have idle := k'.cleared s shelf hs closed'
    rw [← session_of_shelf hs] at closed' idle
    exact ⟨closed', idle⟩
  · exact not_cached (k'.off_of_watched (watched uses closed))
  · -- Once the statement has been handed back, its caller does not use it any more.
    subst caller
    obtain ⟨-, k''⟩ := follow script pool level run [.handBack t ticket]
    refine (late k'' (watched uses closed)).resolve_left ?_
    rintro ⟨u, hu, -⟩
    rw [show (d.after Operation.perform [.handBack t ticket]).kept ticket = none from
      kept_handBack Operation.perform d t ticket] at hu
    cases hu

open Desk in
/-- A caller keeps a statement while its table connects anew, and hands it back too late. -/
example :
    let d := (opening (Host.start .quiet (.bare true) .error)).after Operation.perform
      [.plain (.createTable (.bare "FIRST")) rfl, .execute 0 none "PING" [],
        .plain (.reconnect 0 none) trivial]
    d.kept 0 = some ⟨0, "PING", 0⟩ ∧ (d.host.session 0).closed = true ∧
      (d.host.statement 0).closed = false ∧
      ((d.serve Operation.perform (.handBack 0 0)).2.host.statement 0).closed = true := by
  decide +kernel

end LinkedTables
