import LinkedTables.Proofs.Outline

/-!
# The custody of statements

A statement that has been executed is in the hands of one user until it is handed back or closed:
of the work that is going on, of a caller, or of a cursor. Idle statements wait in the cache of the
session that prepared them, each under its own text, without a result. `Custody` says so of the
shelves of a host, for what the users have in hand; each step of the work on statements keeps it
(`restate`, `prepare`, `reshelve`, `lend`, `redeem`).

To follow sessions and statements through a run, a `Watch` names sessions that are closed, which
must stay closed, and statements of such sessions with their holders: each must stay with its holder
until it is closed.
-/

namespace LinkedTables

/-- A statement in use: the text under which it was executed, and the result that it has open. -/
structure Use where
  statement : Nat
  sql : String
  result : Nat
deriving DecidableEq

/-- Who may hold a statement between operations. -/
inductive Holder where
  | caller (ticket : Nat)
  | cursor (c : Nat)
deriving DecidableEq

/-- Sessions that are closed, and statements of closed sessions with those who hold them. -/
structure Watch where
  sessions : Nat → Prop
  statements : Holder → Nat → Prop

/-- Nothing is followed. -/
def Watch.nothing : Watch := ⟨fun _ => False, fun _ _ => False⟩

/-- What the holders have, with another use or none for one of them. -/
def handing (held : Holder → Option Use) (x : Holder) (u : Option Use) : Holder → Option Use :=
  fun y => if y = x then u else held y

theorem handing_self (held : Holder → Option Use) (x : Holder) (u : Option Use) :
    handing held x u x = u := if_pos rfl

theorem handing_of_ne {x y : Holder} (held : Holder → Option Use) (u : Option Use) (h : y ≠ x) :
    handing held x u y = held y := if_neg h

/-- A holder that is given nothing has nothing. -/
theorem handing_none {held : Holder → Option Use} {x y : Holder} {u : Use}
    (h : handing held x none y = some u) : y ≠ x ∧ held y = some u := by
  by_cases e : y = x
  · rw [e, handing_self] at h
    cases h
  · rw [handing_of_ne held none e] at h
    exact ⟨e, h⟩

/-- Only the holder that is given a statement has it. -/
theorem handing_some {held : Holder → Option Use} {x y : Holder} {u v : Use}
    (h : handing held x (some u) y = some v) : y = x ∧ v = u ∨ y ≠ x ∧ held y = some v := by
  by_cases e : y = x
  · rw [e, handing_self] at h
    exact .inl ⟨e, (Option.some.inj h).symm⟩
  · rw [handing_of_ne held (some u) e] at h
    exact .inr ⟨e, h⟩

/-- A holder that has nothing may be given nothing. -/
theorem handing_eq {held : Holder → Option Use} {x : Holder} (h : held x = none) :
    handing held x none = held := by
  funext y
  by_cases e : y = x
  · rw [e, handing_self, h]
  · rw [handing_of_ne held none e]

/-- What a cursor uses while it is read. -/
def Cursor.use? (cursor : Cursor) : Option Use :=
  match cursor.phase with
  | .reading st r => some ⟨st, cursor.sql, r⟩
  | _ => none

theorem Cursor.use?_eq_some {cursor : Cursor} {u : Use} : cursor.use? = some u ↔
    cursor.phase = .reading u.statement u.result ∧ cursor.sql = u.sql := by
  unfold use?
  split
  next st r phase =>
    rw [phase]
    constructor
    · rintro ⟨⟩
      exact ⟨rfl, rfl⟩
    · obtain ⟨st', sql, r'⟩ := u
      rintro ⟨⟨⟩, rfl⟩
      rfl
  next idle => exact ⟨nofun, fun reads => absurd reads.1 (idle _ _)⟩

/-- What the callers have, by ticket, and what the cursors have. -/
def holdings (lent : Nat → Option Use) (cs : Roster Cursor) : Holder → Option Use
  | .caller ticket => lent ticket
  | .cursor c => (cs.at? c).bind Cursor.use?

/-- A cursor that is opened uses nothing yet. -/
theorem holdings_join (lent : Nat → Option Use) (cs : Roster Cursor) {cursor : Cursor}
    (unused : cursor.use? = none) : holdings lent (cs.join cursor) = holdings lent cs := by
  funext x
  cases x with
  | caller ticket => rfl
  | cursor c =>
    show ((cs.join cursor).at? c).bind Cursor.use? = (cs.at? c).bind Cursor.use?
    rw [Roster.at?_join]
    split
    next e => rw [e, Roster.at?_next, Option.bind_some, unused, Option.bind_none]
    next => rfl

/-- Only the cursor that changes uses something else. -/
theorem holdings_revise (lent : Nat → Option Use) (cs : Roster Cursor) (c : Nat)
    (f : Cursor → Cursor) : holdings lent (cs.revise c f)
      = handing (holdings lent cs) (.cursor c) ((cs.at? c).bind fun cursor => (f cursor).use?) := by
  funext x
  cases x with
  | caller ticket =>
    have hne : Holder.caller ticket ≠ .cursor c := nofun
    rw [handing_of_ne _ _ hne]
    rfl
  | cursor c' =>
    show ((cs.revise c f).at? c').bind Cursor.use? = _
    by_cases e : c = c'
    · subst e
      rw [Roster.at?_revise_self, handing_self, Option.bind_map]
      rfl
    · have hne : Holder.cursor c' ≠ .cursor c := fun k => e (Holder.cursor.inj k).symm
      rw [Roster.at?_revise_of_ne f e, handing_of_ne _ _ hne]
      rfl

/-- What is given to a caller. -/
theorem holdings_lend (lent : Nat → Option Use) (cs : Roster Cursor) (ticket : Nat)
    (u : Option Use) : holdings (fun k => if k = ticket then u else lent k) cs
      = handing (holdings lent cs) (.caller ticket) u := by
  funext x
  cases x with
  | caller k =>
    by_cases e : k = ticket
    · subst e
      rw [handing_self]
      exact if_pos rfl
    · have hne : Holder.caller k ≠ .caller ticket := fun same => e (Holder.caller.inj same)
      rw [handing_of_ne _ _ hne]
      exact if_neg e
  | cursor c =>
    have hne : Holder.cursor c ≠ .caller ticket := nofun
    rw [handing_of_ne _ _ hne]
    rfl

namespace Shelves

/-- A statement has been prepared on a session for a text; it has no result and is not closed. -/
def Prepared (l : Shelves) (s : Nat) (sql : String) (st : Nat) : Prop :=
  ∃ n, l.statements.at? st = some ⟨s, sql, n, none, false⟩

/-- A statement is in no cache. -/
def Off (l : Shelves) (st : Nat) : Prop :=
  ∀ s shelf, l.sessions.at? s = some shelf → ∀ sql, (sql, st) ∉ shelf.idle

/-- A statement has been prepared, and is in no cache. -/
def Ready (l : Shelves) (s : Nat) (sql : String) (st : Nat) : Prop := l.Prepared s sql st ∧ l.Off st

/-- A statement has its result open. -/
def InUse (l : Shelves) (u : Use) : Prop :=
  ∃ s n, l.statements.at? u.statement = some ⟨s, u.sql, n, some u.result, false⟩

/-- The shelves with another state for a statement. -/
def restated (l : Shelves) (st : Nat) (statement : Statement) : Shelves :=
  { l with statements := l.statements.revise st fun _ => statement }

/-- The shelves with one more statement. -/
def withPrepared (l : Shelves) (s : Nat) (sql : String) (n : Int) : Shelves :=
  { l with statements := l.statements.join ⟨s, sql, n, none, false⟩ }

/-- The shelves with a session changed. -/
def reshelved (l : Shelves) (s : Nat) (f : Shelf → Shelf) : Shelves :=
  { l with sessions := l.sessions.revise s f }

/-- The shelves with one more session. -/
def withShelf (l : Shelves) : Shelves := { l with sessions := l.sessions.join ⟨false, []⟩ }

end Shelves

/-- Every idle statement was prepared on its session for the text under which it is kept, and has no
result; every statement in use has its result open and one user; a closed session keeps nothing. -/
structure Custody (watch : Watch) (run : Option Use) (held : Holder → Option Use) (l : Shelves) :
    Prop where
  cleared : ∀ s shelf, l.sessions.at? s = some shelf → shelf.closed = true → shelf.idle = []
  unique : ∀ s shelf, l.sessions.at? s = some shelf → (shelf.idle.map (·.1)).Nodup
  idle : ∀ s shelf, l.sessions.at? s = some shelf → ∀ sql st, (sql, st) ∈ shelf.idle →
    l.Prepared s sql st
  working : ∀ u, run = some u → l.InUse u
  lent : ∀ x u, held x = some u → l.InUse u
  alone : ∀ x y u v, held x = some u → held y = some v → u.statement = v.statement → x = y
  apart : ∀ x u v, run = some u → held x = some v → u.statement ≠ v.statement
  stays : ∀ s, watch.sessions s → ∃ shelf, l.sessions.at? s = some shelf ∧ shelf.closed = true
  late : ∀ x st, watch.statements x st → ∃ statement, l.statements.at? st = some statement ∧
    watch.sessions statement.session ∧
    (statement.closed = true ∨ ∃ u, u.statement = st ∧ (held x = some u ∨ run = some u))

namespace Custody

variable {watch : Watch} {run run' : Option Use} {held : Holder → Option Use} {l : Shelves}
  (k : Custody watch run held l)
include k

/-- Custody depends on the sessions and the statements only. -/
theorem of_shelves {l' : Shelves} (sessions : l'.sessions = l.sessions)
    (statements : l'.statements = l.statements) : Custody watch run held l' := by
  obtain ⟨sessions', statements', _, _, _⟩ := l'
  obtain rfl : sessions' = l.sessions := sessions
  obtain rfl : statements' = l.statements := statements
  exact ⟨k.cleared, k.unique, k.idle, k.working, k.lent, k.alone, k.apart, k.stays, k.late⟩

/-! ### What is known of a statement -/

/-- A statement that has a result open is in no cache. -/
theorem off {u : Use} (h : l.InUse u) : l.Off u.statement := by
  intro s shelf hs sql mem
  obtain ⟨n, idle⟩ := k.idle s shelf hs sql _ mem
  obtain ⟨s', n', busy⟩ := h
  rw [busy] at idle
  cases idle

/-- A statement without a result is in nobody's hands. -/
theorem free {st : Nat} {a : Statement} (ha : l.statements.at? st = some a)
    (none : a.result = none) {x : Holder} {u : Use} (hu : held x = some u) : u.statement ≠ st := by
  rintro rfl
  obtain ⟨s, n, busy⟩ := k.lent x u hu
  rw [busy] at ha
  rw [← Option.some.inj ha] at none
  cases none

/-- A statement without a result that is not closed is not followed. -/
theorem unwatched {s st : Nat} {sql : String} (h : l.Prepared s sql st) (x : Holder) :
    ¬watch.statements x st := by
  intro w
  obtain ⟨n, prepared⟩ := h
  obtain ⟨statement, hst, -, closed | ⟨u, rfl, hu⟩⟩ := k.late x st w
  · rw [prepared] at hst
    obtain rfl := Option.some.inj hst
    cases closed
  · obtain ⟨s', n', busy⟩ := hu.elim (k.lent x u) (k.working u)
    rw [busy] at prepared
    cases prepared

/-! ### Changes of a statement -/

/-- A statement that only the work may use changes its state, and the work its use. -/
theorem restate {st : Nat} {a b : Statement} (ha : l.statements.at? st = some a) (off : l.Off st)
    (same : b.session = a.session) (mine : ∀ u, run = some u → u.statement = st)
    (others : ∀ x u, held x = some u → u.statement ≠ st)
    (now : ∀ u, run' = some u → u.statement = st ∧
      ∃ n, b = ⟨a.session, u.sql, n, some u.result, false⟩)
    (late : ∀ x, watch.statements x st → b.closed = true) :
    Custody watch run' held (l.restated st b) where
  cleared := k.cleared
  unique := k.unique
  idle s shelf hs sql st' mem := by
    -- An idle statement is another one, as this one is in no cache.
    obtain ⟨n, idle⟩ := k.idle s shelf hs sql st' mem
    have hne : st ≠ st' := by
      rintro rfl
      exact off s shelf hs sql mem
    exact ⟨n, by rw [Shelves.restated, Roster.at?_revise_of_ne _ hne, idle]⟩
  working u hu := by
    obtain ⟨rfl, n, rfl⟩ := now u hu
    exact ⟨a.session, n, by rw [Shelves.restated, Roster.at?_revise_self, ha]; rfl⟩
  lent x u hu := by
    obtain ⟨s, n, busy⟩ := k.lent x u hu
    refine ⟨s, n, ?_⟩
    rw [Shelves.restated, Roster.at?_revise_of_ne _ (others x u hu).symm, busy]
  alone := k.alone
  apart x u v hu hv e := others x v hv (e.symm.trans (now u hu).1)
  stays := k.stays
  late x st' w := by
    obtain ⟨statement, hst, gone, rest⟩ := k.late x st' w
    by_cases e : st = st'
    · subst e
      obtain rfl := Option.some.inj (ha.symm.trans hst)
      refine ⟨b, by rw [Shelves.restated, Roster.at?_revise_self, ha]; rfl, ?_, .inl (late x w)⟩
      rw [same]
      exact gone
    · -- The work used this statement at most, so that another one is still with its holder.
      refine ⟨statement, by rw [Shelves.restated, Roster.at?_revise_of_ne _ e, hst], gone, ?_⟩
      refine rest.imp_right fun ⟨u, hu, holds⟩ => ⟨u, hu, .inl (holds.resolve_right fun r => ?_)⟩
      exact e ((mine u r).symm.trans hu)

/-- A statement without a result is closed. -/
theorem close {st : Nat} {a : Statement} (ha : l.statements.at? st = some a)
    (none : a.result = none) (off : l.Off st) (idle : run = Option.none) :
    Custody watch Option.none held (l.restated st { a with closed := true }) :=
  k.restate ha off rfl (fun u hu => by rw [idle] at hu; cases hu) (fun x u => k.free ha none) nofun
    fun _ _ => rfl

/-- A statement is executed and opens a result. -/
theorem execute {s st : Nat} {sql : String} {n : Int}
    (ha : l.statements.at? st = some ⟨s, sql, n, none, false⟩) (off : l.Off st)
    (idle : run = none) (r : Nat) :
    Custody watch (some ⟨st, sql, r⟩) held (l.restated st ⟨s, sql, n, some r, false⟩) := by
  refine k.restate ha off rfl (fun u hu => by rw [idle] at hu; cases hu) (fun x u => k.free ha rfl)
    (fun u hu => ?_) fun x w => absurd w (k.unwatched ⟨n, ha⟩ x)
  obtain rfl := Option.some.inj hu
  exact ⟨rfl, n, rfl⟩

/-- The work is done with its statement, whose result is closed. -/
theorem finish {s st r : Nat} {sql : String} {n : Int} {closed : Bool}
    (hrun : run = some ⟨st, sql, r⟩) (ha : l.statements.at? st = some ⟨s, sql, n, some r, false⟩)
    (late : ∀ x, watch.statements x st → closed = true) :
    Custody watch none held (l.restated st ⟨s, sql, n, none, closed⟩) := by
  have off : l.Off st := k.off (u := ⟨st, sql, r⟩) ⟨s, n, ha⟩
  refine k.restate ha off rfl (fun u hu => ?_) (fun x u hu e => ?_) nofun late
  · rw [← Option.some.inj (hrun.symm.trans hu)]
  · exact k.apart x _ u hrun hu e.symm

/-- A statement of a session that is open is not followed. -/
theorem unwatched_of_open {st : Nat} {a : Statement} (ha : l.statements.at? st = some a)
    (isOpen : ∀ shelf, l.sessions.at? a.session = some shelf → shelf.closed = false) (x : Holder) :
    ¬watch.statements x st := by
  intro w
  obtain ⟨statement, hst, gone, -⟩ := k.late x st w
  obtain rfl := Option.some.inj (ha.symm.trans hst)
  obtain ⟨shelf, hs, closed⟩ := k.stays a.session gone
  exact absurd ((isOpen shelf hs).symm.trans closed) Bool.false_ne_true

/-- One more statement is prepared. -/
theorem prepare (s : Nat) (sql : String) (n : Int) :
    Custody watch run held (l.withPrepared s sql n) where
  cleared := k.cleared
  unique := k.unique
  idle s' shelf hs sql' st mem := by
    obtain ⟨n', idle⟩ := k.idle s' shelf hs sql' st mem
    exact ⟨n', Roster.at?_join_of_some idle _⟩
  working u hu := by
    obtain ⟨s', n', busy⟩ := k.working u hu
    exact ⟨s', n', Roster.at?_join_of_some busy _⟩
  lent x u hu := by
    obtain ⟨s', n', busy⟩ := k.lent x u hu
    exact ⟨s', n', Roster.at?_join_of_some busy _⟩
  alone := k.alone
  apart := k.apart
  stays := k.stays
  late x st w := by
    obtain ⟨statement, hst, rest⟩ := k.late x st w
    exact ⟨statement, Roster.at?_join_of_some hst _, rest⟩

/-- A statement that has just been prepared is in no cache. -/
theorem off_next (s : Nat) (sql : String) (n : Int) :
    (l.withPrepared s sql n).Off l.statements.next := by
  intro s' shelf hs sql' mem
  obtain ⟨n', idle⟩ := k.idle s' shelf hs sql' _ mem
  rw [Roster.at?_next] at idle
  cases idle

/-! ### Changes of a session -/

/-- A session changes what it keeps, or is closed. -/
theorem reshelve {s : Nat} {f : Shelf → Shelf}
    (hf : ∀ shelf, l.sessions.at? s = some shelf →
      (shelf.closed = true → (f shelf).closed = true) ∧
      ((f shelf).closed = true → (f shelf).idle = []) ∧
      ((f shelf).idle.map (·.1)).Nodup ∧
      ∀ sql st, (sql, st) ∈ (f shelf).idle → l.Prepared s sql st) :
    Custody watch run held (l.reshelved s f) := by
  -- Each session is either another, or the one that changes.
  have found {s' : Nat} {shelf : Shelf} (hs : (l.reshelved s f).sessions.at? s' = some shelf) :
      l.sessions.at? s' = some shelf ∨
        s' = s ∧ ∃ before, l.sessions.at? s = some before ∧ shelf = f before := by
    rw [Shelves.reshelved, Roster.at?_revise] at hs
    split at hs
    next e =>
      subst e
      obtain ⟨before, hb, rfl⟩ := Option.map_eq_some_iff.mp hs
      exact .inr ⟨rfl, before, hb, rfl⟩
    next => exact .inl hs
  refine
    { cleared := fun s' shelf hs closed => ?_, unique := fun s' shelf hs => ?_,
      idle := fun s' shelf hs sql st mem => ?_, working := k.working, lent := k.lent,
      alone := k.alone, apart := k.apart, stays := fun s' w => ?_, late := k.late }
  · obtain hs | ⟨rfl, before, hb, rfl⟩ := found hs
    · exact k.cleared s' shelf hs closed
    · exact (hf before hb).2.1 closed
  · obtain hs | ⟨rfl, before, hb, rfl⟩ := found hs
    · exact k.unique s' shelf hs
    · exact (hf before hb).2.2.1
  · obtain hs | ⟨rfl, before, hb, rfl⟩ := found hs
    · exact k.idle s' shelf hs sql st mem
    · exact (hf before hb).2.2.2 sql st mem
  · obtain ⟨shelf, hs, closed⟩ := k.stays s' w
    by_cases e : s = s'
    · subst e
      refine ⟨f shelf, ?_, (hf shelf hs).1 closed⟩
      rw [Shelves.reshelved, Roster.at?_revise_self, hs]
      rfl
    · exact ⟨shelf, by rw [Shelves.reshelved, Roster.at?_revise_of_ne _ e, hs], closed⟩

/-- One more session is opened. -/
theorem openShelf : Custody watch run held l.withShelf := by
  have found {s : Nat} {shelf : Shelf} (hs : l.withShelf.sessions.at? s = some shelf) :
      l.sessions.at? s = some shelf ∨ shelf = ⟨false, []⟩ := by
    rw [Shelves.withShelf, Roster.at?_join] at hs
    split at hs
    · exact .inr (Option.some.inj hs).symm
    · exact .inl hs
  refine
    { cleared := fun s shelf hs closed => ?_, unique := fun s shelf hs => ?_,
      idle := fun s shelf hs sql st mem => ?_, working := k.working, lent := k.lent,
      alone := k.alone, apart := k.apart, stays := fun s w => ?_, late := k.late }
  · obtain hs | rfl := found hs
    · exact k.cleared s shelf hs closed
    · rfl
  · obtain hs | rfl := found hs
    · exact k.unique s shelf hs
    · exact List.nodup_nil
  · obtain hs | rfl := found hs
    · exact k.idle s shelf hs sql st mem
    · cases mem
  · obtain ⟨shelf, hs, closed⟩ := k.stays s w
    exact ⟨shelf, Roster.at?_join_of_some hs _, closed⟩

/-- The statement of a text is taken from what a session keeps. -/
theorem takeShelf (s : Nat) (sql : String) :
    Custody watch run held
      (l.reshelved s fun shelf => { shelf with idle := shelf.idle.drop sql }) := by
  refine k.reshelve fun shelf hs => ⟨id, fun closed => ?_, ?_, fun sql' st mem => ?_⟩
  · show shelf.idle.drop sql = []
    rw [k.cleared s shelf hs closed]
    rfl
  · exact Ledger.unique_drop (k.unique s shelf hs) sql
  · exact k.idle s shelf hs sql' st (Ledger.mem_drop mem).1

/-- A statement that has been taken is in no cache. -/
theorem off_take {s st : Nat} {sql : String} {shelf : Shelf}
    (hs : l.sessions.at? s = some shelf) (found : shelf.idle.value? sql = some st) :
    l.Prepared s sql st ∧
      (l.reshelved s fun shelf => { shelf with idle := shelf.idle.drop sql }).Off st := by
  have prepared := k.idle s shelf hs sql st (Ledger.mem_of_value? found)
  refine ⟨prepared, fun s' shelf' hs' sql' mem => ?_⟩
  -- A statement knows the session and the text for which it was prepared.
  have same {s' : Nat} {sql' : String} {shelf' : Shelf} (hs' : l.sessions.at? s' = some shelf')
      (mem : (sql', st) ∈ shelf'.idle) : s' = s ∧ sql' = sql := by
    obtain ⟨n, idle⟩ := prepared
    obtain ⟨n', idle'⟩ := k.idle s' shelf' hs' sql' st mem
    rw [idle] at idle'
    cases idle'
    exact ⟨rfl, rfl⟩
  rw [Shelves.reshelved, Roster.at?_revise] at hs'
  split at hs'
  next e =>
    subst e
    rw [hs] at hs'
    obtain rfl := Option.some.inj hs'
    obtain ⟨mem, hne⟩ := Ledger.mem_drop mem
    exact hne (same hs mem).2
  next e => exact e (same hs' mem).1.symm

/-- A statement without a result is kept by its session, which is open. -/
theorem putShelf {s st : Nat} {sql : String} (prepared : l.Prepared s sql st)
    (isOpen : ∀ shelf, l.sessions.at? s = some shelf → shelf.closed = false) :
    Custody watch run held
      (l.reshelved s fun shelf => { shelf with idle := shelf.idle.put sql st }) := by
  refine k.reshelve fun shelf hs => ⟨id, fun closed => ?_, ?_, fun sql' st' mem => ?_⟩
  · exact absurd ((isOpen shelf hs).symm.trans closed) Bool.false_ne_true
  · exact Ledger.unique_put (k.unique s shelf hs) sql st
  · obtain e | mem := Ledger.mem_put mem
    · cases e
      exact prepared
    · exact k.idle s shelf hs sql' st' mem

/-- The statement that was kept before is in no cache any more. -/
theorem off_put {s st previous : Nat} {sql : String} {shelf : Shelf}
    (hs : l.sessions.at? s = some shelf) (found : shelf.idle.value? sql = some previous)
    (other : previous ≠ st) :
    l.Prepared s sql previous ∧
      (l.reshelved s fun shelf => { shelf with idle := shelf.idle.put sql st }).Off previous := by
  obtain ⟨prepared, off⟩ := k.off_take hs found
  refine ⟨prepared, fun s' shelf' hs' sql' mem => ?_⟩
  rw [Shelves.reshelved, Roster.at?_revise] at hs'
  split at hs'
  next e =>
    subst e
    rw [hs] at hs'
    obtain rfl := Option.some.inj hs'
    -- In the ledger the new statement has the place of the previous one.
    have mem : (sql', previous) ∈ shelf.idle.put sql st := mem
    obtain e | ⟨mem, hne⟩ := Ledger.mem_put_of_unique (k.unique s shelf hs) mem
    · exact other (Prod.mk.inj e).2
    · refine off s { shelf with idle := shelf.idle.drop sql } ?_ sql' ?_
      · rw [Shelves.reshelved, Roster.at?_revise_self, hs]
        rfl
      · exact List.mem_filter.mpr ⟨mem, by simpa using hne⟩
  next e =>
    refine off s' shelf' ?_ sql' mem
    rw [Shelves.reshelved, Roster.at?_revise_of_ne _ e, hs']

/-- A session is closed and keeps nothing any more. -/
theorem closeShelf (s : Nat) : Custody watch run held (l.reshelved s fun _ => ⟨true, []⟩) :=
  k.reshelve fun _ _ => ⟨fun _ => rfl, fun _ => rfl, List.nodup_nil, nofun⟩

/-- What a session has kept is in no cache when it is closed. -/
theorem off_close {s st : Nat} {sql : String} {shelf : Shelf}
    (hs : l.sessions.at? s = some shelf) (mem : (sql, st) ∈ shelf.idle) :
    (l.reshelved s fun _ => ⟨true, []⟩).Off st := by
  intro s' shelf' hs' sql' mem'
  rw [Shelves.reshelved, Roster.at?_revise] at hs'
  split at hs'
  next e =>
    subst e
    rw [hs] at hs'
    obtain rfl := Option.some.inj hs'
    cases mem'
  next e =>
    obtain ⟨n, idle⟩ := k.idle s shelf hs sql st mem
    obtain ⟨n', idle'⟩ := k.idle s' shelf' hs' sql' st mem'
    rw [idle] at idle'
    cases idle'
    exact e rfl

/-! ### Passing statements on -/

omit k in
/-- The work leaves its statement with a holder that has none. -/
theorem lend {x : Holder} {u : Use} (k : Custody watch (some u) held l) (free : held x = none)
    (unwatched : ∀ y, ¬watch.statements y u.statement) :
    Custody watch none (handing held x (some u)) l where
  cleared := k.cleared
  unique := k.unique
  idle := k.idle
  working := nofun
  lent y v hv := by
    obtain ⟨-, rfl⟩ | ⟨-, hv⟩ := handing_some hv
    · exact k.working v rfl
    · exact k.lent y v hv
  alone y z v w hv hw e := by
    -- The holder has what the work had, which was nobody else's.
    obtain ⟨rfl, rfl⟩ | ⟨-, hv'⟩ := handing_some hv
    · obtain ⟨rfl, -⟩ | ⟨-, hw'⟩ := handing_some hw
      · rfl
      · exact absurd e (k.apart z v w rfl hw')
    · obtain ⟨rfl, rfl⟩ | ⟨-, hw'⟩ := handing_some hw
      · exact absurd e.symm (k.apart y w v rfl hv')
      · exact k.alone y z v w hv' hw' e
  apart := nofun
  stays := k.stays
  late y st w := by
    obtain ⟨statement, hst, gone, rest⟩ := k.late y st w
    refine ⟨statement, hst, gone, rest.imp_right fun ⟨v, hv, holds⟩ => ⟨v, hv, .inl ?_⟩⟩
    rcases holds with holds | holds
    · have hne : y ≠ x := by
        rintro rfl
        rw [free] at holds
        cases holds
      rw [handing_of_ne held _ hne, holds]
    · obtain rfl := Option.some.inj holds
      exact absurd (hv ▸ w) (unwatched y)

omit k in
/-- The work takes the statement of a holder. -/
theorem redeem {x : Holder} {u : Use} (k : Custody watch none held l) (hx : held x = some u) :
    Custody watch (some u) (handing held x none) l where
  cleared := k.cleared
  unique := k.unique
  idle := k.idle
  working v hv := by
    obtain rfl := Option.some.inj hv
    exact k.lent x u hx
  lent y v hv := k.lent y v (handing_none hv).2
  alone y z v w hv hw := k.alone y z v w (handing_none hv).2 (handing_none hw).2
  apart y v w hv hw e := by
    obtain rfl := Option.some.inj hv
    obtain ⟨hne, hw⟩ := handing_none hw
    exact hne (k.alone y x w u hw hx e.symm)
  stays := k.stays
  late y st w := by
    -- What the holder gives away is with the work now.
    obtain ⟨statement, hst, gone, rest⟩ := k.late y st w
    refine ⟨statement, hst, gone, rest.imp_right fun ⟨v, hv, holds⟩ => ⟨v, hv, ?_⟩⟩
    have holds := holds.resolve_right nofun
    by_cases e : y = x
    · subst e
      exact .inr (hx.symm.trans holds)
    · rw [handing_of_ne held none e]
      exact .inl holds

/-! ### Following -/

omit k in
/-- The sessions that are closed, and the statements of such sessions with their holders. -/
def watchOf (held : Holder → Option Use) (l : Shelves) : Watch where
  sessions s := ∃ shelf, l.sessions.at? s = some shelf ∧ shelf.closed = true
  statements x st := ∃ u, held x = some u ∧ u.statement = st ∧ ∃ statement shelf,
    l.statements.at? st = some statement ∧ l.sessions.at? statement.session = some shelf ∧
      shelf.closed = true

/-- From any state on, what is closed may be followed. -/
theorem follow : Custody (watchOf held l) run held l where
  cleared := k.cleared
  unique := k.unique
  idle := k.idle
  working := k.working
  lent := k.lent
  alone := k.alone
  apart := k.apart
  stays _ w := w
  late x st w := by
    obtain ⟨u, hu, same, statement, shelf, hst, hs, closed⟩ := w
    exact ⟨statement, hst, ⟨shelf, hs, closed⟩, .inr ⟨u, same, .inl hu⟩⟩

omit k in
/-- At the start nothing has been prepared. -/
theorem start {held : Holder → Option Use} (nothing : ∀ x, held x = none) :
    Custody .nothing none held ⟨[], [], [], 0, []⟩ where
  cleared := nofun
  unique := nofun
  idle := nofun
  working := nofun
  lent x u hu := by
    rw [nothing x] at hu
    cases hu
  alone x y u v hu := by
    rw [nothing x] at hu
    cases hu
  apart := nofun
  stays := nofun
  late := nofun

end Custody

end LinkedTables
