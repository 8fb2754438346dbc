import LinkedTables.Proofs.Coupling
import Mathlib.Data.List.Forall2

/-!
# Hosts that are twins for a target

What a host holds for one target are the tables with that target, their sessions, statements,
results and cursors, and what its pool has under the target. Two hosts are twins for a target
(`Twin`) if a `Matching` pairs what they hold for it, member by member, so that paired members
differ in nothing but the numbers under which they refer to others. A `Scene` is an operation on two
twins that is under way: the hosts behind what has been done so far are in step (`Scene.InStep`) if
they are twins again, what the operation has made being paired in the order in which it was made, if
everything else is as it was before the operation (`Spared`), and if both have connected equally
often, with equal luck (`Dialled`). `Scene.At` adds what is known to be paired, and the rules for it
are those of single changes: `coupled_revise`, `coupled_join`, `alike_modify`.
-/

namespace LinkedTables

/-! ### The books of a host -/

/-- The books in which a host numbers its members. -/
inductive Book where
  | tables
  | sessions
  | statements
  | results
  | cursors
deriving DecidableEq

/-- What a book numbers. -/
def Book.Member : Book → Type
  | tables => LinkedTable
  | sessions => Session
  | statements => Statement
  | results => ResultSet
  | cursors => Cursor

instance : (k : Book) → Inhabited k.Member
  | .tables => inferInstanceAs (Inhabited LinkedTable)
  | .sessions => inferInstanceAs (Inhabited Session)
  | .statements => inferInstanceAs (Inhabited Statement)
  | .results => inferInstanceAs (Inhabited ResultSet)
  | .cursors => inferInstanceAs (Inhabited Cursor)

namespace Host

/-- The members in a book. -/
def roster (h : Host) : (k : Book) → Roster k.Member
  | .tables => h.tables
  | .sessions => h.sessions
  | .statements => h.statements
  | .results => h.results
  | .cursors => h.cursors

/-- The host with other members in a book. -/
def withRoster (h : Host) : (k : Book) → Roster k.Member → Host
  | .tables, tables => { h with tables }
  | .sessions, sessions => { h with sessions }
  | .statements, statements => { h with statements }
  | .results, results => { h with results }
  | .cursors, cursors => { h with cursors }

/-- The number of members in a book. -/
def size (h : Host) (k : Book) : Nat := (h.roster k).next

/-- The member with a number in a book. -/
def member (h : Host) (k : Book) (a : Nat) : k.Member := ((h.roster k).at? a).getD default

/-- The host with a member changed. -/
def revised (h : Host) (k : Book) (a : Nat) (f : k.Member → k.Member) : Host :=
  h.withRoster k ((h.roster k).revise a f)

/-- The host with one more member. -/
def grown (h : Host) (k : Book) (x : k.Member) : Host := h.withRoster k ((h.roster k).join x)

/-- How the clients convert values, by number. -/
def converts (h : Host) : List (Value → Except Fault Value) := h.clients.map Client.convert

theorem roster_withRoster_self (h : Host) (k : Book) (r : Roster k.Member) :
    (h.withRoster k r).roster k = r := by
  cases k <;> rfl

theorem roster_withRoster_of_ne (h : Host) {k k' : Book} (ne : k ≠ k') (r : Roster k.Member) :
    (h.withRoster k r).roster k' = h.roster k' := by
  cases k <;> cases k' <;> first | rfl | exact absurd rfl ne

theorem at?_revised_of_ne (h : Host) {k : Book} {a a' : Nat} (ne : a ≠ a')
    (f : k.Member → k.Member) :
    ((h.revised k a f).roster k).at? a' = (h.roster k).at? a' := by
  rw [revised, roster_withRoster_self, Roster.at?_revise_of_ne f ne]

theorem at?_revised_self (h : Host) (k : Book) (a : Nat) (f : k.Member → k.Member) :
    ((h.revised k a f).roster k).at? a = ((h.roster k).at? a).map f := by
  rw [revised, roster_withRoster_self, Roster.at?_revise_self]

theorem roster_revised_of_ne (h : Host) {k k' : Book} (ne : k ≠ k') (a : Nat)
    (f : k.Member → k.Member) : (h.revised k a f).roster k' = h.roster k' :=
  roster_withRoster_of_ne h ne _

theorem size_revised (h : Host) (k k' : Book) (a : Nat) (f : k.Member → k.Member) :
    (h.revised k a f).size k' = h.size k' := by
  by_cases e : k = k'
  · subst e
    rw [size, revised, roster_withRoster_self, Roster.next_revise]
    rfl
  · rw [size, roster_revised_of_ne h e]
    rfl

theorem roster_grown_of_ne (h : Host) {k k' : Book} (ne : k ≠ k') (x : k.Member) :
    (h.grown k x).roster k' = h.roster k' :=
  roster_withRoster_of_ne h ne _

theorem at?_grown_of_lt (h : Host) {k k' : Book} {a : Nat} (known : a < h.size k')
    (x : k.Member) : ((h.grown k x).roster k').at? a = (h.roster k').at? a := by
  by_cases e : k = k'
  · subst e
    rw [grown, roster_withRoster_self, Roster.at?_join_of_lt known]
  · rw [roster_grown_of_ne h e]

theorem at?_grown_size (h : Host) (k : Book) (x : k.Member) :
    ((h.grown k x).roster k).at? (h.size k) = some x := by
  rw [grown, roster_withRoster_self]
  exact Roster.at?_join_next _ x

theorem size_grown (h : Host) (k k' : Book) (x : k.Member) :
    (h.grown k x).size k' = h.size k' + if k' = k then 1 else 0 := by
  by_cases e : k = k'
  · subst e
    rw [size, grown, roster_withRoster_self, Roster.next_join, if_pos rfl]
    rfl
  · rw [size, roster_grown_of_ne h e, if_neg fun e' => e e'.symm]
    rfl

@[simp] theorem converts_withRoster (h : Host) (k : Book) (r : Roster k.Member) :
    (h.withRoster k r).converts = h.converts := by
  cases k <;> rfl

@[simp] theorem pool_withRoster (h : Host) (k : Book) (r : Roster k.Member) :
    (h.withRoster k r).pool = h.pool := by
  cases k <;> rfl

@[simp] theorem script_withRoster (h : Host) (k : Book) (r : Roster k.Member) :
    (h.withRoster k r).script = h.script := by
  cases k <;> rfl

@[simp] theorem cancelled_withRoster (h : Host) (k : Book) (r : Roster k.Member) :
    (h.withRoster k r).cancelled = h.cancelled := by
  cases k <;> rfl

@[simp] theorem journal_withRoster (h : Host) (k : Book) (r : Roster k.Member) :
    (h.withRoster k r).journal = h.journal := by
  cases k <;> rfl

theorem lt_of_at? {h : Host} {k : Book} {a : Nat} {x : k.Member}
    (found : (h.roster k).at? a = some x) : a < h.size k :=
  (List.getElem?_eq_some_iff.mp found).1

theorem member_of_at? {h : Host} {k : Book} {a : Nat} {x : k.Member}
    (found : (h.roster k).at? a = some x) : h.member k a = x := by
  rw [member, found, Option.getD_some]

end Host

/-! ### What resembles what -/

/-- Pairs of numbers in each book, for what two hosts have in common. -/
abbrev Matching := Book → Nat → Nat → Prop

namespace Matching

/-- What one matching pairs the other pairs as well. -/
def Within (K φ : Matching) : Prop := ∀ k a b, K k a b → φ k a b

/-- One more pair. -/
def and (K : Matching) (k : Book) (a b : Nat) : Matching :=
  fun k' a' b' => K k' a' b' ∨ k' = k ∧ a' = a ∧ b' = b

theorem within_and {K : Matching} {k : Book} {a b : Nat} : K.Within (K.and k a b) :=
  fun _ _ _ => .inl

theorem and_self {K : Matching} {k : Book} {a b : Nat} : K.and k a b k a b := .inr ⟨rfl, rfl, rfl⟩

theorem Within.trans {K φ ψ : Matching} (h : K.Within φ) (h' : φ.Within ψ) : K.Within ψ :=
  fun k a b p => h' k a b (h k a b p)

theorem Within.refl (K : Matching) : K.Within K := fun _ _ _ => id

theorem Within.and {K φ : Matching} (h : K.Within φ) {k : Book} {a b : Nat} (p : φ k a b) :
    (K.and k a b).Within φ := by
  rintro k' a' b' (q | ⟨rfl, rfl, rfl⟩)
  · exact h k' a' b' q
  · exact p

theorem Within.and_and {K φ : Matching} (h : K.Within φ) {k : Book} {a b : Nat} :
    (K.and k a b).Within (φ.and k a b) :=
  (h.trans within_and).and and_self

end Matching

/-- Two cursors that have come equally far. -/
inductive CursorPhase.Resembles (φ : Matching) : CursorPhase → CursorPhase → Prop
  | fresh : Resembles φ .fresh .fresh
  | reading {st st' r r' : Nat} (statement : φ .statements st st') (result : φ .results r r') :
      Resembles φ (.reading st r) (.reading st' r')
  | ended : Resembles φ .ended .ended

/-- Idle statements that are paired, under equal texts. -/
def SameIdle (φ : Matching) (e e' : String × Nat) : Prop := e.1 = e'.1 ∧ φ .statements e.2 e'.2

/-- Two members, for one target, that differ in nothing but the numbers of paired members; the
numbers of connections do not matter. -/
def Book.Resembles (key : LinkKey) (φ : Matching) : (k : Book) → k.Member → k.Member → Prop
  | .tables, x, y => x.definition.key = key ∧
    ∃ session, y = { x with session } ∧ Option.Rel (φ .sessions) x.session session
  | .sessions, x, y => (x.key = key ∧ x.vendor = Dialect.Vendor.ofUrl key.url) ∧
    ∃ connection cache, y = { x with connection, cache } ∧
      List.Forall₂ (SameIdle φ) x.cache cache
  | .statements, x, y =>
    ∃ session result, y = { x with session, result } ∧ φ .sessions x.session session ∧
      Option.Rel (φ .results) x.result result
  | .results, x, y => ∃ connection, y = { x with connection }
  | .cursors, x, y =>
    ∃ table phase, y = { x with table, phase } ∧ φ .tables x.table table ∧
      x.phase.Resembles φ phase

theorem CursorPhase.Resembles.mono {φ ψ : Matching} (h : φ.Within ψ) {p p' : CursorPhase}
    (same : p.Resembles φ p') : p.Resembles ψ p' := by
  cases same with
  | fresh => exact .fresh
  | reading statement result => exact .reading (h _ _ _ statement) (h _ _ _ result)
  | ended => exact .ended

theorem Matching.Within.rel {φ ψ : Matching} (h : φ.Within ψ) {k : Book} {o o' : Option Nat}
    (same : o.Rel (φ k) o') : o.Rel (ψ k) o' := by
  cases same with
  | some p => exact .some (h _ _ _ p)
  | none => exact .none

theorem Book.Resembles.mono {key : LinkKey} {φ ψ : Matching} (h : φ.Within ψ) {k : Book}
    {x y : k.Member} (same : k.Resembles key φ x y) : k.Resembles key ψ x y := by
  cases k with
  | tables =>
    obtain ⟨target, session, e, rel⟩ := same
    exact ⟨target, session, e, h.rel rel⟩
  | sessions =>
    obtain ⟨target, connection, cache, e, idle⟩ := same
    exact ⟨target, connection, cache, e, idle.imp fun _ _ p => ⟨p.1, h _ _ _ p.2⟩⟩
  | statements =>
    obtain ⟨session, result, e, own, rel⟩ := same
    exact ⟨session, result, e, h _ _ _ own, h.rel rel⟩
  | results => exact same
  | cursors =>
    obtain ⟨table, phase, e, own, come⟩ := same
    exact ⟨table, phase, e, h _ _ _ own, come.mono h⟩

/-! ### Statements and their sessions -/

/-- The statements that a session keeps are its own. -/
def Host.Lodges (h : Host) (s : Nat) : Prop :=
  ∀ e ∈ (h.session s).cache, (h.statement e.2).session = s

/-- A change of the member with a number leaves statements with their sessions. -/
def Book.Stays (h : Host) (a : Nat) : (k : Book) → (k.Member → k.Member) → Prop
  | .sessions, f => ∀ x : Session, ∀ e ∈ (f x).cache, e ∈ x.cache ∨ (h.statement e.2).session = a
  | .statements, f => ∀ x : Statement, (f x).session = x.session
  | _, _ => True

/-- A member that joins keeps nothing. -/
def Book.Bare : (k : Book) → k.Member → Prop
  | .sessions, x => x.cache = []
  | _, _ => True

namespace Host.Lodges

variable {h h' : Host} {s : Nat}

theorem of_same (lodges : h.Lodges s) (session : h'.session s = h.session s)
    (statement : ∀ e ∈ (h.session s).cache, h'.statement e.2 = h.statement e.2) :
    h'.Lodges s := by
  intro e there
  rw [session] at there
  rw [statement e there]
  exact lodges e there

theorem of_rosters (lodges : h.Lodges s) (roster : ∀ k, h'.roster k = h.roster k) :
    h'.Lodges s := by
  have sessions : h'.sessions = h.sessions := roster .sessions
  have statements : h'.statements = h.statements := roster .statements
  exact lodges.of_same (by rw [Host.session, sessions]; rfl) fun e _ => by
    rw [Host.statement, statements]; rfl

theorem revised (lodges : h.Lodges s) {k : Book} {a : Nat} {f : k.Member → k.Member}
    (stays : k.Stays h a f) : (h.revised k a f).Lodges s := by
  -- What a session keeps depends on sessions and statements only, each in its own way.
  cases k with
  | sessions =>
    by_cases same : a = s
    · subst same
      intro e there
      have session : (h.revised .sessions a f).session a
          = (((h.roster .sessions).at? a).map f).getD default :=
        congrArg (·.getD default) (h.at?_revised_self .sessions a f)
      have own := lodges e
      rw [session] at there
      rw [show h.session a = ((h.roster .sessions).at? a).getD default from rfl] at own
      cases found : (h.roster .sessions).at? a with
      | none =>
        rw [found] at there
        cases there
      | some x =>
        rw [found] at there own
        exact (stays x e there).elim own id
    · exact lodges.of_same (congrArg (·.getD default) (h.at?_revised_of_ne same f)) fun _ _ => rfl
  | statements =>
    intro e there
    refine Eq.trans ?_ (lodges e there)
    by_cases same : a = e.2
    · subst same
      have statement : (h.revised .statements e.2 f).statement e.2
          = (((h.roster .statements).at? e.2).map f).getD default :=
        congrArg (·.getD default) (h.at?_revised_self .statements e.2 f)
      rw [statement, show h.statement e.2 = ((h.roster .statements).at? e.2).getD default from rfl]
      cases (h.roster .statements).at? e.2 with
      | none => rfl
      | some x => exact stays x
    · have statement : (h.revised .statements a f).statement e.2 = h.statement e.2 :=
        congrArg (·.getD default) (h.at?_revised_of_ne same f)
      rw [statement]
  | _ => exact lodges

theorem grown (lodges : h.Lodges s) (known : s < h.size .sessions)
    (kept : ∀ e ∈ (h.session s).cache, e.2 < h.size .statements) (k : Book) (x : k.Member) :
    (h.grown k x).Lodges s := by
  refine lodges.of_same ?_ fun e there => ?_
  · exact congrArg (·.getD default) (h.at?_grown_of_lt known x)
  · exact congrArg (·.getD default) (h.at?_grown_of_lt (kept e there) x)

end Host.Lodges

/-! ### Connects that are counted -/

/-- Whether a connect has succeeded, if an event is one. -/
def Event.dial? : Event → Option Bool
  | connected _ succeeded => some succeeded
  | _ => none

/-- The outcomes of the connects, the latest first. -/
def Host.dials (h : Host) : List Bool := h.journal.filterMap Event.dial?

/-- How often connecting has failed since it last succeeded, going by the outcomes, of which the
latest comes first. -/
def misses (dials : List Bool) : Nat := (dials.takeWhile (!·)).length

namespace Pool

/-- Connecting has failed so often that the breaker of a target opens. -/
def Tripped (pool : Pool) (dials : List Bool) : Prop :=
  0 < misses dials ∧ pool.failMax ≤ misses dials

instance (pool : Pool) (dials : List Bool) : Decidable (pool.Tripped dials) :=
  inferInstanceAs (Decidable (_ ∧ _))

/-- What is the same for all targets. -/
def settings (pool : Pool) : Bool × Int × Int := (pool.shares, pool.failMax, pool.resetTimeout)

/-- The breaker of a target has seen the outcomes of the connects to it and nothing else: it counts
those that failed since the last success, and it is open if these are enough. -/
structure Counts (pool : Pool) (key : LinkKey) (dials : List Bool) : Prop where
  lasting : 0 < pool.resetTimeout
  unused : pool.breakers.value? key = none → dials = []
  readable : ∀ breaker, pool.breakers.value? key = some breaker →
    ∃ url, Remote.Url.read key.url = .ok url
  made : ∀ breaker, pool.breakers.value? key = some breaker →
    breaker.failMax = pool.failMax ∧ breaker.resetTimeout = pool.resetTimeout
  counted : ∀ breaker, pool.breakers.value? key = some breaker →
    breaker.failures = misses dials ∧
      breaker.state = if pool.Tripped dials then .opened else .shut

theorem Counts.of_same {pool pool' : Pool} {key : LinkKey} {dials : List Bool}
    (c : pool.Counts key dials) (settings : pool'.settings = pool.settings)
    (breaker : pool'.breakers.value? key = pool.breakers.value? key) :
    pool'.Counts key dials := by
  simp only [Pool.settings, Prod.mk.injEq] at settings
  obtain ⟨-, failMax, resetTimeout⟩ := settings
  have tripped : pool'.Tripped dials = pool.Tripped dials := by rw [Tripped, failMax]; rfl
  refine ⟨resetTimeout ▸ c.lasting, breaker ▸ c.unused, breaker ▸ c.readable, ?_, ?_⟩
  · rw [breaker, failMax, resetTimeout]
    exact c.made
  · rw [breaker]
    simp only [tripped]
    exact c.counted

end Pool

/-- Behind a host connects with certain outcomes have been made, the latest first: the breaker of
the target has counted them, and none has been made through an open one. -/
structure Dialled (key : LinkKey) (new : List Bool) (h h' : Host) : Prop where
  dials : h'.dials = new ++ h.dials
  settings : h'.pool.settings = h.pool.settings
  counts : ∀ past, h.pool.Counts key past → h'.pool.Counts key (new ++ past)
  turned : ∀ past, h.pool.Counts key past → h.pool.Tripped past → new = []

namespace Dialled

variable {key : LinkKey} {h h' h'' : Host} {new new' : List Bool}

theorem trans (a : Dialled key new h h') (b : Dialled key new' h' h'') :
    Dialled key (new' ++ new) h h'' where
  dials := by rw [b.dials, a.dials, List.append_assoc]
  settings := b.settings.trans a.settings
  counts past c := by rw [List.append_assoc]; exact b.counts _ (a.counts past c)
  turned past c tripped := by
    have none := a.turned past c tripped
    have tripped' : h'.pool.Tripped (new ++ past) := by
      have e := a.settings
      simp only [Pool.settings, Prod.mk.injEq] at e
      rw [none, List.nil_append, Pool.Tripped, e.2.1]
      exact tripped
    rw [b.turned _ (a.counts past c) tripped', none]
    rfl

/-- No connect has been made, and the breaker is the same. -/
theorem of_same (dials : h'.dials = h.dials) (settings : h'.pool.settings = h.pool.settings)
    (breaker : h'.pool.breakers.value? key = h.pool.breakers.value? key) :
    Dialled key [] h h' where
  dials := dials
  settings := settings
  counts _ c := c.of_same settings breaker
  turned _ _ _ := rfl

end Dialled

/-! ### Twins -/

/-- Two pools have the same for a target, up to the numbers of its sessions. -/
structure PoolTwin (key : LinkKey) (φ : Matching) (pool pool' : Pool) : Prop where
  settings : pool.settings = pool'.settings
  connector : pool.connectors.value? key = pool'.connectors.value? key
  breaker : pool.breakers.value? key = pool'.breakers.value? key
  shared : (pool.shared.value? key).Rel (φ .sessions) (pool'.shared.value? key)

/-- Two hosts hold the same for a target, up to the numbers that a matching pairs. -/
structure Twin (key : LinkKey) (φ : Matching) (h g : Host) : Prop where
  single : ∀ k a b a' b', φ k a b → φ k a' b' → (a = a' ↔ b = b')
  member : ∀ k a b, φ k a b → ∃ x y, (h.roster k).at? a = some x ∧ (g.roster k).at? b = some y ∧
    k.Resembles key φ x y
  lodges : ∀ s s', φ .sessions s s' → h.Lodges s
  converts : h.converts = g.converts
  pool : PoolTwin key φ h.pool g.pool

/-- Of a pool nothing has changed but what it has for a target. -/
structure PoolSpared (key : LinkKey) (pool pool' : Pool) : Prop where
  settings : pool'.settings = pool.settings
  connector : ∀ key', key' ≠ key → pool'.connectors.value? key' = pool.connectors.value? key'
  breaker : ∀ key', key' ≠ key → pool'.breakers.value? key' = pool.breakers.value? key'
  shared : ∀ key', key' ≠ key → pool'.shared.value? key' = pool.shared.value? key'
  unique : (pool.shared.map (·.1)).Nodup → (pool'.shared.map (·.1)).Nodup

/-- Of a host nothing has changed but what belongs to a target: some members of its own, and what
the pool has for it. -/
structure Spared (key : LinkKey) (own : Book → Nat → Prop) (h h' : Host) : Prop where
  size : ∀ k, h.size k ≤ h'.size k
  member : ∀ k a, a < h.size k → ¬ own k a → (h'.roster k).at? a = (h.roster k).at? a
  converts : h'.converts = h.converts
  pool : PoolSpared key h.pool h'.pool

namespace PoolTwin

variable {key : LinkKey} {φ ψ : Matching} {pool pool' : Pool}

theorem mono (h : φ.Within ψ) (twin : PoolTwin key φ pool pool') : PoolTwin key ψ pool pool' :=
  { twin with shared := h.rel (k := .sessions) twin.shared }

end PoolTwin

namespace PoolSpared

variable {key : LinkKey} {pool pool' pool'' : Pool}

theorem refl (key : LinkKey) (pool : Pool) : PoolSpared key pool pool :=
  ⟨rfl, fun _ _ => rfl, fun _ _ => rfl, fun _ _ => rfl, id⟩

theorem of_eq (e : pool' = pool) : PoolSpared key pool pool' := e ▸ refl key pool

theorem trans (a : PoolSpared key pool pool') (b : PoolSpared key pool' pool'') :
    PoolSpared key pool pool'' where
  settings := b.settings.trans a.settings
  connector key' ne := (b.connector key' ne).trans (a.connector key' ne)
  breaker key' ne := (b.breaker key' ne).trans (a.breaker key' ne)
  shared key' ne := (b.shared key' ne).trans (a.shared key' ne)
  unique := b.unique ∘ a.unique

end PoolSpared

namespace Spared

variable {key : LinkKey} {own touched : Book → Nat → Prop} {h h' h'' : Host}

theorem refl (key : LinkKey) (own : Book → Nat → Prop) (h : Host) : Spared key own h h :=
  ⟨fun _ => Nat.le_refl _, fun _ _ _ _ => rfl, rfl, .refl key _⟩

theorem trans (a : Spared key own h h') (b : Spared key touched h' h'')
    (reach : ∀ k n, touched k n → own k n ∨ h.size k ≤ n) : Spared key own h h'' where
  size k := Nat.le_trans (a.size k) (b.size k)
  member k n known apart := by
    have untouched : ¬ touched k n := fun t => by
      rcases reach k n t with o | new
      · exact apart o
      · omega
    rw [b.member k n (Nat.lt_of_lt_of_le known (a.size k)) untouched, a.member k n known apart]
  converts := b.converts.trans a.converts
  pool := a.pool.trans b.pool

theorem revised (h : Host) (k : Book) (a : Nat) (f : k.Member → k.Member) :
    Spared key (fun k' a' => k' = k ∧ a' = a) h (h.revised k a f) where
  size k' := Nat.le_of_eq (h.size_revised k k' a f).symm
  member k' a' _ apart := by
    by_cases e : k = k'
    · subst e
      exact h.at?_revised_of_ne (fun e => apart ⟨rfl, e.symm⟩) f
    · rw [h.roster_revised_of_ne e]
  converts := by simp [Host.revised]
  pool := .of_eq (by simp [Host.revised])

theorem joined (h : Host) (k : Book) (x : k.Member) :
    Spared key (fun _ _ => False) h (h.grown k x) where
  size k' := by
    rw [h.size_grown]
    exact Nat.le_add_right _ _
  member k' a known _ := h.at?_grown_of_lt known x
  converts := by simp [Host.grown]
  pool := .of_eq (by simp [Host.grown])

end Spared

namespace Twin

variable {key : LinkKey} {φ : Matching} {h g h' g' : Host} (twin : Twin key φ h g)
include twin

theorem lt_of_pair {k : Book} {a b : Nat} (p : φ k a b) : a < h.size k ∧ b < g.size k := by
  obtain ⟨_, _, hx, hy, -⟩ := twin.member k a b p
  exact ⟨Host.lt_of_at? hx, Host.lt_of_at? hy⟩

/-- The statements that a session keeps are paired. -/
theorem pair_of_mem_cache {s s' : Nat} (p : φ .sessions s s') {e : String × Nat}
    (there : e ∈ (h.session s).cache) : ∃ st', φ .statements e.2 st' := by
  obtain ⟨x, y, hx, -, -, _, _, -, idle⟩ := twin.member _ s s' p
  have session : h.session s = x := Host.member_of_at? hx
  rw [session] at there
  obtain ⟨i, found⟩ := List.mem_iff_getElem?.mp there
  obtain ⟨known, rfl⟩ := List.getElem?_eq_some_iff.mp found
  have known' := idle.length_eq ▸ known
  exact ⟨_, (idle.get known known').2⟩

/-- What belongs to another target makes no difference to twins. -/
theorem spared {key' : LinkKey} {own own' : Book → Nat → Prop} (left : Spared key' own h h')
    (right : Spared key' own' g g') (ne : key ≠ key')
    (apart : ∀ k a b, φ k a b → ¬ own k a ∧ ¬ own' k b) : Twin key φ h' g' where
  single := twin.single
  member k a b p := by
    obtain ⟨x, y, hx, hy, same⟩ := twin.member k a b p
    refine ⟨x, y, ?_, ?_, same⟩
    · rw [left.member k a (Host.lt_of_at? hx) (apart k a b p).1, hx]
    · rw [right.member k b (Host.lt_of_at? hy) (apart k a b p).2, hy]
  lodges s s' p := by
    have same {k : Book} {a b : Nat} (p : φ k a b) : h'.member k a = h.member k a :=
      congrArg (·.getD default) (left.member k a (twin.lt_of_pair p).1 (apart k a b p).1)
    refine (twin.lodges s s' p).of_same (same p) fun e there => ?_
    obtain ⟨st', q⟩ := twin.pair_of_mem_cache p there
    exact same q
  converts := by rw [left.converts, right.converts, twin.converts]
  pool := {
    settings := by rw [left.pool.settings, right.pool.settings, twin.pool.settings]
    connector := by
      rw [left.pool.connector key ne, right.pool.connector key ne, twin.pool.connector]
    breaker := by rw [left.pool.breaker key ne, right.pool.breaker key ne, twin.pool.breaker]
    shared := by
      rw [left.pool.shared key ne, right.pool.shared key ne]
      exact twin.pool.shared }

/-- Paired members are changed alike. -/
theorem revised {k : Book} {a b : Nat} (p : φ k a b) {f f' : k.Member → k.Member}
    (stays : k.Stays h a f)
    (same : ∀ x y, (h.roster k).at? a = some x → (g.roster k).at? b = some y →
      k.Resembles key φ x y → k.Resembles key φ (f x) (f' y)) :
    Twin key φ (h.revised k a f) (g.revised k b f') where
  single := twin.single
  member k' a' b' p' := by
    obtain ⟨x, y, hx, hy, old⟩ := twin.member k' a' b' p'
    by_cases ek : k = k'
    · subst ek
      have both := twin.single k a b a' b' p p'
      by_cases ea : a = a'
      · obtain rfl := ea
        obtain rfl := both.mp rfl
        refine ⟨f x, f' y, ?_, ?_, same x y hx hy old⟩
        · rw [Host.at?_revised_self, hx, Option.map_some]
        · rw [Host.at?_revised_self, hy, Option.map_some]
      · have eb : b ≠ b' := fun e => ea (both.mpr e)
        refine ⟨x, y, ?_, ?_, old⟩
        · rw [Host.at?_revised_of_ne h ea, hx]
        · rw [Host.at?_revised_of_ne g eb, hy]
    · refine ⟨x, y, ?_, ?_, old⟩
      · rw [Host.roster_revised_of_ne h ek, hx]
      · rw [Host.roster_revised_of_ne g ek, hy]
  lodges s s' p := (twin.lodges s s' p).revised stays
  converts := by simpa [Host.revised] using twin.converts
  pool := by simpa [Host.revised] using twin.pool

/-- Members that join on both sides are paired. -/
theorem joined {k : Book} {x y : k.Member} (bare : k.Bare x) (same : k.Resembles key φ x y) :
    Twin key (φ.and k (h.size k) (g.size k)) (h.grown k x) (g.grown k y) where
  -- The numbers of new members are beyond those of all that were paired.
  single := by
    rintro k' a b a' b' (p | ⟨rfl, rfl, rfl⟩) (p' | ⟨e, rfl, rfl⟩)
    · exact twin.single k' a b a' b' p p'
    · subst e
      have := twin.lt_of_pair p
      omega
    · have := twin.lt_of_pair p'
      omega
    · exact ⟨fun _ => rfl, fun _ => rfl⟩
  member := by
    rintro k' a b (p | ⟨rfl, rfl, rfl⟩)
    · obtain ⟨x', y', hx, hy, old⟩ := twin.member k' a b p
      refine ⟨x', y', ?_, ?_, old.mono Matching.within_and⟩
      · rw [Host.at?_grown_of_lt h (Host.lt_of_at? hx), hx]
      · rw [Host.at?_grown_of_lt g (Host.lt_of_at? hy), hy]
    · exact ⟨x, y, h.at?_grown_size _ x, g.at?_grown_size _ y, same.mono Matching.within_and⟩
  lodges := by
    rintro s s' (p | ⟨rfl, rfl, rfl⟩)
    · refine (twin.lodges s s' p).grown (twin.lt_of_pair p).1 (fun e there => ?_) k x
      obtain ⟨_, q⟩ := twin.pair_of_mem_cache p there
      exact (twin.lt_of_pair q).1
    · intro e there
      have session : (h.grown .sessions x).session (h.size .sessions) = x :=
        congrArg (·.getD default) (h.at?_grown_size .sessions x)
      have none : Session.cache x = [] := bare
      rw [session, none] at there
      cases there
  converts := by simpa [Host.grown] using twin.converts
  pool := (by simpa [Host.grown] using twin.pool : PoolTwin key φ _ _).mono Matching.within_and

end Twin

/-- Nothing of a host has changed that its users or the remote side could come across, except for
what was sent without connecting. -/
structure Unnoticed (h h' : Host) : Prop where
  roster : ∀ k, h'.roster k = h.roster k
  converts : h'.converts = h.converts
  pool : h'.pool = h.pool
  script : h'.script = h.script
  cancelled : h'.cancelled = h.cancelled
  dials : h'.dials = h.dials

/-! ### Operations under way -/

/-- An operation for a target on two hosts, and what was paired when it began. -/
structure Scene where
  key : LinkKey
  known : Matching
  left : Host
  right : Host
  /-- It matters whether the command has been cancelled. -/
  strict : Prop

namespace Scene

variable (S : Scene)

/-- What is paired by now: what was paired before, and what the operation has made, in the order in
which it was made. -/
def pairs (h : Host) : Matching := fun k a b =>
  S.known k a b ∨ S.left.size k ≤ a ∧ a < h.size k ∧ a + S.right.size k = b + S.left.size k

/-- The operation has come equally far on both sides. -/
structure InStep (h g : Host) : Prop where
  twin : Twin S.key (S.pairs h) h g
  script : h.script = g.script
  cancelled : S.strict → h.cancelled = g.cancelled
  pace : ∀ k, h.size k + S.right.size k = g.size k + S.left.size k
  left : Spared S.key (fun k a => ∃ b, S.known k a b) S.left h
  right : Spared S.key (fun k b => ∃ a, S.known k a b) S.right g
  dialled : ∃ new, Dialled S.key new S.left h ∧ Dialled S.key new S.right g

/-- The operation has come equally far, and some pairs are known. -/
def At (K : Matching) (h g : Host) : Prop := S.InStep h g ∧ K.Within (S.pairs h)

variable {S} {K K' : Matching} {h g h' g' : Host}

theorem pairs_of_size (size : ∀ k, h'.size k = h.size k) : S.pairs h' = S.pairs h := by
  funext k a b
  simp only [pairs, size k]

/-- What is changed on both sides belongs to the operation. -/
theorem InStep.step (r : S.InStep h g) {touched touched' : Book → Nat → Prop} {new : List Bool}
    (twin : Twin S.key (S.pairs h') h' g') (script : h'.script = g'.script)
    (cancelled : S.strict → h'.cancelled = g'.cancelled)
    (pace : ∀ k, h'.size k + g.size k = g'.size k + h.size k)
    (left : Spared S.key touched h h') (right : Spared S.key touched' g g')
    (reach : ∀ k a, touched k a → ∃ b, S.pairs h k a b)
    (reach' : ∀ k b, touched' k b → ∃ a, S.pairs h k a b)
    (dialled : Dialled S.key new h h') (dialled' : Dialled S.key new g g') :
    S.InStep h' g' where
  twin := twin
  script := script
  cancelled := cancelled
  pace k := by
    have before := r.pace k
    have now := pace k
    omega
  left := by
    refine r.left.trans left fun k a t => ?_
    obtain ⟨b, p | ⟨low, -⟩⟩ := reach k a t
    · exact .inl ⟨b, p⟩
    · exact .inr low
  right := by
    refine r.right.trans right fun k b t => ?_
    obtain ⟨a, p | ⟨low, -, e⟩⟩ := reach' k b t
    · exact .inl ⟨a, p⟩
    · exact .inr (by omega)
  dialled := by
    obtain ⟨before, l, r⟩ := r.dialled
    exact ⟨new ++ before, l.trans dialled, r.trans dialled'⟩

theorem InStep.revised (r : S.InStep h g) {k : Book} {a b : Nat} (p : S.pairs h k a b)
    {f f' : k.Member → k.Member} (stays : k.Stays h a f)
    (same : ∀ x y, (h.roster k).at? a = some x → (g.roster k).at? b = some y →
      k.Resembles S.key (S.pairs h) x y → k.Resembles S.key (S.pairs h) (f x) (f' y)) :
    S.InStep (h.revised k a f) (g.revised k b f') := by
  have dialled (h : Host) (a : Nat) (f : k.Member → k.Member) :
      Dialled S.key [] h (h.revised k a f) := by
    refine .of_same ?_ ?_ ?_ <;> simp [Host.revised, Host.dials]
  refine r.step ?_ ?_ ?_ (fun k' => ?_) (.revised h k a f) (.revised g k b f') ?_ ?_
    (dialled h a f) (dialled g b f')
  · rw [pairs_of_size fun k' => h.size_revised k k' a f]
    exact r.twin.revised p stays same
  · simpa [Host.revised] using r.script
  · simpa [Host.revised] using r.cancelled
  · rw [Host.size_revised, Host.size_revised, Nat.add_comm]
  · rintro _ _ ⟨rfl, rfl⟩
    exact ⟨b, p⟩
  · rintro _ _ ⟨rfl, rfl⟩
    exact ⟨a, p⟩

theorem InStep.pairs_joined (r : S.InStep h g) (k : Book) (x : k.Member) :
    S.pairs (h.grown k x) = (S.pairs h).and k (h.size k) (g.size k) := by
  funext k' a b
  have pace := r.pace k'
  have size := r.left.size k'
  simp only [pairs, Matching.and, h.size_grown, eq_iff_iff, or_assoc]
  refine or_congr_right ?_
  by_cases e : k' = k
  · subst e
    simp only [if_true, true_and]
    omega
  · simp only [e, if_false, false_and, or_false, Nat.add_zero]

theorem InStep.joined (r : S.InStep h g) {k : Book} {x y : k.Member} (bare : k.Bare x)
    (same : k.Resembles S.key (S.pairs h) x y) : S.InStep (h.grown k x) (g.grown k y) := by
  have dialled (h : Host) (x : k.Member) : Dialled S.key [] h (h.grown k x) := by
    refine .of_same ?_ ?_ ?_ <;> simp [Host.grown, Host.dials]
  refine r.step ?_ ?_ ?_ (fun k' => ?_) (.joined h k x) (.joined g k y) (fun _ _ => False.elim)
    (fun _ _ => False.elim) (dialled h x) (dialled g y)
  · rw [r.pairs_joined k x]
    exact r.twin.joined bare same
  · simpa [Host.grown] using r.script
  · simpa [Host.grown] using r.cancelled
  · rw [Host.size_grown, Host.size_grown]
    omega

/-- A change that leaves the members alone. -/
theorem InStep.beside (r : S.InStep h g) (roster : ∀ k, h'.roster k = h.roster k)
    (roster' : ∀ k, g'.roster k = g.roster k) (converts : h'.converts = h.converts)
    (converts' : g'.converts = g.converts) (twin : PoolTwin S.key (S.pairs h) h'.pool g'.pool)
    (left : PoolSpared S.key h.pool h'.pool) (right : PoolSpared S.key g.pool g'.pool)
    (script : h'.script = g'.script) (cancelled : S.strict → h'.cancelled = g'.cancelled)
    {new : List Bool} (dialled : Dialled S.key new h h') (dialled' : Dialled S.key new g g') :
    S.InStep h' g' := by
  have size (k : Book) : h'.size k = h.size k := by rw [Host.size, roster]; rfl
  have size' (k : Book) : g'.size k = g.size k := by rw [Host.size, roster']; rfl
  refine r.step ?_ script cancelled (fun k => ?_)
    (show Spared S.key (fun _ _ => False) h h' from ?_)
    (show Spared S.key (fun _ _ => False) g g' from ?_) (fun _ _ => False.elim)
    (fun _ _ => False.elim) dialled dialled'
  · rw [pairs_of_size size]
    refine ⟨r.twin.single, fun k a b p => ?_,
      fun s s' p => (r.twin.lodges s s' p).of_rosters roster,
      by rw [converts, converts', r.twin.converts], twin⟩
    rw [roster, roster']
    exact r.twin.member k a b p
  · rw [size, size', Nat.add_comm]
  · exact ⟨fun k => Nat.le_of_eq (size k).symm, fun k a _ _ => by rw [roster], converts, left⟩
  · exact ⟨fun k => Nat.le_of_eq (size' k).symm, fun k a _ _ => by rw [roster'], converts', right⟩

/-! ### Rules for actions on twins -/

section At

variable (r : S.At K h g)
include r

theorem At.mono (within : K'.Within K) : S.At K' h g := ⟨r.1, within.trans r.2⟩

/-- What is paired is known to be so as soon as one looks at it. -/
theorem At.and {k : Book} {a b : Nat} (p : S.pairs h k a b) : S.At (K.and k a b) h g :=
  ⟨r.1, r.2.and p⟩

theorem At.at? {k : Book} {a b : Nat} (p : K k a b) : ∃ x y, (h.roster k).at? a = some x ∧
    (g.roster k).at? b = some y ∧ k.Resembles S.key (S.pairs h) x y :=
  r.1.twin.member k a b (r.2 k a b p)

theorem At.resembles {k : Book} {a b : Nat} (p : K k a b) :
    k.Resembles S.key (S.pairs h) (h.member k a) (g.member k b) := by
  obtain ⟨x, y, hx, hy, same⟩ := r.at? p
  rw [Host.member_of_at? hx, Host.member_of_at? hy]
  exact same

theorem At.revised {k : Book} {a b : Nat} (p : K k a b) {f f' : k.Member → k.Member}
    (stays : k.Stays h a f)
    (same : ∀ x y, k.Resembles S.key (S.pairs h) x y →
      k.Resembles S.key (S.pairs h) (f x) (f' y)) :
    S.At K (h.revised k a f) (g.revised k b f') := by
  refine ⟨r.1.revised (r.2 k a b p) stays fun x y _ _ => same x y, ?_⟩
  rw [pairs_of_size fun k' => h.size_revised k k' a f]
  exact r.2

theorem At.joined {k : Book} {x y : k.Member} (bare : k.Bare x)
    (same : k.Resembles S.key (S.pairs h) x y) :
    S.At (K.and k (h.size k) (g.size k)) (h.grown k x) (g.grown k y) := by
  refine ⟨r.1.joined bare same, ?_⟩
  rw [r.1.pairs_joined k x]
  exact Matching.Within.and (r.2.trans Matching.within_and) Matching.and_self

/-- A change of the pool, of what it has for the target. -/
theorem At.pooled {p p' : Pool} (twin : PoolTwin S.key (S.pairs h) p p')
    (left : PoolSpared S.key h.pool p) (right : PoolSpared S.key g.pool p')
    (same : p.breakers.value? S.key = h.pool.breakers.value? S.key)
    (same' : p'.breakers.value? S.key = g.pool.breakers.value? S.key) :
    S.At K { h with pool := p } { g with pool := p' } :=
  ⟨r.1.beside (fun k => by cases k <;> rfl) (fun k => by cases k <;> rfl) rfl rfl twin left right
    r.1.script r.1.cancelled (.of_same rfl left.settings same) (.of_same rfl right.settings same'),
    r.2⟩

theorem At.unnoticed (left : Unnoticed h h') (right : Unnoticed g g') : S.At K h' g' := by
  have size (k : Book) : h'.size k = h.size k := by rw [Host.size, left.roster]; rfl
  refine ⟨r.1.beside left.roster right.roster left.converts right.converts ?_ (.of_eq left.pool)
    (.of_eq right.pool) ?_ ?_ (.of_same left.dials (by rw [left.pool]) (by rw [left.pool]))
    (.of_same right.dials (by rw [right.pool]) (by rw [right.pool])), ?_⟩
  · rw [left.pool, right.pool]
    exact r.1.twin.pool
  · rw [left.script, right.script, r.1.script]
  · rw [left.cancelled, right.cancelled]
    exact r.1.cancelled
  · rw [pairs_of_size size]
    exact r.2

/-- A change of whether the command has been cancelled, made on both sides. -/
theorem At.cancelled {c c' : Bool} (same : S.strict → c = c') :
    S.At K { h with cancelled := c } { g with cancelled := c' } :=
  ⟨r.1.beside (fun k => by cases k <;> rfl) (fun k => by cases k <;> rfl) rfl rfl
    r.1.twin.pool (.refl _ _) (.refl _ _) r.1.script same (.of_same rfl rfl rfl)
    (.of_same rfl rfl rfl), r.2⟩

end At

open LinkedTables.Action

variable {α β : Type} {E : Host → Host → Prop}

/-- Two actions end alike, and the numbers to which they come are paired in a book. -/
def Brings (S : Scene) (K : Matching) (k : Book) (x y : Action Nat) : Prop :=
  Coupled (S.At K) x y (fun a b => S.At (K.and k a b)) (S.At K)

theorem leads_unnoticed {f f' : Host → Host} (still : ∀ h, Unnoticed h (f h))
    (still' : ∀ g, Unnoticed g (f' g)) :
    Leads (S.At K) (modify f) (modify f') (fun _ => S.At K) E :=
  Coupled.of_modify fun h g r => ⟨rfl, r.unnoticed (still h) (still' g)⟩

theorem leads_revise {k : Book} {a b : Nat} (p : K k a b) {f f' : k.Member → k.Member}
    (stays : ∀ h, k.Stays h a f)
    (same : ∀ φ x y, K.Within φ → k.Resembles S.key φ x y → k.Resembles S.key φ (f x) (f' y)) :
    Leads (S.At K) (modify fun h => h.revised k a f) (modify fun g => g.revised k b f')
      (fun _ => S.At K) E :=
  Coupled.of_modify fun _ _ r => ⟨rfl, r.revised p (stays _) fun x y => same _ x y r.2⟩

/-- A member joins, and goes by its number from then on. -/
theorem brings_join {k : Book} {x y : k.Member} (bare : k.Bare x)
    (same : ∀ φ, K.Within φ → k.Resembles S.key φ x y) :
    S.Brings K k
      (do
        let a := (← get).size k
        modify fun h => h.grown k x
        return a)
      (do
        let b := (← get).size k
        modify fun g => g.grown k y
        return b) := by
  refine Coupled.get_bind fun h g r => ?_
  refine Coupled.modify_bind (T := S.At (K.and k (h.size k) (g.size k))) ?_ ?_
  · rintro _ _ ⟨rfl, rfl, r⟩
    exact r.joined bare (same _ r.2)
  · exact Coupled.of_pure fun _ _ r => r

/-- What follows may be told with the pair. -/
theorem Brings.bind {k : Book} {x y : Action Nat} {f : Nat → Action α} {f' : Nat → Action β}
    {Q : α → β → Host → Host → Prop} (hx : S.Brings K k x y)
    (hf : ∀ a b, Coupled (S.At (K.and k a b)) (f a) (f' b) Q (S.At (K.and k a b))) :
    Coupled (S.At K) (x >>= f) (y >>= f') Q (S.At K) :=
  Coupled.bind hx fun a b => (hf a b).behind (fun _ _ _ _ q => q) fun _ _ e =>
    e.mono Matching.within_and

/-- What is known of more pairs than are needed later on. -/
theorem alike_within {x y : Action α} (hx : Alike (S.At K') x y) (within : K.Within K') :
    Leads (S.At K') x y (fun _ => S.At K) (S.At K) :=
  Leads.behind hx (fun _ _ _ r => r.mono within) fun _ _ r => r.mono within

theorem leads_note {event event' : Event} (silent : event.dial? = none)
    (silent' : event'.dial? = none) :
    Leads (S.At K) (note event) (note event') (fun _ => S.At K) E := by
  refine leads_unnoticed (fun h => ?_) fun g => ?_
  · exact ⟨fun k => by cases k <;> rfl, rfl, rfl, rfl, rfl, by simp [Host.dials, silent]⟩
  · exact ⟨fun k => by cases k <;> rfl, rfl, rfl, rfl, rfl, by simp [Host.dials, silent']⟩

theorem unnoticed_report (h : Host) (notice : Notice) :
    Unnoticed h (if h.level.number ≤ notice.level.number
      then { h with log := ⟨notice, h.link⟩ :: h.log } else h) := by
  split
  · exact ⟨fun k => by cases k <;> rfl, rfl, rfl, rfl, rfl, rfl⟩
  · exact ⟨fun _ => rfl, rfl, rfl, rfl, rfl, rfl⟩

theorem leads_report (notice notice' : Notice) :
    Leads (S.At K) (report notice) (report notice') (fun _ => S.At K) E :=
  leads_unnoticed (fun h => unnoticed_report h notice) fun g => unnoticed_report g notice'

theorem leads_fromScript (call : Remote.Script → α × Remote.Script) :
    Leads (S.At K) (fromScript call) (fromScript call) (fun _ => S.At K) E := by
  refine Coupled.get_bind fun h g r => ?_
  rw [r.1.script]
  obtain ⟨a, script⟩ := call g.script
  refine Coupled.modify_bind (T := S.At K) ?_ (Leads.of_pure a fun _ _ r => r)
  rintro _ _ ⟨rfl, rfl, r⟩
  exact ⟨r.1.beside (fun k => by cases k <;> rfl) (fun k => by cases k <;> rfl) rfl rfl
    r.1.twin.pool (.refl _ _) (.refl _ _) rfl r.1.cancelled (.of_same rfl rfl rfl)
    (.of_same rfl rfl rfl), r.2⟩

end Scene

end LinkedTables
