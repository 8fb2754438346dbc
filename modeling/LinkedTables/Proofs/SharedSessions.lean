import LinkedTables.Proofs.LineLogic

/-!
# Shared sessions

On a pool that shares its sessions, the users of a session are counted right, at most one session
of a target is open, and it is the one that is shared. `Counted` says so of the lines, with one user
more for a session that is in hand; each step of the pool keeps it, also where a session has been
closed under tables that still hold it (`counted_lineLogic`).
-/

namespace LinkedTables

namespace Lines

/-- A session is open for a target. -/
def IsOpen (l : Lines) (s : Nat) (key : LinkKey) : Prop :=
  ∃ line, l.sessions.at? s = some line ∧ line.key = key ∧ line.closed = false

/-- The number of users that a session has besides the tables: the one who has it in hand. -/
def inHand (hand : Option Nat) (s : Nat) : Int := if hand = some s then 1 else 0

/-- The users of every session are counted, and the open sessions are those that are shared. -/
structure Counted (hand : Option Nat) (l : Lines) : Prop where
  shares : l.shares = true
  unique : (l.shared.map (·.1)).Nodup
  known : ∀ s, some s ∈ l.held → s < l.sessions.next
  counted : ∀ s line, l.sessions.at? s = some line →
    line.useCount = l.held.count (some s) + inHand hand s
  mapped : ∀ key s, l.shared.value? key = some s ↔ l.IsOpen s key

/-- The predicate of each phase. -/
def countedIn (t : Nat) : Phase → Lines → Prop
  | .settled | .busy .. | .spent .. => Counted none
  | .loose => fun l => l.Counted none ∧ l.heldBy t = none
  | .vacant key | .line key _ =>
    fun l => (l.Counted none ∧ l.heldBy t = none) ∧ ∀ s, ¬l.IsOpen s key
  | .inHand s => fun l => (l.Counted (some s) ∧ l.heldBy t = none) ∧ s < l.sessions.next

/-! ### Tables that take and leave a session -/

section Tables

variable {l : Lines} {t s : Nat}

/-- A table exchanges what it holds for what is in hand. -/
theorem Counted.exchange {held hand : Option Nat} (c : l.Counted hand)
    (ht : l.held.at? t = some held) (known : ∀ s, hand = some s → s < l.sessions.next) :
    (l.withHeld t hand).Counted held where
  shares := c.shares
  unique := c.unique
  known s hs := by
    obtain e | hs := Roster.mem_revise hs
    · exact known s e.symm
    · exact c.known s hs
  counted s line hl := by
    -- What was in hand counts for the table from now on, and what it held is in hand.
    have count := Roster.count_revise ht (some s) hand
    have old := c.counted s line hl
    simp only [withHeld, inHand, beq_iff_eq] at count old ⊢
    by_cases e : held = some s <;> by_cases e' : hand = some s <;>
      simp only [e, e', if_true, if_false] at count old ⊢ <;> omega
  mapped := c.mapped

theorem Counted.letGo (c : l.Counted none) (held : l.heldBy t = some s) :
    (l.withHeld t none).Counted (some s) :=
  c.exchange (held_of_heldBy held) nofun

theorem Counted.hold (c : l.Counted (some s)) (none : l.heldBy t = none)
    (known : t < l.held.next) (isOpen : s < l.sessions.next) :
    (l.withHeld t (some s)).Counted Option.none := by
  have ht : l.held.at? t = some Option.none := by
    have e := List.getElem?_eq_getElem known
    rw [heldBy, Roster.at?, e, Option.getD_some] at none
    rw [Roster.at?, e, none]
  refine c.exchange ht fun s' e => ?_
  rw [← Option.some.inj e]
  exact isOpen

theorem Counted.withTable {hand : Option Nat} (c : l.Counted hand) : l.withTable.Counted hand where
  shares := c.shares
  unique := c.unique
  known s hs := by
    obtain hs | e := List.mem_append.mp hs
    · exact c.known s hs
    · cases List.mem_singleton.mp e
  counted s line hl := by
    have old := c.counted s line hl
    simpa [Lines.withTable, Roster.join, List.count_append] using old
  mapped := c.mapped

end Tables

/-! ### Sessions that gain, lose and end -/

section Sessions

variable {l : Lines} {s : Nat} {hand : Option Nat}

/-- A count that changes along with the session that is in hand. -/
theorem Counted.withUsers {hand' : Option Nat} {n : Int} (c : l.Counted hand)
    (hn : ∀ s', inHand hand' s' = inHand hand s' + if s' = s then n else 0) :
    (l.withUsers s n).Counted hand' where
  shares := c.shares
  unique := c.unique
  known s' hs := by
    rw [Lines.withUsers, Roster.next_revise]
    exact c.known s' hs
  counted s' line hl := by
    rw [Lines.withUsers, Roster.at?_revise] at hl
    rw [hn s']
    split at hl
    next e =>
      obtain ⟨old, ho, rfl⟩ := Option.map_eq_some_iff.mp hl
      -- The users of the session itself change, as does whether it is in hand.
      rw [if_pos e.symm]
      have := c.counted s' old ho
      show old.useCount + n = _
      simp only [Lines.withUsers]
      omega
    next e =>
      rw [if_neg fun k => e k.symm]
      have := c.counted s' line hl
      simp only [Lines.withUsers]
      omega
  mapped key s' := by
    refine (c.mapped key s').trans ?_
    simp only [IsOpen, Lines.withUsers, Roster.at?_revise]
    by_cases e : s = s'
    · simp only [if_pos e, Option.map_eq_some_iff]
      constructor
      · rintro ⟨line, hl, hk, ho⟩
        exact ⟨_, ⟨line, hl, rfl⟩, hk, ho⟩
      · rintro ⟨_, ⟨line, hl, rfl⟩, hk, ho⟩
        exact ⟨line, hl, hk, ho⟩
    · simp only [if_neg e]

theorem isOpen_withOpen {key key' : LinkKey} {n : Nat} {users : Int} {s' : Nat} :
    (l.withOpen ⟨key, n, users, false⟩).IsOpen s' key' ↔
      (s' = l.sessions.next ∧ key = key') ∨ l.IsOpen s' key' := by
  simp only [IsOpen, withOpen, Roster.at?_join]
  -- The session is the new one, or one that was there before.
  by_cases e : s' = l.sessions.next
  · subst e
    simp [Roster.at?_next]
  · simp [e]

theorem Counted.withOpen {key : LinkKey} (c : l.Counted none) (vacant : ∀ s, ¬l.IsOpen s key)
    (n : Nat) : (l.withOpen ⟨key, n, 1, false⟩).Counted (some l.sessions.next) where
  shares := c.shares
  unique := by
    simp only [Lines.withOpen, c.shares, if_true]
    exact Ledger.unique_put c.unique key _
  known s hs := by
    rw [Lines.withOpen, Roster.next_join]
    exact Nat.lt_succ_of_lt (c.known s hs)
  counted s line hl := by
    simp only [Lines.withOpen, Roster.at?_join] at hl
    split at hl
    next e =>
      subst e
      -- Nobody holds a session before it is opened.
      have unheld : l.held.count (some l.sessions.next) = 0 :=
        List.count_eq_zero.mpr fun hs => Nat.lt_irrefl _ (c.known _ hs)
      obtain rfl := Option.some.inj hl
      simp [Lines.withOpen, inHand, unheld]
    next e =>
      have e' : ¬l.sessions.next = s := fun k => e k.symm
      have old := c.counted s line hl
      simpa [Lines.withOpen, inHand, e'] using old
  mapped key' s := by
    rw [isOpen_withOpen]
    simp only [Lines.withOpen, c.shares, if_true]
    by_cases e : key = key'
    · subst e
      rw [Ledger.value?_put_self]
      constructor
      · rintro h
        exact .inl ⟨(Option.some.inj h).symm, rfl⟩
      · rintro (⟨rfl, -⟩ | h)
        · rfl
        · exact (vacant s h).elim
    · rw [Ledger.value?_put_of_ne _ _ e, c.mapped]
      simp [e]

/-- Lines in which every session has the users that it has in others. -/
structure SameUsers (l l' : Lines) : Prop where
  held : l'.held = l.held
  shares : l'.shares = l.shares
  next : l'.sessions.next = l.sessions.next
  users : ∀ s line', l'.sessions.at? s = some line' →
    ∃ line, l.sessions.at? s = some line ∧ line.useCount = line'.useCount

/-- Where the users stay, only the shared sessions are to be looked after. -/
theorem Counted.of_sameUsers {l' : Lines} (c : l.Counted hand) (same : SameUsers l l')
    (unique : (l'.shared.map (·.1)).Nodup)
    (mapped : ∀ key s, l'.shared.value? key = some s ↔ l'.IsOpen s key) : l'.Counted hand where
  shares := same.shares.trans c.shares
  unique := unique
  known s hs := by
    rw [same.held] at hs
    rw [same.next]
    exact c.known s hs
  counted s line' hl := by
    obtain ⟨line, ho, e⟩ := same.users s line' hl
    rw [same.held, ← e]
    exact c.counted s line ho
  mapped := mapped

theorem sameUsers_discarded (l : Lines) (s : Nat) : SameUsers l (l.discarded s) where
  held := held_discarded l s
  shares := by unfold discarded; split <;> rfl
  next := by
    unfold discarded
    split
    · rfl
    · exact Roster.next_revise ..
  users s' line' hl := by
    rw [at?_discarded] at hl
    split at hl
    · obtain ⟨line, ho, rfl⟩ := Option.map_eq_some_iff.mp hl
      exact ⟨line, ho, rfl⟩
    · exact ⟨line', hl, rfl⟩

theorem shared_discarded (l : Lines) (s : Nat) : (l.discarded s).shared = l.shared := by
  unfold discarded
  split <;> rfl

theorem isOpen_discarded {key : LinkKey} {s' : Nat} :
    (l.discarded s).IsOpen s' key ↔ l.IsOpen s' key ∧ s' ≠ s := by
  simp only [IsOpen, at?_discarded]
  by_cases e : s = s'
  · subst e
    simp
  · have e' : s' ≠ s := fun k => e k.symm
    simp [e, e']

theorem IsOpen.key_eq {key : LinkKey} (o : l.IsOpen s key) : (l.line s).key = key := by
  obtain ⟨line, hl, hk, -⟩ := o
  rw [Lines.line, hl]
  exact hk

/-- A session that is closed is shared no longer. -/
theorem Counted.discard (c : l.Counted hand) (s : Nat) :
    ((l.unshared s).discarded s).Counted hand := by
  have same := sameUsers_discarded (l.unshared s) s
  refine c.of_sameUsers ⟨same.held, same.shares, same.next, same.users⟩ ?_ fun key s' => ?_
  · rw [shared_discarded, unshared]
    split
    · exact Ledger.unique_drop c.unique _
    · exact c.unique
  · rw [isOpen_discarded, shared_discarded]
    change Ledger.value? (l.unshared s).shared key = some s' ↔ l.IsOpen s' key ∧ s' ≠ s
    -- The pool shares a session under its own key, if at all.
    rw [← c.mapped, unshared]
    dsimp only
    split
    next shared =>
      by_cases e : (l.line s).key = key
      · subst e
        rw [Ledger.value?_drop_self, shared]
        simp [eq_comm]
      · rw [Ledger.value?_drop_of_ne _ e]
        refine ⟨fun h => ⟨h, ?_⟩, And.left⟩
        rintro rfl
        exact e ((c.mapped key s').mp h).key_eq
    next shared =>
      refine ⟨fun h => ⟨h, ?_⟩, And.left⟩
      rintro rfl
      have e := ((c.mapped key s').mp h).key_eq
      rw [e] at shared
      exact shared h

theorem sameUsers_foldl (sessions : Ledger LinkKey Nat) (l : Lines) :
    SameUsers l (sessions.foldl (fun l (_, s) => l.discarded s) l) := by
  induction sessions generalizing l with
  | nil => exact ⟨rfl, rfl, rfl, fun s line hl => ⟨line, hl, rfl⟩⟩
  | cons entry rest ih =>
    have first := sameUsers_discarded l entry.2
    have others := ih (l.discarded entry.2)
    refine ⟨others.held.trans first.held, others.shares.trans first.shares,
      others.next.trans first.next, fun s line hl => ?_⟩
    obtain ⟨line', hl', e'⟩ := others.users s line hl
    obtain ⟨line'', hl'', e''⟩ := first.users s line' hl'
    exact ⟨line'', hl'', e''.trans e'⟩

theorem shared_foldl (sessions : Ledger LinkKey Nat) (l : Lines) :
    (sessions.foldl (fun l (_, s) => l.discarded s) l).shared = l.shared := by
  induction sessions generalizing l with
  | nil => rfl
  | cons entry rest ih => exact (ih _).trans (shared_discarded l entry.2)

theorem isOpen_foldl {key : LinkKey} {s' : Nat} (sessions : Ledger LinkKey Nat) (l : Lines) :
    (sessions.foldl (fun l (_, s) => l.discarded s) l).IsOpen s' key ↔
      l.IsOpen s' key ∧ s' ∉ sessions.map (·.2) := by
  induction sessions generalizing l with
  | nil => simp
  | cons entry rest ih =>
    rw [List.foldl_cons, ih, isOpen_discarded]
    simp [and_assoc]

theorem Counted.poolClosed (c : l.Counted hand) : l.poolClosed.Counted hand := by
  have same := sameUsers_foldl l.shared { l with shared := [] }
  refine c.of_sameUsers ⟨same.held, same.shares, same.next, same.users⟩ ?_ fun key s => ?_
  · rw [Lines.poolClosed, shared_foldl]
    exact List.nodup_nil
  · rw [Lines.poolClosed, shared_foldl, isOpen_foldl]
    -- An open session was shared, and what was shared has been closed.
    refine ⟨nofun, fun ⟨o, unshared⟩ => ?_⟩
    have shared := Ledger.mem_of_value? ((c.mapped key s).mpr o)
    exact (unshared (List.mem_map_of_mem shared)).elim

/-- The user who has a session in hand leaves it. -/
theorem Counted.leave (c : l.Counted (some s)) : (l.withUsers s (-1)).Counted none := by
  refine c.withUsers fun s' => ?_
  simp only [inHand, reduceCtorEq, if_false, Option.some.injEq]
  by_cases e : s = s'
  · simp [e]
  · have e' : s' ≠ s := fun k => e k.symm
    simp [e, e']

theorem Counted.released (c : l.Counted (some s)) (force : Bool) :
    (l.released s force).Counted none := by
  unfold Lines.released
  dsimp only
  split
  · exact c.leave
  · exact c.leave.discard s

end Sessions

/-- Every step of the pool keeps the sessions counted. -/
theorem counted_lineLogic (t : Nat) : LineLogic t (countedIn t) where
  settle := And.left
  join {l} c ht := by
    refine ⟨c.withTable, ?_⟩
    rw [heldBy, withTable, ht, Roster.at?_join_next]
    rfl
  loosen c none := ⟨c, none⟩
  letGo c held := ⟨⟨c.letGo held, heldBy_withHeld_none⟩, c.known _ (List.mem_of_getElem?
    (held_of_heldBy held))⟩
  hold c known := c.1.1.hold c.1.2 known c.2
  share {l key s} c shares value isOpen := by
    refine ⟨⟨c.1.withUsers fun s' => ?_, c.2⟩, ?_⟩
    · simp only [inHand, reduceCtorEq, if_false, Option.some.injEq, Int.zero_add]
      simp only [eq_comm]
    · -- What is shared is open, so it is there.
      rw [withUsers, Roster.next_revise]
      obtain ⟨line, hl, -⟩ := (c.1.mapped key s).mp value
      exact (List.getElem?_eq_some_iff.mp hl).1
  vacate {l key} c closed := by
    refine ⟨c, fun s o => ?_⟩
    -- An open session of the target would be shared, and the shared one is closed.
    have e := closed c.1.shares s ((c.1.mapped key s).mpr o)
    obtain ⟨line, hl, -, ho⟩ := o
    rw [Lines.line, hl] at e
    exact Bool.false_ne_true (ho.symm.trans e)
  occupy c := c.1
  refuse c := ⟨⟨c.1.1.shares, c.1.1.unique, c.1.1.known, c.1.1.counted, c.1.1.mapped⟩, c.1.2⟩
  connect c := ⟨⟨⟨c.1.1.shares, c.1.1.unique, c.1.1.known, c.1.1.counted, c.1.1.mapped⟩, c.1.2⟩,
    c.2⟩
  openLine {l key n} c := by
    refine ⟨⟨c.1.1.withOpen c.2 n, c.1.2⟩, ?_⟩
    rw [withOpen, Roster.next_join]
    exact Nat.lt_succ_self _
  release {l s} c force := by
    refine ⟨c.1.1.released force, ?_⟩
    rw [heldBy, held_released]
    exact c.1.2
  closePool c := c.poolClosed

/-! ### The last table -/

section Last

variable {l : Lines} {t s : Nat}

theorem heldBy_iff_mem : (∃ t', l.heldBy t' = some s) ↔ some s ∈ l.held := by
  constructor
  · rintro ⟨t', held⟩
    exact List.mem_of_getElem? (held_of_heldBy held)
  · intro hs
    obtain ⟨t', ht⟩ := List.mem_iff_getElem?.mp hs
    refine ⟨t', ?_⟩
    rw [heldBy, Roster.at?, ht]
    rfl

/-- The tables that hold a session when one of them has let it go. -/
theorem heldBy_withHeld_none_iff {t' : Nat} :
    (l.withHeld t none).heldBy t' = some s ↔ t' ≠ t ∧ l.heldBy t' = some s := by
  by_cases e : t = t'
  · subst e
    simp [heldBy_withHeld_none]
  · have e' : t' ≠ t := fun k => e k.symm
    rw [heldBy_withHeld_of_ne e']
    simp [e']

/-- A table that lets its session go closes it if nobody else holds it, unless it is closed. -/
theorem Counted.closeLink (c : l.Counted none) (held : l.heldBy t = some s) :
    ((l.line s).closed = false → (¬∃ t', t' ≠ t ∧ l.heldBy t' = some s) →
      ((l.withHeld t none).released s false).moves = .closed (l.line s).connection :: l.moves ∧
        (((l.withHeld t none).released s false).line s).closed = true) ∧
    ((l.line s).closed = true ∨ (∃ t', t' ≠ t ∧ l.heldBy t' = some s) →
      ((l.withHeld t none).released s false).moves = l.moves ∧
        (((l.withHeld t none).released s false).line s).closed = (l.line s).closed) := by
  have c' := c.letGo held
  obtain ⟨line, hl⟩ : ∃ line, (l.withHeld t none).sessions.at? s = some line :=
    ⟨_, List.getElem?_eq_getElem (c.known s (List.mem_of_getElem? (held_of_heldBy held)))⟩
  -- The users that are left are the other tables.
  have others : (∃ t', t' ≠ t ∧ l.heldBy t' = some s) ↔ 0 < line.useCount + -1 := by
    have users := c'.leave.counted s _ (at?_withUsers hl (-1))
    simp only [inHand, reduceCtorEq, if_false] at users
    simp only [← heldBy_withHeld_none_iff, heldBy_iff_mem, ← List.count_pos_iff]
    have e : ((l.withHeld t none).withUsers s (-1)).held = (l.withHeld t none).held := rfl
    rw [e] at users
    omega
  have el : l.line s = line := line_of_at? hl
  rw [el, others]
  constructor
  · intro isOpen last
    have behind := released_last false hl (.inr last)
    rw [isOpen] at behind
    exact behind
  · intro kept
    by_cases users : 0 < line.useCount + -1
    · rw [released_of_users hl users, line_of_at? (at?_withUsers hl (-1))]
      exact ⟨rfl, rfl⟩
    · have closed := kept.resolve_right users
      have behind := released_last false hl (.inr users)
      rw [closed] at behind ⊢
      exact behind

end Last

end Lines

/-! ### Runs -/

namespace Host

/-- The number of tables that hold a session. -/
def holders (h : Host) (s : Nat) : Nat := (h.tables.map LinkedTable.session).count (some s)

/-- Every operation on tables keeps the sessions counted. -/
theorem counted_perform {h : Host} {o : Operation} (uses : o.UsesTables)
    (c : h.lines.Counted none) : (h.perform o).2.lines.Counted none := by
  refine (Lines.counted_lineLogic ((o.subject h).getD 0)).perform uses (fun t ht => ?_) c
  rw [ht]
  rfl

theorem counted_after {run : List Operation} (uses : ∀ o ∈ run, o.UsesTables) {h : Host}
    (c : h.lines.Counted none) : (h.after run).lines.Counted none := by
  induction run generalizing h with
  | nil => exact c
  | cons o run ih =>
    exact ih (fun o' ho => uses o' (List.mem_cons_of_mem _ ho))
      (counted_perform (uses o (List.mem_cons_self ..)) c)

/-- A pool that shares and has shared nothing yet counts right. -/
theorem counted_start (script : Remote.Script) {pool : Pool} (level : Level)
    (shares : pool.shares = true) (shared : pool.shared = []) :
    (start script pool level).lines.Counted none where
  shares := shares
  unique := by
    rw [show (start script pool level).lines.shared = [] from shared]
    exact List.nodup_nil
  known := nofun
  counted := nofun
  mapped key s := by
    rw [show (start script pool level).lines.shared = [] from shared]
    exact ⟨nofun, fun ⟨_, hl, _⟩ => nomatch hl⟩

/-- Closing the link of a table that holds a session. -/
theorem perform_closeLink {h : Host} {t s : Nat} (held : (h.table t).session = some s) :
    (h.perform (.closeLink t)).1 = .ok .done ∧
      (h.perform (.closeLink t)).2.lines = (h.lines.withHeld t none).released s false := by
  have held' : h.lines.heldBy t = some s := by rw [h.lines_heldBy, held]
  have closed : Action.Coupled (Unmoved h.lines h.cursors) (Operation.closeLink t).perform
      (Operation.closeLink t).perform
      (fun a _ k k' => a = .done ∧
        Unmoved ((h.lines.withHeld t none).released s false) h.cursors k k')
      fun _ _ => False :=
    Action.Coupled.bind (LineLogic.lines_closeLink held') fun _ _ =>
      Action.Coupled.of_pure fun _ _ r => ⟨rfl, r⟩
  obtain ⟨a, _, ha, -, rfl, -, hl, -⟩ := (closed ⟨rfl, rfl, rfl⟩).of_safe
  exact ⟨ha, hl⟩

end Host

open Host

/-- On a pool that shares, behind every run of operations on tables: the users of a session are the
tables that hold it; at most one session of a target is open; the sessions that the pool keeps are
open ones of their targets; and a table that closes its link closes the connection exactly if it is
open and no other table holds the session. -/
theorem sessions_of_tables (script : Remote.Script) (pool : Pool) (level : Level)
    (shares : pool.shares = true) (unused : pool.shared = []) (run : List Operation)
    (uses : ∀ o ∈ run, o.UsesTables) :
    let h := (start script pool level).after run
    (∀ s, s < h.sessions.next → (h.session s).useCount = h.holders s) ∧
    (∀ s s', s < h.sessions.next → s' < h.sessions.next → (h.session s).closed = false →
      (h.session s').closed = false → (h.session s).key = (h.session s').key → s = s') ∧
    (∀ key s, (key, s) ∈ h.pool.shared →
      s < h.sessions.next ∧ (h.session s).key = key ∧ (h.session s).closed = false) ∧
    ∀ t s, (h.table t).session = some s →
      let behind := (h.perform (.closeLink t)).2
      let others := ∃ t', t' ≠ t ∧ (h.table t').session = some s
      (h.perform (.closeLink t)).1 = .ok .done ∧
      ((h.session s).closed = false → ¬others →
        behind.moves = .closed (h.session s).connection :: h.moves ∧
          (behind.session s).closed = true) ∧
      ((h.session s).closed = true ∨ others →
        behind.moves = h.moves ∧ (behind.session s).closed = (h.session s).closed) := by
  intro h
  have c : h.lines.Counted none := counted_after uses (counted_start script level shares unused)
  have isOpen (s : Nat) (hs : s < h.sessions.next) (o : (h.session s).closed = false) :
      h.lines.IsOpen s (h.session s).key := ⟨_, lines_at? hs, rfl, o⟩
  refine ⟨fun s hs => ?_, fun s s' hs hs' o o' key => ?_, fun key s shared => ?_,
    fun t s held => ?_⟩
  · have count := c.counted s _ (lines_at? hs)
    rw [Lines.inHand, if_neg (by simp), Int.add_zero] at count
    exact count
  · -- Two open sessions of one target would both be the one that is shared.
    have value := (c.mapped _ s).mpr (isOpen s hs o)
    have value' := (c.mapped _ s').mpr (isOpen s' hs' o')
    rw [key, value'] at value
    exact (Option.some.inj value).symm
  · obtain ⟨found, hl, hk, ho⟩ := (c.mapped key s).mp (Ledger.value?_of_mem c.unique shared)
    have known : s < h.sessions.next := by
      rw [← h.lines_next]
      exact (List.getElem?_eq_some_iff.mp hl).1
    obtain rfl := Option.some.inj ((lines_at? known).symm.trans hl)
    exact ⟨known, hk, ho⟩
  · obtain ⟨done, behind⟩ := perform_closeLink held
    rw [← h.lines_heldBy] at held
    have closing := c.closeLink held
    simp only [← behind, h.lines_heldBy, lines_line] at closing
    exact ⟨done, closing⟩

/-- Two tables use one session, and it stays open for the second when the first one closes. -/
theorem sessions_of_two_tables :
    let run := [.createTable (.bare "FIRST"), .createTable (.bare "SECOND")]
    let h := (start .quiet (.bare true) .error).after run
    (∀ o ∈ run, o.UsesTables) ∧ (h.session 0).useCount = 2 ∧
      ((h.perform (.closeLink 0)).2.session 0).closed = false := by
  intro run h
  have uses : ∀ o ∈ run, o.UsesTables := by decide
  obtain ⟨counts, -, -, closing⟩ :=
    sessions_of_tables .quiet (.bare true) .error rfl rfl run uses
  refine ⟨uses, ?_, ?_⟩
  · have two : h.holders 0 = 2 := by decide +kernel
    rw [counts 0 (by decide +kernel), two]
    rfl
  · have held : (h.table 0).session = some 0 := by decide +kernel
    have other : (h.table 1).session = some 0 := by decide +kernel
    have isOpen : (h.session 0).closed = false := by decide +kernel
    have behind := (closing 0 0 held).2.2 (.inr ⟨1, by decide, other⟩)
    exact behind.2.trans isOpen

end LinkedTables
