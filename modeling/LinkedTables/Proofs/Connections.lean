import LinkedTables.Proofs.LineLogic

/-!
# Connections

On a pool that does not share its sessions, every connection that is opened in the work for a table
is closed in it, except the one of the session that the table holds, and none is closed twice.
`Balanced` says so of the lines, given the moves made for each table and the connection that each
table has; each step of the pool keeps it (`balanced_lineLogic`).
-/

namespace LinkedTables

namespace Move

/-- The connection that is opened. -/
def opened? : Move → Option Nat
  | opened n => some n
  | closed _ => none

/-- The connection that is closed. -/
def closed? : Move → Option Nat
  | opened _ => none
  | closed n => some n

end Move

/-- The connections that are opened. -/
def openings (moves : List Move) : List Nat := moves.filterMap Move.opened?

/-- The connections that are closed. -/
def closings (moves : List Move) : List Nat := moves.filterMap Move.closed?

namespace Lines

/-- The moves made for each table, with more made for one. -/
def credited (made : Nat → List Move) (t : Nat) (new : List Move) : Nat → List Move :=
  fun t' => if t' = t then new ++ made t else made t'

/-- The connections that tables have are those that were opened for them and not closed; no two
tables have the same, and none has been closed twice. -/
structure Balanced (made : Nat → List Move) (has : Nat → Option Nat) (l : Lines) : Prop where
  apart : l.shares = false
  unshared : l.shared = []
  balance : ∀ t, (openings (made t)).Perm (closings (made t) ++ (has t).toList)
  single : ∀ t t' n, has t = some n → has t' = some n → t = t'
  fresh : ∀ t n, has t = some n → n ≤ l.connects ∧ n ∉ closings l.moves
  once : (closings l.moves).Nodup
  known : ∀ n ∈ closings l.moves, n ≤ l.connects

/-- A session is open for one user, on a connection. -/
def OpenOn (l : Lines) (s n : Nat) : Prop :=
  ∃ line, l.sessions.at? s = some line ∧ line.closed = false ∧ line.useCount = 1 ∧
    line.connection = n

/-- A table has the connection of the session that it holds. -/
structure Holds (l : Lines) (has : Nat → Option Nat) (t : Nat) : Prop where
  session : ∀ s, l.heldBy t = some s → ∃ n, has t = some n ∧ l.OpenOn s n
  none : l.heldBy t = none → has t = none

/-- What work on a table has done so far: moves that are credited to it, while the other tables hold
what they held. -/
def Works (old : List Move) (made : Nat → List Move) (t : Nat)
    (work : (Nat → Option Nat) → Lines → Prop) (l : Lines) : Prop :=
  ∃ new has, l.moves = new ++ old ∧ l.Balanced (credited made t new) has ∧
    (∀ t', t' ≠ t → l.Holds has t') ∧ work has l

/-- How far the work on a table has come. -/
def Stands (t : Nat) : Phase → (Nat → Option Nat) → Lines → Prop
  | .settled, has, l | .busy .., has, l | .spent .., has, l => l.Holds has t
  | .loose, has, l | .vacant _, has, l => l.heldBy t = none ∧ has t = none
  | .line _ n, has, l => l.heldBy t = none ∧ has t = some n
  | .inHand s, has, l => l.heldBy t = none ∧ ∃ n, has t = some n ∧ l.OpenOn s n

/-- The predicate of each phase. -/
def balancedIn (old : List Move) (made : Nat → List Move) (t : Nat) (p : Phase) : Lines → Prop :=
  Works old made t (Stands t p)

/-- What each table has, with another connection or none for one. -/
def having (has : Nat → Option Nat) (t : Nat) (n : Option Nat) : Nat → Option Nat :=
  fun t' => if t' = t then n else has t'

/-! ### What the steps do to connections -/

section Steps

variable {l l' : Lines} {made : Nat → List Move} {has : Nat → Option Nat} {t n s : Nat}
  {new : List Move}

/-- Only sharing and the moves matter for the balance, and no number comes up twice. -/
theorem Balanced.of_moves (b : l.Balanced made has) (shares : l'.shares = l.shares)
    (shared : l'.shared = l.shared) (moves : l'.moves = l.moves) (more : l.connects ≤ l'.connects) :
    l'.Balanced made has where
  apart := shares.trans b.apart
  unshared := shared.trans b.unshared
  balance := b.balance
  single := b.single
  fresh t n hn := by
    rw [moves]
    exact ⟨Nat.le_trans (b.fresh t n hn).1 more, (b.fresh t n hn).2⟩
  once := by
    rw [moves]
    exact b.once
  known n hn := by
    rw [moves] at hn
    exact Nat.le_trans (b.known n hn) more

/-- A table that has nothing gets a connection with a number that no other had. -/
theorem Balanced.connected (b : l.Balanced (credited made t new) has) (none : has t = none) :
    l.connected.Balanced (credited made t (.opened (l.connects + 1) :: new))
      (having has t (some (l.connects + 1))) where
  apart := b.apart
  unshared := b.unshared
  balance t' := by
    have balance := b.balance t'
    by_cases e : t' = t
    · subst e
      simp only [credited, having, if_true] at balance ⊢
      -- The table had nothing, so that its openings and closings were the same.
      rw [none, Option.toList_none, List.append_nil] at balance
      exact (balance.cons (l.connects + 1)).trans (List.perm_append_singleton ..).symm
    · simp only [credited, having, if_neg e] at balance ⊢
      exact balance
  single t₁ t₂ n h₁ h₂ := by
    simp only [having] at h₁ h₂
    split at h₁ <;> split at h₂
    next e₁ e₂ => exact e₁.trans e₂.symm
    -- The numbers of the connections there were are smaller than that of the new one.
    next e₁ e₂ =>
      have small := (b.fresh t₂ n h₂).1
      have := Option.some.inj h₁
      omega
    next e₁ e₂ =>
      have small := (b.fresh t₁ n h₁).1
      have := Option.some.inj h₂
      omega
    next e₁ e₂ => exact b.single t₁ t₂ n h₁ h₂
  fresh t' n hn := by
    simp only [having] at hn
    split at hn
    next e =>
      obtain rfl := Option.some.inj hn
      exact ⟨Nat.le_refl _, fun closed => Nat.lt_irrefl _ (b.known _ closed)⟩
    next e => exact ⟨Nat.le_succ_of_le (b.fresh t' n hn).1, (b.fresh t' n hn).2⟩
  once := b.once
  known n hn := Nat.le_succ_of_le (b.known n hn)

/-- A table loses the connection that it has when that is closed. -/
theorem Balanced.disconnected (b : l.Balanced (credited made t new) has) (some : has t = some n)
    (shares : l'.shares = l.shares) (shared : l'.shared = l.shared)
    (connects : l'.connects = l.connects) (moves : l'.moves = .closed n :: l.moves) :
    l'.Balanced (credited made t (.closed n :: new)) (having has t none) where
  apart := shares.trans b.apart
  unshared := shared.trans b.unshared
  balance t' := by
    have balance := b.balance t'
    by_cases e : t' = t
    · subst e
      simp only [credited, having, if_true] at balance ⊢
      -- The connection moves from what the table has to what was closed.
      rw [some] at balance
      rw [Option.toList_none, List.append_nil]
      exact balance.trans (List.perm_append_singleton n _)
    · simp only [credited, having, if_neg e] at balance ⊢
      exact balance
  single t₁ t₂ n' h₁ h₂ := by
    simp only [having] at h₁ h₂
    split at h₁ <;> split at h₂
    next e₁ e₂ => exact e₁.trans e₂.symm
    next => cases h₁
    next => cases h₂
    next e₁ e₂ => exact b.single t₁ t₂ n' h₁ h₂
  fresh t' n' hn := by
    simp only [having] at hn
    split at hn
    next => cases hn
    next e =>
      rw [connects, moves]
      refine ⟨(b.fresh t' n' hn).1, fun closed => ?_⟩
      rcases List.mem_cons.mp closed with rfl | closed
      · exact e (b.single t' t n' hn some)
      · exact (b.fresh t' n' hn).2 closed
  once := by
    rw [moves]
    exact List.nodup_cons.mpr ⟨(b.fresh t n some).2, b.once⟩
  known n' hn := by
    rw [moves] at hn
    rw [connects]
    rcases List.mem_cons.mp hn with rfl | hn
    · exact (b.fresh t n' some).1
    · exact b.known n' hn

/-- What a table holds depends on what is held, on the sessions, and on what the table has. -/
theorem Holds.of_sessions {has' : Nat → Option Nat} (hold : l.Holds has t)
    (held : l'.heldBy t = l.heldBy t) (has_eq : has' t = has t)
    (sessions : ∀ s n, has t = some n → l.OpenOn s n → l'.OpenOn s n) : l'.Holds has' t where
  session s hs := by
    rw [held] at hs
    obtain ⟨n, hn, o⟩ := hold.session s hs
    exact ⟨n, has_eq.trans hn, sessions s n hn o⟩
  none hs := by
    rw [held] at hs
    exact has_eq.trans (hold.none hs)

end Steps

/-! ### The phases -/

section Phases

variable {l : Lines} {old : List Move} {made : Nat → List Move} {t s n : Nat}

theorem having_of_ne {has : Nat → Option Nat} {t' : Nat} (e : t' ≠ t) (n : Option Nat) :
    having has t n t' = has t' := if_neg e

theorem having_self {has : Nat → Option Nat} (n : Option Nat) : having has t n t = n := if_pos rfl

/-- A step that makes no move and leaves the sessions and the other tables alone. -/
theorem Works.step {work work' : (Nat → Option Nat) → Lines → Prop} {l' : Lines}
    (w : Works old made t work l) (shares : l'.shares = l.shares) (shared : l'.shared = l.shared)
    (moves : l'.moves = l.moves) (more : l.connects ≤ l'.connects)
    (held : ∀ t', t' ≠ t → l'.heldBy t' = l.heldBy t')
    (sessions : ∀ s n, l.OpenOn s n → l'.OpenOn s n)
    (hwork : ∀ has, work has l → work' has l') : Works old made t work' l' := by
  obtain ⟨new, has, hm, b, others, at'⟩ := w
  refine ⟨new, has, moves.trans hm, b.of_moves shares shared moves more, fun t' e => ?_,
    hwork has at'⟩
  exact (others t' e).of_sessions (held t' e) rfl fun s n _ => sessions s n

theorem openOn_withOpen {line : Line} (o : l.OpenOn s n) : (l.withOpen line).OpenOn s n := by
  obtain ⟨found, hl, rest⟩ := o
  refine ⟨found, ?_, rest⟩
  rw [withOpen, Roster.at?_join_of_lt (List.getElem?_eq_some_iff.mp hl).1]
  exact hl

/-- A pool that has shared nothing has nothing to close. -/
theorem poolClosed_of_unshared (unshared : l.shared = []) : l.poolClosed = l := by
  obtain ⟨sessions, held, shares, shared, connects, moves⟩ := l
  obtain rfl : shared = [] := unshared
  rfl

/-- A session that is open for one user is closed when it is given back, with force or without. -/
theorem released_of_openOn (o : l.OpenOn s n) (unshared : l.shared = []) (force : Bool) :
    l.released s force = { l with
      sessions := (l.withUsers s (-1)).sessions.revise s fun line => { line with closed := true }
      moves := .closed n :: l.moves } := by
  obtain ⟨line, found, isOpen, users, connection⟩ := o
  have last : force = true ∨ ¬0 < line.useCount + -1 := .inr (by omega)
  have found' : ((l.withUsers s (-1)).unshared s).sessions.at? s
      = some { line with useCount := line.useCount + -1 } := at?_withUsers found (-1)
  have none : ((l.withUsers s (-1)).unshared s).shared = [] := by
    have empty : (l.withUsers s (-1)).shared = [] := unshared
    simp only [Lines.unshared, empty, Ledger.value?, reduceCtorEq, if_false]
  rw [released_of_last force found last, discarded, line_of_at? found',
    if_neg (by rw [isOpen]; exact Bool.false_ne_true), connection, none, unshared]
  rfl

/-- The session that is given back is closed, as it has one user. -/
theorem Works.release (w : balancedIn old made t (.inHand s) l) (force : Bool) :
    balancedIn old made t .loose (l.released s force) := by
  obtain ⟨new, has, hm, b, others, none, n, hn, o⟩ := w
  have eq := released_of_openOn o b.unshared force
  obtain ⟨line, found, -, -, connection⟩ := o
  have held : (l.released s force).heldBy t = Option.none := by
    rw [heldBy, held_released]
    exact none
  have moves : (l.released s force).moves = .closed n :: l.moves := by rw [eq]
  refine ⟨.closed n :: new, having has t Option.none, ?_, ?_, fun t' e => ?_, held, having_self _⟩
  · rw [moves, hm]
    rfl
  · refine b.disconnected hn ?_ ?_ ?_ moves
    · rw [eq]
    · rw [eq]
    · rw [eq]
  · refine (others t' e).of_sessions ?_ (having_of_ne e _) fun s' n' hn' o => ?_
    · rw [heldBy, held_released]
      rfl
    · obtain ⟨line', found', rest⟩ := o
      refine ⟨line', ?_, rest⟩
      -- The session of another table is another session.
      have other : s ≠ s' := by
        rintro rfl
        obtain rfl := Option.some.inj (found.symm.trans found')
        obtain rfl : n = n' := connection.symm.trans rest.2.2
        exact e (b.single t' t n hn' hn)
      rw [eq]
      simp only [withUsers, Roster.at?_revise_of_ne _ other, found']

end Phases

/-- Every step of the pool keeps the balance. -/
theorem balanced_lineLogic (old : List Move) (made : Nat → List Move) (t : Nat) :
    LineLogic t (balancedIn old made t) where
  settle w := by
    refine Works.step w rfl rfl rfl (Nat.le_refl _) (fun _ _ => rfl) (fun _ _ o => o) ?_
    rintro has ⟨free, no⟩
    refine ⟨fun s hs => ?_, fun _ => no⟩
    rw [free] at hs
    cases hs
  join {l} w ht := by
    have none : l.heldBy t = Option.none := by
      rw [heldBy, ht, Roster.at?_next]
      rfl
    have none' : l.withTable.heldBy t = Option.none := by
      rw [heldBy, withTable, ht, Roster.at?_join_next]
      rfl
    refine Works.step w rfl rfl rfl (Nat.le_refl _) (fun t' e => ?_) (fun _ _ o => o)
      fun has hold => ⟨none', hold.none none⟩
    simp only [heldBy, withTable, Roster.at?_join, if_neg (ht ▸ e)]
  loosen w none := Works.step w rfl rfl rfl (Nat.le_refl _) (fun _ _ => rfl) (fun _ _ o => o)
    fun has hold => ⟨none, hold.none none⟩
  letGo w held := Works.step w rfl rfl rfl (Nat.le_refl _)
    (fun _ e => heldBy_withHeld_of_ne e _) (fun _ _ o => o)
    fun has hold => ⟨heldBy_withHeld_none, hold.session _ held⟩
  hold {l s} w known := by
    refine Works.step w rfl rfl rfl (Nat.le_refl _) (fun _ e => heldBy_withHeld_of_ne e _)
      (fun _ _ o => o) ?_
    rintro has ⟨-, hand⟩
    refine ⟨fun s' hs => ?_, fun hs => ?_⟩
    · rw [heldBy_withHeld known] at hs
      obtain rfl := Option.some.inj hs
      exact hand
    · rw [heldBy_withHeld known] at hs
      cases hs
  share {l key s} w shares := by
    obtain ⟨new, has, hm, b, -⟩ := w
    exact absurd (b.apart.symm.trans shares) Bool.false_ne_true
  vacate w _ := w
  occupy w := w
  -- A connect that fails uses up a number.
  refuse w := Works.step w rfl rfl rfl (Nat.le_succ _) (fun _ _ => rfl) (fun _ _ o => o)
    fun _ stands => stands
  connect {l key} w := by
    obtain ⟨new, has, hm, b, others, none, no⟩ := w
    refine ⟨.opened (l.connects + 1) :: new, having has t (some (l.connects + 1)),
      congrArg _ hm, b.connected no, fun t' e => ?_, none, having_self _⟩
    exact (others t' e).of_sessions rfl (having_of_ne e _) fun _ _ _ o => o
  openLine {l key n} w := by
    have shared : (l.withOpen ⟨key, n, 1, false⟩).shared = l.shared := by
      obtain ⟨new, has, hm, b, -⟩ := w
      simp only [withOpen, b.apart, Bool.false_eq_true, if_false]
    refine Works.step w rfl shared rfl (Nat.le_refl _) (fun _ _ => rfl)
      (fun _ _ o => openOn_withOpen o) ?_
    rintro has ⟨free, hn⟩
    refine ⟨free, n, hn, ?_⟩
    exact ⟨_, Roster.at?_join_next .., rfl, rfl, rfl⟩
  release w force := Works.release w force
  closePool {l} w := by
    have unshared : l.shared = [] := by
      obtain ⟨new, has, hm, b, -⟩ := w
      exact b.unshared
    rw [poolClosed_of_unshared unshared]
    exact w

/-- Between operations every table has the connection of the session that it holds. -/
def Settled (made : Nat → List Move) (l : Lines) : Prop :=
  ∃ has, l.Balanced made has ∧ ∀ t, l.Holds has t

theorem credited_nil (made : Nat → List Move) (t : Nat) : credited made t [] = made := by
  funext t'
  unfold credited
  split
  next e => rw [e, List.nil_append]
  next => rfl

theorem Settled.begin {made : Nat → List Move} {l : Lines} (settled : l.Settled made) (t : Nat) :
    balancedIn l.moves made t .settled l := by
  obtain ⟨has, b, holds⟩ := settled
  exact ⟨[], has, rfl, by rw [credited_nil]; exact b, fun t' _ => holds t', holds t⟩

end Lines

/-! ### Runs -/

namespace Host

/-- The moves that an operation makes. -/
def movesOf (h : Host) (o : Operation) : List Move :=
  (h.perform o).2.moves.take ((h.perform o).2.moves.length - h.moves.length)

/-- The moves that a run makes in its work for a table, the latest first. -/
def movesFor (t : Nat) : Host → List Operation → List Move
  | _, [] => []
  | h, o :: run =>
    movesFor t (h.perform o).2 run ++ if o.subject h = some t then h.movesOf o else []

theorem movesOf_eq {h : Host} {o : Operation} {new : List Move}
    (made : (h.perform o).2.moves = new ++ h.moves) : h.movesOf o = new := by
  rw [movesOf, made, List.length_append, Nat.add_sub_cancel]
  exact List.take_left' rfl

open LinkedTables.Action in
/-- An operation that works for no table makes no move, if the pool has nothing to close. -/
theorem lines_of_no_subject {h : Host} {o : Operation} (uses : o.UsesTables)
    (none : o.subject h = none) (unshared : h.lines.shared = []) :
    (h.perform o).2.lines = h.lines := by
  have kept {x : Action Reply} (hx : ∀ l cs, Steady (Unmoved l cs) x) :
      (h.act x).2.lines = h.lines := (Steady.unmoved hx h).1
  cases o with
  | join convert =>
    exact kept fun l cs => Leads.reply (steady_joinClient (quiet_unmoved l cs) convert) Reply.client
  | clearUndo client =>
    exact kept fun l cs => Leads.silently (steady_clearUndo (quiet_unmoved l cs) client)
  | fetchAll r =>
    exact kept fun l cs => Leads.reply (steady_fetchAll (quiet_unmoved l cs) r) Reply.rows
  | closeStatement st => exact kept fun l cs => Leads.silently (unmoved_closeStatement st).steady
  | dropTable schema name =>
    -- The operation works for no table only if none is registered under the name.
    have unknown : h.registry.value? (schema, name) = Option.none := by
      simpa [Operation.subject] using none
    have refused : ∃ fault, h.registry.remove schema name = .error fault := by
      unfold Registry.remove
      rw [unknown]
      exact ⟨_, rfl⟩
    obtain ⟨fault, refused⟩ := refused
    have ended : h.act (Action.dropTable schema name) = (.error fault, h) := by
      unfold Action.dropTable
      rw [act_get_bind, refused]
      rfl
    show (h.act (silently (Action.dropTable schema name))).2.lines = h.lines
    unfold silently
    rw [act_bind_error h ended]
  | closePool =>
    have closed : Leads (Unmoved h.lines h.cursors) (silently Action.closePool)
        (silently Action.closePool) (fun _ => Unmoved h.lines.poolClosed h.cursors)
        fun _ _ => False := Coupled.silently lines_closePool
    obtain ⟨_, _, -, -, -, -, hl, -⟩ := (closed ⟨rfl, rfl, rfl⟩).of_safe
    rw [Lines.poolClosed_of_unshared unshared] at hl
    exact hl
  | connect | acquire | release | prepare | executeStatement | putStatement | takeStatement
  | clearStatements | discard => exact uses.elim
  | _ => cases none

/-- An operation credits its moves to the table that it works for. -/
theorem settled_perform {h : Host} {o : Operation} (uses : o.UsesTables) {made : Nat → List Move}
    (settled : h.lines.Settled made) :
    (h.perform o).2.lines.Settled
      fun t => (if o.subject h = some t then h.movesOf o else []) ++ made t := by
  cases subject : o.subject h with
  | none =>
    have unshared : h.lines.shared = [] := by
      obtain ⟨has, b, -⟩ := settled
      exact b.unshared
    rw [lines_of_no_subject uses subject unshared]
    simpa using settled
  | some t =>
    have behind := (Lines.balanced_lineLogic h.lines.moves made t).perform uses
      (fun t' e => Option.some.inj (e.symm.trans subject)) (settled.begin t)
    obtain ⟨new, has, hm, b, others, hold⟩ := behind
    -- What was credited to the subject are the moves that the operation has made.
    refine ⟨has, ?_, fun t' => ?_⟩
    · have e : Lines.credited made t new
          = fun t' => (if some t = some t' then h.movesOf o else []) ++ made t' := by
        funext t'
        rw [movesOf_eq hm, Lines.credited]
        by_cases e : t' = t
        · subst e
          simp
        · have e' : t ≠ t' := fun k => e k.symm
          simp [e, e']
      rw [← e]
      exact b
    · by_cases e : t' = t
      · rw [e]
        exact hold
      · exact others t' e

theorem settled_after {run : List Operation} (uses : ∀ o ∈ run, o.UsesTables) {h : Host}
    {made : Nat → List Move} (settled : h.lines.Settled made) :
    (h.after run).lines.Settled fun t => h.movesFor t run ++ made t := by
  induction run generalizing h made with
  | nil => exact settled
  | cons o run ih =>
    have step := settled_perform (uses o (List.mem_cons_self ..)) settled
    have rest := ih (fun o' ho => uses o' (List.mem_cons_of_mem _ ho)) step
    have e : h.after (o :: run) = (h.perform o).2.after run := rfl
    rw [e]
    simpa only [movesFor, List.append_assoc] using rest

/-- At the start no table holds anything, and no move has been made. -/
theorem settled_start (script : Remote.Script) {pool : Pool} (level : Level)
    (apart : pool.shares = false) (unused : pool.shared = []) :
    (start script pool level).lines.Settled fun _ => [] :=
  ⟨fun _ => none, ⟨apart, unused, fun _ => .refl _, nofun, nofun, List.nodup_nil, nofun⟩,
    fun _ => ⟨nofun, fun _ => rfl⟩⟩

/-- Behind a run, as many connections have been closed for a table as were opened for it, except
the one of the session that it holds. -/
theorem openings_eq {run : List Operation} {h : Host} {made : Nat → List Move}
    (settled : (h.after run).lines.Settled made) (t : Nat) :
    (openings (made t)).length = (closings (made t)).length +
      if ((h.after run).table t).session.isSome then 1 else 0 := by
  obtain ⟨has, b, holds⟩ := settled
  have count := (b.balance t).length_eq
  rw [List.length_append] at count
  rw [count, ← lines_heldBy]
  cases held : (h.after run).lines.heldBy t with
  | none => rw [(holds t).none held]; rfl
  | some s =>
    obtain ⟨n, hn, -⟩ := (holds t).session s held
    rw [hn]
    rfl

theorem after_append (h : Host) (run run' : List Operation) :
    h.after (run ++ run') = (h.after run).after run' := List.foldl_append

end Host

open Host

/-- On a pool that does not share, behind every run of operations on tables: for every table as many
connections have been opened as were closed, and one more if it holds a session; no connection has
been closed twice; and none that was opened for a table is left open when its creation fails, when
it closes its link, and when it is removed. -/
theorem connections_of_tables (script : Remote.Script) (pool : Pool) (level : Level)
    (apart : pool.shares = false) (unused : pool.shared = []) (run : List Operation)
    (uses : ∀ o ∈ run, o.UsesTables) :
    let begin := start script pool level
    let h := begin.after run
    (∀ t, (openings (begin.movesFor t run)).length
      = (closings (begin.movesFor t run)).length + if (h.table t).session.isSome then 1 else 0) ∧
    (closings h.moves).Nodup ∧
    (∀ table fault, table.session = none →
      (h.perform (.createTable table)).1 = .error fault →
      ((h.perform (.createTable table)).2.table h.tables.next).session = none ∧
      (openings (begin.movesFor h.tables.next (run ++ [.createTable table]))).length
        = (closings (begin.movesFor h.tables.next (run ++ [.createTable table]))).length) ∧
    ∀ t o, o = .closeLink t ∨ o = .giveUpSession t ∨ o = .removeTable t →
      ((h.perform o).2.table t).session = none ∧
      (openings (begin.movesFor t (run ++ [o]))).length
        = (closings (begin.movesFor t (run ++ [o]))).length := by
  intro begin h
  have settled {run : List Operation} (uses : ∀ o ∈ run, o.UsesTables) :
      (begin.after run).lines.Settled fun t => begin.movesFor t run := by
    have behind := settled_after uses (settled_start script level apart unused)
    simpa only [List.append_nil] using behind
  -- A table that holds no session behind one operation more has no connection open.
  have ended {o : Operation} {t : Nat} (ho : o.UsesTables)
      (none : ((h.perform o).2.table t).session = Option.none) :
      (openings (begin.movesFor t (run ++ [o]))).length
        = (closings (begin.movesFor t (run ++ [o]))).length := by
    have uses' : ∀ o' ∈ run ++ [o], o'.UsesTables := by
      intro o' ho'
      rcases List.mem_append.mp ho' with ho' | ho'
      · exact uses o' ho'
      · rw [List.mem_singleton.mp ho']
        exact ho
    have count := openings_eq (settled uses') t
    have last : begin.after (run ++ [o]) = (h.perform o).2 := after_append begin run [o]
    rw [last, none] at count
    exact count
  have begun (t : Nat) : Lines.balancedIn h.lines.moves (fun t => begin.movesFor t run) t .settled
      h.lines := (settled uses).begin t
  have free {t : Nat} {k : Host}
      (loose : Lines.balancedIn h.lines.moves (fun t => begin.movesFor t run) t .loose k.lines) :
      (k.table t).session = none := by
    obtain ⟨-, -, -, -, -, none, -⟩ := loose
    rw [← k.lines_heldBy]
    exact none
  refine ⟨fun t => openings_eq (settled uses) t, ?_, ?_, ?_⟩
  · obtain ⟨has, b, -⟩ := settled uses
    exact b.once
  · intro table fault none failed
    have logic := Lines.balanced_lineLogic h.lines.moves (fun t => begin.movesFor t run)
      h.tables.next
    have none' := free (logic.createTable none rfl (begun _) failed)
    exact ⟨none', ended none none'⟩
  · intro t o closes
    have logic := Lines.balanced_lineLogic h.lines.moves (fun t => begin.movesFor t run) t
    have none' := free (logic.closes closes (begun t))
    refine ⟨none', ended ?_ none'⟩
    rcases closes with rfl | rfl | rfl <;> trivial

/-- A statement that fails makes its table connect anew: the old connection is closed. -/
theorem connections_of_reconnect :
    let gone := Action.closedResource "gone"
    let begin := start { Remote.Script.quiet with answers := [.error gone] } (.bare false) .error
    let run := [.createTable (.bare "FIRST"), .rowCount 0 none]
    (∀ o ∈ run, o.UsesTables) ∧ closings (begin.movesFor 0 run) = [1] ∧
      (openings (begin.movesFor 0 run)).length = 2 := by
  intro gone begin run
  have uses : ∀ o ∈ run, o.UsesTables := by decide
  obtain ⟨count, -⟩ := connections_of_tables { Remote.Script.quiet with answers := [.error gone] }
    (.bare false) .error rfl rfl run uses
  have closed : closings (begin.movesFor 0 run) = [1] := by decide +kernel
  have holds : ((begin.after run).table 0).session.isSome = true := by decide +kernel
  refine ⟨uses, closed, ?_⟩
  rw [count 0, closed, holds]
  rfl

end LinkedTables
