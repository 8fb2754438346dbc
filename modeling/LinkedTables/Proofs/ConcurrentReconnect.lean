import LinkedTables.Proofs.Connections

/-!
# Callers that connect a table anew

Any number of callers use one table. Each takes the session of the table, attempts statements on it,
and connects the table anew when it finds that the session has failed, which it may find of a
session that another caller has replaced long ago. The steps of the callers follow each other in any
order; each excludes the others while it lasts.

On a pool that does not share its sessions, a step that connects anew either leaves the host as it
is, as the session that failed has been replaced already, or it closes that session and leaves every
other one that there was as it was (`Renewed`, `reconnect_spec`). So a session is closed only by a
caller that found it failed, a session that several callers found failed is replaced once, and the
connections opened for the table are open one at a time, also while a step is going on (`InTurn`,
`reconnects_of_callers`).
-/

namespace LinkedTables

open LinkedTables.Action

/-! ### Connections that are open one at a time -/

/-- The connections are opened and closed in turn, the latest move first: from a connection that was
open, or none, on to another or none. -/
inductive InTurn (first : Option Nat) : Option Nat → List Move → Prop
  | nil : InTurn first first []
  | opened {moves : List Move} (n : Nat) (turn : InTurn first none moves) :
      InTurn first (some n) (.opened n :: moves)
  | closed {moves : List Move} {n : Nat} (turn : InTurn first (some n) moves) :
      InTurn first none (.closed n :: moves)

namespace InTurn

variable {first now : Option Nat} {moves moves' : List Move}

/-- What is open at an earlier moment. -/
theorem of_suffix (turn : InTurn first now moves) (earlier : moves' <:+ moves) :
    ∃ now', InTurn first now' moves' := by
  induction turn with
  | nil =>
    rw [List.suffix_nil.mp earlier]
    exact ⟨first, .nil⟩
  | opened n turn ih =>
    rcases List.suffix_cons_iff.mp earlier with rfl | earlier
    · exact ⟨some n, .opened n turn⟩
    · exact ih earlier
  | closed turn ih =>
    rcases List.suffix_cons_iff.mp earlier with rfl | earlier
    · exact ⟨none, .closed turn⟩
    · exact ih earlier

/-- Counted, what was open at first and what was opened make what was closed and what is open. -/
theorem count (turn : InTurn first now moves) :
    (openings moves).length + first.toList.length
      = (closings moves).length + now.toList.length := by
  induction turn with
  | nil => rfl
  | opened n turn ih =>
    simp only [openings, closings, List.filterMap_cons, Move.opened?, Move.closed?,
      List.length_cons, Option.toList_none, Option.toList_some, List.length_nil] at ih ⊢
    omega
  | closed turn ih =>
    simp only [openings, closings, List.filterMap_cons, Move.opened?, Move.closed?,
      List.length_cons, Option.toList_none, Option.toList_some, List.length_nil] at ih ⊢
    omega

end InTurn

namespace Lines

/-- On a pool that shares nothing, the moves made since others are those of the table that is at
work, and it makes them in turn. -/
def turnsIn (old : List Move) (first : Option Nat) (t : Nat) (p : Phase) (l : Lines) : Prop :=
  l.shares = false ∧ l.shared = [] ∧ ∃ new now, l.moves = new ++ old ∧ InTurn first now new ∧
    Stands t p (fun _ => now) l

section Turns

variable {l l' : Lines} {old : List Move} {first : Option Nat} {t s : Nat} {p p' : Phase}

/-- A step that makes no move. -/
theorem turnsIn.step (w : turnsIn old first t p l) (shares : l'.shares = l.shares)
    (shared : l'.shared = l.shared) (moves : l'.moves = l.moves)
    (stands : ∀ now, Stands t p now l → Stands t p' now l') : turnsIn old first t p' l' := by
  obtain ⟨apart, unshared, new, now, hm, turn, at'⟩ := w
  exact ⟨shares.trans apart, shared.trans unshared, new, now, moves.trans hm, turn,
    stands _ at'⟩

theorem turns_lineLogic (old : List Move) (first : Option Nat) (t : Nat) :
    LineLogic t (turnsIn old first t) where
  settle w := by
    refine w.step rfl rfl rfl ?_
    rintro now ⟨free, no⟩
    refine ⟨fun s hs => ?_, fun _ => no⟩
    rw [free] at hs
    cases hs
  join {l} w ht := by
    have none : l.heldBy t = Option.none := by
      rw [heldBy, ht, Roster.at?_next]
      rfl
    refine w.step rfl rfl rfl fun now hold => ⟨?_, hold.none none⟩
    rw [heldBy, withTable, ht, Roster.at?_join_next]
    rfl
  loosen w none := w.step rfl rfl rfl fun now hold => ⟨none, hold.none none⟩
  letGo w held := w.step rfl rfl rfl fun now hold => ⟨heldBy_withHeld_none, hold.session _ held⟩
  hold {l s} w known := by
    refine w.step rfl rfl rfl ?_
    rintro now ⟨-, hand⟩
    refine ⟨fun s' hs => ?_, fun hs => ?_⟩
    · rw [heldBy_withHeld known] at hs
      obtain rfl := Option.some.inj hs
      exact hand
    · rw [heldBy_withHeld known] at hs
      cases hs
  -- The pool does not share its sessions, so that none is found and none is left to be closed.
  share w shares := absurd (w.1.symm.trans shares) Bool.false_ne_true
  vacate w _ := w
  occupy w := w
  refuse w := w.step rfl rfl rfl fun _ stands => stands
  connect {l key} w := by
    obtain ⟨apart, unshared, new, now, hm, turn, free, rfl⟩ := w
    exact ⟨apart, unshared, .opened (l.connects + 1) :: new, some (l.connects + 1), congrArg _ hm,
      .opened _ turn, free, rfl⟩
  openLine {l key n} w := by
    have shared : (l.withOpen ⟨key, n, 1, false⟩).shared = l.shared := by
      simp only [withOpen, w.1, Bool.false_eq_true, if_false]
    refine w.step rfl shared rfl ?_
    rintro now ⟨free, hn⟩
    exact ⟨free, n, hn, _, Roster.at?_join_next .., rfl, rfl, rfl⟩
  release {l s} w force := by
    obtain ⟨apart, unshared, new, now, hm, turn, free, n, rfl, o⟩ := w
    have eq := released_of_openOn o unshared force
    have held : (l.released s force).heldBy t = none := by
      rw [heldBy, held_released]
      exact free
    refine ⟨?_, ?_, .closed n :: new, none, ?_, .closed turn, held, rfl⟩
    · rw [eq]
      exact apart
    · rw [eq]
      exact unshared
    · rw [eq, hm]
      rfl
  closePool w := by
    rw [poolClosed_of_unshared w.2.1]
    exact w

end Turns

/-! ### Sessions that are left alone -/

/-- A session has been opened and not closed. -/
def Live (l : Lines) (s : Nat) : Prop := ∃ line, l.sessions.at? s = some line ∧ line.closed = false

theorem OpenOn.live {l : Lines} {s n : Nat} (o : l.OpenOn s n) : l.Live s := by
  obtain ⟨line, found, isOpen, -⟩ := o
  exact ⟨line, found, isOpen⟩

/-- The session that the work on a table has at hand. -/
def atHand (t : Nat) (l : Lines) : Phase → Option Nat
  | .settled | .busy .. | .spent .. => l.heldBy t
  | .loose | .vacant _ | .line .. => none
  | .inHand s => some s

/-- The sessions that there were are as they were, and of the others none is open but the one at
hand. -/
structure Spares (old : Roster Line) (hand : Option Nat) (l : Lines) : Prop where
  more : old.next ≤ l.sessions.next
  same : ∀ s, s < old.next → l.sessions.at? s = old.at? s
  live : ∀ s, old.next ≤ s → l.Live s → hand = some s
  new : ∀ s, hand = some s → old.next ≤ s

/-- The predicate of each phase. -/
def sparesIn (old : Lines) (t : Nat) (p : Phase) (l : Lines) : Prop :=
  turnsIn old.moves none t p l ∧ l.Spares old.sessions (atHand t l p)

section Spares

variable {l l' : Lines} {old : Lines} {t s : Nat} {hand : Option Nat}

theorem Spares.of_sessions (spares : l.Spares old.sessions hand) (same : l'.sessions = l.sessions) :
    l'.Spares old.sessions hand where
  more := by
    rw [same]
    exact spares.more
  same s hs := by
    rw [same]
    exact spares.same s hs
  live s hs live := by
    obtain ⟨line, found, isOpen⟩ := live
    rw [same] at found
    exact spares.live s hs ⟨line, found, isOpen⟩
  new := spares.new

theorem Spares.withOpen (spares : l.Spares old.sessions none) (key : LinkKey) (n : Nat) :
    (l.withOpen ⟨key, n, 1, false⟩).Spares old.sessions (some l.sessions.next) where
  more := by
    rw [Lines.withOpen, Roster.next_join]
    exact Nat.le_succ_of_le spares.more
  same s hs := by
    rw [Lines.withOpen, Roster.at?_join_of_lt (Nat.lt_of_lt_of_le hs spares.more)]
    exact spares.same s hs
  live s hs live := by
    obtain ⟨line, found, isOpen⟩ := live
    rw [Lines.withOpen, Roster.at?_join] at found
    split at found
    next e => rw [e]
    next =>
      have none := spares.live s hs ⟨line, found, isOpen⟩
      cases none
  new s hs := by
    obtain rfl := Option.some.inj hs
    exact spares.more

/-- The session at hand is given back, which is all that was open of the new ones. -/
theorem Spares.released (spares : l.Spares old.sessions (some s)) {n : Nat} (o : l.OpenOn s n)
    (unshared : l.shared = []) (force : Bool) : (l.released s force).Spares old.sessions none where
  more := by
    rw [released_of_openOn o unshared, withUsers, Roster.next_revise, Roster.next_revise]
    exact spares.more
  same s' hs := by
    have other : s ≠ s' := fun e => Nat.not_lt.mpr (spares.new s rfl) (e ▸ hs)
    rw [released_of_openOn o unshared, withUsers, Roster.at?_revise_of_ne _ other,
      Roster.at?_revise_of_ne _ other]
    exact spares.same s' hs
  live s' hs live := by
    obtain ⟨line, found, isOpen⟩ := live
    rw [released_of_openOn o unshared, Roster.at?_revise] at found
    split at found
    next e =>
      obtain ⟨line', -, rfl⟩ := Option.map_eq_some_iff.mp found
      cases isOpen
    next e =>
      rw [withUsers, Roster.at?_revise_of_ne _ e] at found
      exact absurd (Option.some.inj (spares.live s' hs ⟨line, found, isOpen⟩)) e
  new := nofun

theorem spares_lineLogic (old : Lines) (t : Nat) : LineLogic t (sparesIn old t) := by
  have turns := turns_lineLogic old.moves none t
  -- The turns tell which session is open; what is left to show is that no other one of the old
  -- sessions is touched.
  exact {
    settle := fun {l} w => by
      obtain ⟨-, -, -, -, -, -, free, -⟩ := id w.1
      refine ⟨turns.settle w.1, ?_⟩
      show l.Spares old.sessions (l.heldBy t)
      rw [free]
      exact w.2
    join := fun {l} w ht => by
      have none : l.heldBy t = Option.none := by
        rw [heldBy, ht, Roster.at?_next]
        rfl
      have spares : l.Spares old.sessions (l.heldBy t) := w.2
      rw [none] at spares
      exact ⟨turns.join w.1 ht, spares.of_sessions rfl⟩
    loosen := fun {l} w none => by
      have spares : l.Spares old.sessions (l.heldBy t) := w.2
      rw [none] at spares
      exact ⟨turns.loosen w.1 none, spares⟩
    letGo := fun {l s} w held => by
      have spares : l.Spares old.sessions (l.heldBy t) := w.2
      rw [held] at spares
      exact ⟨turns.letGo w.1 held, spares.of_sessions rfl⟩
    hold := fun {l s} w known => by
      refine ⟨turns.hold w.1 known, ?_⟩
      show Spares old.sessions ((l.withHeld t (some s)).heldBy t) _
      rw [heldBy_withHeld known]
      exact w.2.of_sessions rfl
    share := fun w shares => absurd (w.1.1.symm.trans shares) Bool.false_ne_true
    vacate := fun w held => ⟨turns.vacate w.1 held, w.2⟩
    occupy := fun w => ⟨turns.occupy w.1, w.2⟩
    refuse := fun w => ⟨turns.refuse w.1, w.2.of_sessions rfl⟩
    connect := fun w => ⟨turns.connect w.1, w.2.of_sessions rfl⟩
    openLine := fun w => ⟨turns.openLine w.1, w.2.withOpen _ _⟩
    release := fun w force => by
      obtain ⟨-, unshared, -, -, -, -, -, n, -, o⟩ := id w.1
      exact ⟨turns.release w.1 force, w.2.released o unshared force⟩
    closePool := fun {l} w => by
      have same := poolClosed_of_unshared w.1.2.1
      refine ⟨turns.closePool w.1, ?_⟩
      rw [same]
      exact w.2 }

/-- Work that begins without a session. -/
theorem sparesIn_self (apart : l.shares = false) (unshared : l.shared = [])
    (free : l.heldBy t = none) : sparesIn l t .loose l := by
  refine ⟨⟨apart, unshared, [], none, rfl, .nil, free, rfl⟩, Nat.le_refl _, fun _ _ => rfl, ?_,
    nofun⟩
  rintro s new ⟨line, found, -⟩
  exact absurd (List.getElem?_eq_some_iff.mp found).1 (Nat.not_lt.mpr new)

end Spares

end Lines

/-! ### What a step does that connects anew -/

namespace Host

/-- A session has been opened and not closed. -/
def Live (h : Host) (s : Nat) : Prop := s < h.sessions.next ∧ (h.session s).closed = false

theorem lines_live (h : Host) (s : Nat) : h.lines.Live s ↔ h.Live s := by
  constructor
  · rintro ⟨line, found, isOpen⟩
    have known : s < h.sessions.next := by
      have known := (List.getElem?_eq_some_iff.mp found).1
      rw [← lines_next]
      exact known
    obtain rfl := Option.some.inj (found.symm.trans (lines_at? known))
    exact ⟨known, isOpen⟩
  · rintro ⟨known, isOpen⟩
    exact ⟨_, lines_at? known, isOpen⟩

/-- A table that gives its session up closes that one, whatever becomes of its connection. -/
theorem lines_giveUpSession (h : Host) (t : Nat) :
    (h.act (giveUpSession t)).2.lines = match h.lines.heldBy t with
      | none => h.lines
      | some s => (h.lines.withHeld t none).released s true := by
  rw [lines_heldBy]
  show (h.act (letGoSession t true)).2.lines = _
  unfold letGoSession
  rw [act_get_bind]
  have let' : (h.withSession t none).lines = h.lines.withHeld t none :=
    LineLogic.lines_withSession h t none
  cases held : (h.table t).session with
  | none =>
    show (h.withSession t none).lines = _
    rw [let']
    exact LineLogic.withHeld_of_none ((h.lines_heldBy t).trans held)
  | some s =>
    show ((h.withSession t none).act (release s true)).2.lines = _
    rw [lines_act_release, let']

/-- On a pool that shares nothing, a table holds no session but one that is open for it alone. -/
def Alone (h : Host) (t : Nat) : Prop :=
  ∃ old first, Lines.turnsIn old first t .settled h.lines

/-- What becomes of the sessions of a host when a table closes the one that it holds and connects,
with or without success. -/
structure Renewed (t : Nat) (h h' : Host) : Prop where
  more : h.sessions.next ≤ h'.sessions.next
  spared : ∀ s, s < h.sessions.next → (h.table t).session ≠ some s → (h'.Live s ↔ h.Live s)
  dropped : ∀ s, (h.table t).session = some s → ¬h'.Live s
  fresh : ∀ s, h.sessions.next ≤ s → h'.Live s → (h'.table t).session = some s
  held : ∀ s, (h'.table t).session = some s → h'.Live s ∧ h.sessions.next ≤ s

section Renewed

variable {h h' : Host} {t : Nat}

theorem Alone.live (alone : h.Alone t) {s : Nat} (held : (h.table t).session = some s) :
    h.Live s := by
  obtain ⟨_, _, _, _, _, _, _, _, holds⟩ := alone
  obtain ⟨n, -, o⟩ := Lines.Holds.session holds s ((h.lines_heldBy t).trans held)
  exact (lines_live h s).mp o.live

/-- Giving the session up closes it and leaves the others as they are. -/
theorem Alone.given_up (alone : h.Alone t) :
    let k := (h.act (giveUpSession t)).2
    k.lines.shares = false ∧ k.lines.shared = [] ∧ k.lines.heldBy t = none ∧
      k.sessions.next = h.sessions.next ∧
      (∀ s, (h.table t).session ≠ some s → (k.Live s ↔ h.Live s)) ∧
      ∀ s, (h.table t).session = some s → ¬k.Live s := by
  intro k
  obtain ⟨_, _, apart, unshared, _, _, _, _, holds⟩ := alone
  have lines : k.lines = _ := lines_giveUpSession h t
  -- A table without a session has nothing to give up.
  cases held : h.lines.heldBy t with
  | none =>
    rw [held] at lines
    dsimp only at lines
    have next : k.sessions.next = h.sessions.next := by
      rw [← lines_next, ← lines_next, lines]
    refine ⟨lines ▸ apart, lines ▸ unshared, lines ▸ held, next, fun s _ => ?_, fun s hs => ?_⟩
    · rw [← lines_live, ← lines_live, lines]
    · rw [← lines_heldBy, held] at hs
      cases hs
  | some s =>
    rw [held] at lines
    dsimp only at lines
    -- The session is open and not shared, so it is closed as it is released.
    obtain ⟨n, -, o⟩ := Lines.Holds.session holds s held
    have o' : (h.lines.withHeld t none).OpenOn s n := o
    have unshared' : (h.lines.withHeld t none).shared = [] := unshared
    have free : k.lines.heldBy t = none := by
      rw [lines, Lines.heldBy, Lines.held_released]
      exact Lines.heldBy_withHeld_none
    rw [Lines.released_of_openOn o' unshared'] at lines
    have sessions : k.lines.sessions = ((h.lines.sessions.revise s fun line =>
        { line with useCount := line.useCount + -1 }).revise s fun line =>
        { line with closed := true }) := by rw [lines]; rfl
    have next : k.sessions.next = h.sessions.next := by
      rw [← lines_next, ← lines_next, sessions, Roster.next_revise, Roster.next_revise]
    refine ⟨?_, ?_, free, next, fun s' hs => ?_, fun s' hs => ?_⟩
    · rw [lines]
      exact apart
    · rw [lines]
      exact unshared
    -- Any other session is what it was.
    · have other : s ≠ s' := by
        rintro rfl
        exact hs ((h.lines_heldBy t).symm.trans held)
      rw [← lines_live, ← lines_live, Lines.Live, sessions, Roster.at?_revise_of_ne _ other,
        Roster.at?_revise_of_ne _ other]
      rfl
    · rw [← lines_heldBy, held] at hs
      obtain rfl := Option.some.inj hs
      rw [← lines_live, Lines.Live, sessions, Roster.at?_revise_self]
      rintro ⟨line, found, isOpen⟩
      obtain ⟨line', -, rfl⟩ := Option.map_eq_some_iff.mp found
      cases isOpen

/-- Connecting anew without a replacement. -/
theorem Alone.renewed (alone : h.Alone t) :
    Renewed t h (h.act (giveUpSession t >>= fun _ => connect t)).2 := by
  obtain ⟨apart, unshared, free, next, others, dropped⟩ := alone.given_up
  -- The new work leaves the sessions alone that are left.
  have renewed {k' : Host}
      (w : Lines.sparesIn (h.act (giveUpSession t)).2.lines t .settled k'.lines) :
      Renewed t h k' := by
    have spares : k'.lines.Spares (h.act (giveUpSession t)).2.lines.sessions (k'.lines.heldBy t) :=
      w.2
    have live (s : Nat) (held : (k'.table t).session = some s) : k'.Live s :=
      Alone.live ⟨_, _, w.1⟩ held
    have kept (s : Nat) (known : s < h.sessions.next) :
        k'.Live s ↔ (h.act (giveUpSession t)).2.Live s := by
      rw [← lines_live, ← lines_live, Lines.Live, Lines.Live, spares.same s]
      rw [lines_next, next]
      exact known
    have begin : (h.act (giveUpSession t)).2.lines.sessions.next = h.sessions.next := by
      rw [lines_next, next]
    refine ⟨?_, fun s known other => (kept s known).trans (others s other), fun s held => ?_,
      fun s new isLive => ?_, fun s held => ⟨live s held, ?_⟩⟩
    · rw [← begin, ← lines_next]
      exact spares.more
    · rw [kept s (alone.live held).1]
      exact dropped s held
    · rw [← begin] at new
      exact (lines_heldBy k' t).symm.trans (spares.live s new ((lines_live k' s).mpr isLive))
    · rw [← begin]
      exact spares.new s ((lines_heldBy k' t).trans held)
  rw [act_bind]
  have L := Lines.spares_lineLogic (h.act (giveUpSession t)).2.lines t
  have begin := Lines.sparesIn_self apart unshared free
  generalize h.act (giveUpSession t) = p at renewed L begin ⊢
  obtain ⟨fault | _, k⟩ := p
  · exact renewed (L.settle begin)
  · have connected := L.connecting begin
    show Renewed t h (k.act (connect t)).2
    generalize k.act (connect t) = p at connected ⊢
    obtain ⟨fault | s, h'⟩ := p
    · exact renewed (L.settle connected)
    · exact renewed connected.1

/-- A caller that connects anew: if another session is held already that one stays, and otherwise
the one that failed is the one that is given up. -/
theorem reconnect_spec (alone : h.Alone t) (failed : Nat) :
    (∃ s, (h.table t).session = some s ∧ s ≠ failed ∧
      h.act (reconnect t (some failed)) = (.ok s, h)) ∨
    (∀ s, (h.table t).session = some s → s = failed) ∧
      Renewed t h (h.act (reconnect t (some failed))).2 := by
  cases held : (h.table t).session with
  | none =>
    have no : replacement? h t (some failed) = none := by simp only [replacement?, held]
    refine .inr ⟨fun s hs => (by cases hs), ?_⟩
    unfold reconnect
    rw [act_get_bind, no]
    exact alone.renewed
  | some s =>
    have isOpen := (alone.live held).2
    have found : replacement? h t (some failed) = if s ≠ failed then some s else none := by
      simp only [replacement?, held, isOpen, Bool.not_false, Bool.and_true, decide_eq_true_eq]
    by_cases e : s = failed
    · refine .inr ⟨fun s' hs => (Option.some.inj hs).symm.trans e, ?_⟩
      unfold reconnect
      rw [act_get_bind, found, if_neg (not_not_intro e)]
      exact alone.renewed
    · refine .inl ⟨s, rfl, e, ?_⟩
      unfold reconnect
      rw [act_get_bind, found, if_pos e]
      rfl

end Renewed

end Host

/-! ### Callers -/

/-- What a caller of a table does next. -/
inductive CallerStep where
  /-- Takes the session of the table. -/
  | take (i : Nat)
  /-- Attempts a statement on the session that it uses. -/
  | attempt (i : Nat) (sql : String) (params : List Value) (client : Option Nat)
  /-- Finds that the session that it uses has failed, and connects the table anew. -/
  | reconnect (i : Nat)

/-- A host, and the session that each caller of a table uses; it uses none before it has taken one,
and when it has been refused one. -/
structure Callers where
  host : Host
  uses : Nat → Option Nat

namespace Callers

variable (t : Nat)

/-- The callers when one of them has got a session or been refused one. -/
def given (w : Callers) (i : Nat) (r : Except Fault Nat × Host) : Callers :=
  ⟨r.2, fun j => if j = i then r.1.toOption else w.uses j⟩

/-- The callers behind a step of one of them. -/
def step (w : Callers) : CallerStep → Callers
  | .take i => w.given i (w.host.act (requireSession t))
  | .attempt i sql params client =>
    match w.uses i with
    | some s => { w with host := (w.host.act (attemptExecute t s sql params client)).2 }
    | none => w
  | .reconnect i =>
    match w.uses i with
    | some s => w.given i (w.host.act (reconnect t (some s)))
    | none => w

/-- The callers behind some steps. -/
def after (w : Callers) (steps : List CallerStep) : Callers := steps.foldl (step t) w

/-- The session that a step reports as failed. -/
def reported? (w : Callers) : CallerStep → Option Nat
  | .reconnect i => w.uses i
  | _ => none

/-- The sessions that some steps report as failed. -/
def reported : Callers → List CallerStep → List Nat
  | _, [] => []
  | w, step :: steps => (w.reported? step).toList ++ reported (w.step t step) steps

/-- The session that a step reports as failed if it leaves the table with another one. -/
def replaced? (w : Callers) (step : CallerStep) : Option Nat :=
  if ((w.step t step).host.table t).session = (w.host.table t).session then none
  else w.reported? step

/-- The sessions in place of which some steps leave the table with another one. -/
def replaced : Callers → List CallerStep → List Nat
  | _, [] => []
  | w, step :: steps => (w.replaced? t step).toList ++ replaced (w.step t step) steps

section Steps

variable {t} {w : Callers} {step : CallerStep} {s : Nat}

theorem host_of_take (h : Host) (t : Nat) : (h.act (requireSession t)).2 = h := by
  unfold requireSession
  rw [Host.act_get_bind]
  cases readySession (h.table t) <;> rfl

theorem session_of_take {h : Host} (taken : (h.act (requireSession t)).1 = .ok s) :
    (h.table t).session = some s := by
  unfold requireSession at taken
  rw [Host.act_get_bind] at taken
  unfold readySession at taken
  cases failure : (h.table t).failure with
  | some failure' =>
    rw [failure] at taken
    cases taken
  | none =>
    cases held : (h.table t).session with
    | none =>
      rw [failure, held] at taken
      cases taken
    | some s' =>
      rw [failure, held] at taken
      cases taken
      rfl

/-- A step that reports no session moves no line. -/
theorem lines_of_step (none : w.reported? step = none) :
    (w.step t step).host.lines = w.host.lines := by
  cases step with
  | take i => exact congrArg Host.lines (host_of_take w.host t)
  | attempt i sql params client =>
    cases uses : w.uses i with
    | none =>
      unfold Callers.step
      simp only [uses]
    | some s =>
      unfold Callers.step
      simp only [uses]
      exact (Steady.unmoved (fun l cs => unmoved_attemptExecute t s sql params client) w.host).1
  | reconnect i =>
    have uses : w.uses i = Option.none := none
    unfold Callers.step
    simp only [uses]

/-- A step that reports a session connects anew. -/
theorem step_of_reported (reports : w.reported? step = some s) :
    ∃ i, step = .reconnect i ∧ w.uses i = some s ∧
      w.step t step = w.given i (w.host.act (reconnect t (some s))) := by
  cases step with
  | reconnect i =>
    have uses : w.uses i = some s := reports
    refine ⟨i, rfl, uses, ?_⟩
    unfold Callers.step
    simp only [uses]
  | take i => cases reports
  | attempt i => cases reports

/-- Whatever step comes, the table makes its moves in turn. -/
theorem turns_of_step {old : List Move} {first : Option Nat}
    (turns : Lines.turnsIn old first t .settled w.host.lines) (step : CallerStep) :
    Lines.turnsIn old first t .settled (w.step t step).host.lines := by
  cases reports : w.reported? step with
  | none =>
    rw [lines_of_step reports]
    exact turns
  | some s =>
    obtain ⟨i, -, -, e⟩ := step_of_reported (t := t) reports
    have L := Lines.turns_lineLogic old first t
    have kept := L.reconnecting (some s) turns
    rw [e]
    show Lines.turnsIn old first t .settled (w.host.act (reconnect t (some s))).2.lines
    generalize w.host.act (reconnect t (some s)) = p at kept ⊢
    obtain ⟨fault | s', h'⟩ := p
    · exact L.settle kept
    · exact kept.1

/-- A session that is closed by a step is the one that the step reports. -/
theorem reported_of_closed (alone : w.host.Alone t) (live : w.host.Live s)
    (closed : ¬(w.step t step).host.Live s) : w.reported? step = some s := by
  cases reports : w.reported? step with
  | none =>
    rw [← Host.lines_live, lines_of_step reports, Host.lines_live] at closed
    exact absurd live closed
  | some failed =>
    obtain ⟨i, -, -, e⟩ := step_of_reported (t := t) reports
    rw [e] at closed
    rcases Host.reconnect_spec alone failed with ⟨s', -, -, same⟩ | ⟨stale, renewed⟩
    · rw [same] at closed
      exact absurd live closed
    · by_cases held : (w.host.table t).session = some s
      · rw [stale s held]
      · exact absurd ((renewed.spared s live.1 held).mpr live) closed

/-- A session of the table: one that it held at some time, or one opened since. -/
def OwnedSince (t : Nat) (k : Host) (s : Nat) : Prop :=
  k.sessions.next ≤ s ∨ (k.table t).session = some s

/-- Of the sessions of the table none is open but the one that it holds. -/
theorem held_of_step {k : Host} (alone : w.host.Alone t)
    (held : ∀ s, OwnedSince t k s → w.host.Live s → (w.host.table t).session = some s)
    (step : CallerStep) (owned : OwnedSince t k s) (live : (w.step t step).host.Live s) :
    ((w.step t step).host.table t).session = some s := by
  cases reports : w.reported? step with
  | none =>
    have lines := lines_of_step (t := t) reports
    rw [← Host.lines_live, lines, Host.lines_live] at live
    rw [← Host.lines_heldBy, lines, Host.lines_heldBy]
    exact held s owned live
  | some failed =>
    obtain ⟨i, -, -, e⟩ := step_of_reported (t := t) reports
    rw [e] at live ⊢
    rcases Host.reconnect_spec alone failed with ⟨s', -, -, same⟩ | ⟨stale, renewed⟩
    · rw [same] at live ⊢
      exact held s owned live
    · by_cases known : s < w.host.sessions.next
      · by_cases holds : (w.host.table t).session = some s
        · exact absurd live (renewed.dropped s holds)
        · exact absurd (held s owned ((renewed.spared s known holds).mp live)) holds
      · exact renewed.fresh s (Nat.not_lt.mp known) live

/-- A step that connects anew and comes to a session gives the one that the table holds then, and
that one is open. -/
theorem given_of_reconnect (alone : w.host.Alone t) {failed : Nat}
    (returns : (w.host.act (reconnect t (some failed))).1 = .ok s) :
    ((w.host.act (reconnect t (some failed))).2.table t).session = some s ∧
      (w.host.act (reconnect t (some failed))).2.Live s := by
  obtain ⟨old, first, turns⟩ := alone
  have got := (Lines.turns_lineLogic old first t).reconnecting (some failed) turns
  generalize w.host.act (reconnect t (some failed)) = p at returns got ⊢
  obtain ⟨r, h'⟩ := p
  obtain rfl : r = .ok s := returns
  exact ⟨got.2, Host.Alone.live ⟨old, first, got.1⟩ got.2⟩

end Steps

/-! ### Runs of callers -/

section Runs

variable {t} {w : Callers}

theorem alone_of_step (alone : w.host.Alone t) (step : CallerStep) :
    (w.step t step).host.Alone t := by
  obtain ⟨old, first, turns⟩ := alone
  exact ⟨old, first, turns_of_step turns step⟩

/-- What the callers use: the session that the table holds, and sessions that are gone. -/
structure Uses (t : Nat) (gone : List Nat) (w : Callers) : Prop where
  current : ∀ i s, w.uses i = some s → (w.host.table t).session = some s ∨ s ∈ gone
  holds : ∀ i s, w.uses i = some s → ∃ s', (w.host.table t).session = some s'
  gone : ∀ s ∈ gone, s < w.host.sessions.next ∧ ¬w.host.Live s

/-- If a step connects anew it comes to a session. -/
def Succeeds (t : Nat) (w : Callers) (step : CallerStep) : Prop :=
  ∀ s, w.reported? step = some s → ∃ s', (w.host.act (reconnect t (some s))).1 = .ok s'

/-- Every step of some that connects anew comes to a session. -/
def AllSucceed (t : Nat) : Callers → List CallerStep → Prop
  | _, [] => True
  | w, step :: steps => w.Succeeds t step ∧ AllSucceed t (w.step t step) steps

/-- A step that reports no session gives a caller none but the one that the table holds. -/
theorem uses_of_step {step : CallerStep} {i s : Nat} (none : w.reported? step = none)
    (uses : (w.step t step).uses i = some s) :
    w.uses i = some s ∨ (w.host.table t).session = some s := by
  cases step with
  | take j =>
    have given :
        (if i = j then (w.host.act (requireSession t)).1.toOption else w.uses i) = some s := uses
    split at given
    · cases taken : (w.host.act (requireSession t)).1 with
      | error fault =>
        rw [taken] at given
        cases given
      | ok s' =>
        rw [taken] at given
        cases given
        exact .inr (session_of_take taken)
    · exact .inl given
  | attempt j sql params client =>
    unfold Callers.step at uses
    cases used : w.uses j with
    | none =>
      simp only [used] at uses
      exact .inl uses
    | some s' =>
      simp only [used] at uses
      exact .inl uses
  | reconnect j =>
    have used : w.uses j = Option.none := none
    unfold Callers.step at uses
    simp only [used] at uses
    exact .inl uses

/-- A step that leaves the sessions as they are gives none but the one that the table holds. -/
theorem Uses.stay {gone : List Nat} (uses : w.Uses t gone) {w' : Callers}
    (session : (w'.host.table t).session = (w.host.table t).session)
    (next : w'.host.sessions.next = w.host.sessions.next)
    (live : ∀ s, w'.host.Live s ↔ w.host.Live s)
    (given : ∀ i s, w'.uses i = some s → w.uses i = some s ∨ (w.host.table t).session = some s) :
    w'.Uses t gone where
  current i s hs := by
    rw [session]
    rcases given i s hs with used | held
    · exact uses.current i s used
    · exact .inl held
  holds i s hs := by
    rw [session]
    rcases given i s hs with used | held
    · exact uses.holds i s used
    · exact ⟨s, held⟩
  gone s hs := by
    rw [next, live]
    exact uses.gone s hs

/-- A step that closes the session of the table and comes to another. -/
theorem Uses.renew {gone : List Nat} (uses : w.Uses t gone) {w' : Callers} {s s' : Nat}
    (live : w.host.Live s) (held : (w.host.table t).session = some s)
    (renewed : Host.Renewed t w.host w'.host) (holds : (w'.host.table t).session = some s')
    (given : ∀ i f, w'.uses i = some f → w.uses i = some f ∨ f = s') :
    w'.Uses t (s :: gone) where
  current i f hf := by
    rcases given i f hf with used | rfl
    · refine .inr ?_
      rcases uses.current i f used with current | gone
      · rw [Option.some.inj (held.symm.trans current)]
        exact List.mem_cons_self ..
      · exact List.mem_cons_of_mem _ gone
    · exact .inl holds
  holds i f _ := ⟨s', holds⟩
  gone f hf := by
    rcases List.mem_cons.mp hf with rfl | gone
    · exact ⟨Nat.lt_of_lt_of_le live.1 renewed.more, renewed.dropped f held⟩
    · obtain ⟨known, closed⟩ := uses.gone f gone
      refine ⟨Nat.lt_of_lt_of_le known renewed.more, ?_⟩
      rw [renewed.spared f known]
      · exact closed
      · intro e
        rw [Option.some.inj (held.symm.trans e)] at live
        exact closed live

/-- A step that reports no session replaces none. -/
theorem Uses.unreported {gone : List Nat} (uses : w.Uses t gone) {step : CallerStep}
    (none : w.reported? step = none) :
    (w.step t step).Uses t gone ∧ w.replaced? t step = Option.none := by
  have lines := lines_of_step (t := t) none
  have session : ((w.step t step).host.table t).session = (w.host.table t).session := by
    rw [← Host.lines_heldBy, lines, Host.lines_heldBy]
  refine ⟨uses.stay session ?_ (fun s => ?_) fun i s => uses_of_step none, ?_⟩
  · rw [← Host.lines_next, lines, Host.lines_next]
  · rw [← Host.lines_live, lines, Host.lines_live]
  · rw [replaced?, if_pos session]

section Reconnecting

variable {gone : List Nat} {i failed s' : Nat}

/-- Of the callers only the one that connected anew uses what it was given. -/
theorem uses_given (returns : (w.host.act (reconnect t (some failed))).1 = .ok s') {j f : Nat}
    (used : (w.given i (w.host.act (reconnect t (some failed)))).uses j = some f) :
    w.uses j = some f ∨ f = s' := by
  change (if j = i then (w.host.act (reconnect t (some failed))).1.toOption else w.uses j) = some f
    at used
  rw [returns] at used
  split at used
  · exact .inr (Option.some.inj used).symm
  · exact .inl used

/-- The session that a caller reports has been replaced before, and the table holds the
replacement. -/
theorem Uses.overtaken (uses : w.Uses t gone) (used : w.uses i = some failed)
    (e : w.step t (.reconnect i) = w.given i (w.host.act (reconnect t (some failed))))
    (held : (w.host.table t).session = some s') (other : s' ≠ failed)
    (same : w.host.act (reconnect t (some failed)) = (.ok s', w.host)) :
    (w.step t (.reconnect i)).Uses t gone ∧ w.replaced? t (.reconnect i) = none ∧
      failed ∈ gone := by
  have host : (w.step t (.reconnect i)).host = w.host := by
    rw [e, same]
    rfl
  refine ⟨uses.stay ?_ ?_ (fun f => ?_) fun j f hf => ?_, ?_, ?_⟩
  · rw [host]
  · rw [host]
  · rw [host]
  · rw [e] at hf
    rcases uses_given (congrArg Prod.fst same) hf with before | rfl
    · exact .inl before
    · exact .inr held
  · rw [replaced?, host, if_pos rfl]
  · rcases uses.current i failed used with current | gone
    · exact absurd (Option.some.inj (held.symm.trans current)) other
    · exact gone

/-- The session that a caller reports is the one that the table holds, and it is replaced now. -/
theorem Uses.renewing (uses : w.Uses t gone) (alone : w.host.Alone t)
    (used : w.uses i = some failed)
    (e : w.step t (.reconnect i) = w.given i (w.host.act (reconnect t (some failed))))
    (stale : ∀ s, (w.host.table t).session = some s → s = failed)
    (renewed : Host.Renewed t w.host (w.host.act (reconnect t (some failed))).2)
    (returns : (w.host.act (reconnect t (some failed))).1 = .ok s') :
    (w.step t (.reconnect i)).Uses t (failed :: gone) ∧
      w.replaced? t (.reconnect i) = some failed ∧ failed ∉ gone := by
  obtain ⟨s, held⟩ := uses.holds i failed used
  obtain rfl := stale s held
  have live := alone.live held
  obtain ⟨holds, -⟩ := given_of_reconnect alone returns
  have host : (w.step t (.reconnect i)).host = (w.host.act (reconnect t (some s))).2 := by
    rw [e]
    rfl
  rw [← host] at renewed holds
  refine ⟨uses.renew live held renewed holds fun j f hf => ?_, ?_, fun gone => ?_⟩
  · rw [e] at hf
    exact uses_given returns hf
  · rw [replaced?, holds, held, if_neg]
    · exact used
    · intro same
      rw [Option.some.inj same] at holds
      exact Nat.not_lt.mpr (renewed.held s holds).2 live.1
  · exact (uses.gone s gone).2 live

end Reconnecting

/-- A step that succeeds replaces the session that it reports, unless that is gone. -/
theorem Uses.step {gone : List Nat} (uses : w.Uses t gone) (alone : w.host.Alone t)
    {step : CallerStep}
    (succeeds : w.Succeeds t step) :
    (w.step t step).Uses t ((w.replaced? t step).toList ++ gone) ∧
      (∀ s, w.replaced? t step = some s → s ∉ gone) ∧
      ∀ s, w.reported? step = some s → w.replaced? t step = some s ∨ s ∈ gone := by
  cases reports : w.reported? step with
  | none =>
    obtain ⟨uses', no⟩ := uses.unreported reports
    rw [no]
    exact ⟨uses', nofun, nofun⟩
  | some failed =>
    obtain ⟨i, rfl, used, e⟩ := step_of_reported (t := t) reports
    obtain ⟨s', returns⟩ := succeeds failed reports
    rcases Host.reconnect_spec alone failed with ⟨s, held, other, same⟩ | ⟨stale, renewed⟩
    · obtain ⟨uses', no, lost⟩ := uses.overtaken used e held other same
      rw [no]
      exact ⟨uses', nofun, fun f hf => .inr (Option.some.inj hf ▸ lost)⟩
    · obtain ⟨uses', yes, new⟩ := uses.renewing alone used e stale renewed returns
      rw [yes]
      exact ⟨uses', fun f hf => Option.some.inj hf ▸ new, fun f hf => .inl hf⟩

/-- When every step that connects anew comes to a session, every session that is reported is
replaced, and only once. -/
theorem Uses.replaced {steps : List CallerStep} {gone : List Nat} (uses : w.Uses t gone)
    (alone : w.host.Alone t) (succeed : w.AllSucceed t steps) :
    (w.replaced t steps).Nodup ∧ (∀ s ∈ w.replaced t steps, s ∉ gone) ∧
      ∀ s ∈ w.reported t steps, s ∈ w.replaced t steps ∨ s ∈ gone := by
  -- What is gone grows with every session that is replaced, and so none is replaced twice.
  induction steps generalizing w gone with
  | nil => exact ⟨List.nodup_nil, nofun, nofun⟩
  | cons step steps ih =>
    obtain ⟨uses', new, found⟩ := uses.step alone succeed.1
    obtain ⟨once, others, all⟩ := ih uses' (alone_of_step alone step) succeed.2
    rw [Callers.replaced, Callers.reported]
    refine ⟨?_, fun s hs => ?_, fun s hs => ?_⟩
    · refine List.nodup_append.mpr ⟨?_, once, fun s hs s' hs' e => ?_⟩
      · cases w.replaced? t step with
        | none => exact List.nodup_nil
        | some s => exact List.nodup_cons.mpr ⟨List.not_mem_nil, List.nodup_nil⟩
      · rw [e] at hs
        exact others s' hs' (List.mem_append_left _ hs)
    · rcases List.mem_append.mp hs with hs | hs
      · exact new s (Option.mem_toList.mp hs)
      · exact fun gone => others s hs (List.mem_append_right _ gone)
    · rcases List.mem_append.mp hs with hs | hs
      · rcases found s (Option.mem_toList.mp hs) with now | before
        · exact .inl (List.mem_append_left _ (Option.mem_toList.mpr now))
        · exact .inr before
      · rcases all s hs with later | before
        · exact .inl (List.mem_append_right _ later)
        · rcases List.mem_append.mp before with now | before
          · exact .inl (List.mem_append_left _ now)
          · exact .inr before

/-- In any order of steps the table makes its moves in turn. -/
theorem turns_of_steps {old : List Move} {first : Option Nat}
    (turns : Lines.turnsIn old first t .settled w.host.lines) (steps : List CallerStep) :
    Lines.turnsIn old first t .settled (w.after t steps).host.lines := by
  induction steps generalizing w with
  | nil => exact turns
  | cons step steps ih => exact ih (turns_of_step turns step)

/-- In any order of steps, none of the sessions of the table is open but the one that it holds. -/
theorem held_of_steps {k : Host} (alone : w.host.Alone t)
    (held : ∀ s, OwnedSince t k s → w.host.Live s → (w.host.table t).session = some s)
    (steps : List CallerStep) {s : Nat} (owned : OwnedSince t k s)
    (live : (w.after t steps).host.Live s) :
    ((w.after t steps).host.table t).session = some s := by
  induction steps generalizing w with
  | nil => exact held s owned live
  | cons step steps ih =>
    have held' (s : Nat) (owned : OwnedSince t k s) (live : (w.step t step).host.Live s) :=
      held_of_step alone held step owned live
    exact ih (alone_of_step alone step) held' live

theorem mem_reported_of_mem_replaced {steps : List CallerStep} {s : Nat}
    (replaced : s ∈ w.replaced t steps) : s ∈ w.reported t steps := by
  induction steps generalizing w with
  | nil => exact replaced
  | cons step steps ih =>
    rcases List.mem_append.mp replaced with now | later
    · refine List.mem_append_left _ ?_
      rw [replaced?] at now
      split at now
      · cases now
      · exact now
    · exact List.mem_append_right _ (ih later)

end Runs

end Callers

namespace Host

/-- Behind a run on a pool that does not share, a table holds no session but one that is open for
it alone, on the connection that was opened last for it. -/
theorem turns_after (script : Remote.Script) {pool : Pool} (level : Level)
    (apart : pool.shares = false) (unused : pool.shared = []) {run : List Operation}
    (uses : ∀ o ∈ run, o.UsesTables) (t : Nat) :
    let begin := start script pool level
    ∃ first, Lines.turnsIn (begin.after run).lines.moves first t .settled (begin.after run).lines ∧
      (openings (begin.movesFor t run)).length
        = (closings (begin.movesFor t run)).length + first.toList.length := by
  intro begin
  have settled := settled_after uses (settled_start script level apart unused)
  obtain ⟨has, b, holds⟩ := settled
  refine ⟨has t, ⟨b.apart, b.unshared, [], has t, rfl, .nil, ?_⟩, ?_⟩
  · exact (holds t).of_sessions rfl rfl fun _ _ _ o => o
  · have count := (b.balance t).length_eq
    rwa [List.append_nil, List.length_append] at count

end Host

open Host Callers

/-- Any number of callers use a table on a pool that does not share its sessions, and their steps
follow each other in any order. A session that was open before a step and is closed behind it is the
one with which a caller connects anew. A caller that connects anew and is given a session is given
the one that the table holds then, which is open; and if the session that failed has been replaced
already, nothing else happens. When all that connect anew are given a session, every session that
was found failed is replaced, and only once, however many callers found it failed. Of the sessions
of the table none is open but the one that it holds, and at no moment, also within a step, more than
one of the connections opened for it. -/
theorem reconnects_of_callers (script : Remote.Script) (pool : Pool) (level : Level)
    (apart : pool.shares = false) (unused : pool.shared = []) (run : List Operation)
    (uses : ∀ o ∈ run, o.UsesTables) (t : Nat) (steps : List CallerStep) :
    let begin := start script pool level
    let h := begin.after run
    let first : Callers := ⟨h, fun _ => none⟩
    let w := first.after t steps
    (∀ step s, w.host.Live s → ¬(w.step t step).host.Live s →
      ∃ i, step = .reconnect i ∧ w.uses i = some s) ∧
    (∀ i failed s, w.uses i = some failed →
      (w.host.act (reconnect t (some failed))).1 = .ok s →
      (w.step t (.reconnect i)).uses i = some s ∧
        ((w.step t (.reconnect i)).host.table t).session = some s ∧
        (w.step t (.reconnect i)).host.Live s) ∧
    (∀ i failed s, w.uses i = some failed → (w.host.table t).session = some s → s ≠ failed →
      (w.step t (.reconnect i)).host = w.host) ∧
    (first.AllSucceed t steps →
      (first.replaced t steps).Nodup ∧
        ∀ s, s ∈ first.replaced t steps ↔ s ∈ first.reported t steps) ∧
    (∀ s, OwnedSince t h s → w.host.Live s → (w.host.table t).session = some s) ∧
    ∃ made, w.host.moves = made ++ h.moves ∧ ∀ moment, moment <:+ made →
      (openings (moment ++ begin.movesFor t run)).length
        ≤ (closings (moment ++ begin.movesFor t run)).length + 1 := by
  intro begin h first w
  obtain ⟨has, turns, count⟩ := turns_after script level apart unused uses t
  have begun : first.host.Alone t := ⟨_, _, turns⟩
  have behind := turns_of_steps (w := first) turns steps
  have alone : w.host.Alone t := ⟨_, _, behind⟩
  have step_reconnect {i failed : Nat} (used : w.uses i = some failed) :
      w.step t (.reconnect i) = w.given i (w.host.act (reconnect t (some failed))) := by
    have reports : w.reported? (.reconnect i) = some failed := used
    obtain ⟨i', e, -, same⟩ := step_of_reported (t := t) reports
    rw [same, CallerStep.reconnect.inj e]
  refine ⟨fun step s live closed => ?_, fun i failed s used returns => ?_,
    fun i failed s used held other => ?_, fun succeed => ?_, fun s owned live => ?_, ?_⟩
  · obtain ⟨i, e, used, -⟩ := step_of_reported (t := t) (reported_of_closed alone live closed)
    exact ⟨i, e, used⟩
  · rw [step_reconnect used]
    refine ⟨?_, given_of_reconnect alone returns⟩
    show (if i = i then (w.host.act (reconnect t (some failed))).1.toOption else w.uses i) = some s
    rw [if_pos rfl, returns]
    rfl
  · rw [step_reconnect used]
    rcases reconnect_spec alone failed with ⟨s', -, -, same⟩ | ⟨stale, -⟩
    · exact congrArg Prod.snd same
    · exact absurd (stale s held) other
  · have uses : first.Uses t [] := ⟨nofun, nofun, nofun⟩
    obtain ⟨once, -, all⟩ := uses.replaced begun succeed
    refine ⟨once, fun s => ⟨mem_reported_of_mem_replaced, fun reported => ?_⟩⟩
    rcases all s reported with replaced | gone
    · exact replaced
    · cases gone
  · refine held_of_steps begun (fun s owned live => ?_) steps owned live
    rcases owned with new | held
    · exact absurd live.1 (Nat.not_lt.mpr new)
    · exact held
  · obtain ⟨-, -, made, now, hm, turn, -⟩ := behind
    refine ⟨made, hm, fun moment earlier => ?_⟩
    obtain ⟨now', turn'⟩ := turn.of_suffix earlier
    have counted := turn'.count
    have one : now'.toList.length ≤ 1 := by cases now' <;> simp
    have openings_append : (openings (moment ++ begin.movesFor t run)).length
        = (openings moment).length + (openings (begin.movesFor t run)).length := by
      rw [openings, List.filterMap_append, List.length_append]
      rfl
    have closings_append : (closings (moment ++ begin.movesFor t run)).length
        = (closings moment).length + (closings (begin.movesFor t run)).length := by
      rw [closings, List.filterMap_append, List.length_append]
      rfl
    have count : (openings (begin.movesFor t run)).length
        = (closings (begin.movesFor t run)).length + has.toList.length := count
    omega

/-- Two callers find the same session failed: the first replaces it, and both are given the
replacement. -/
theorem reconnects_of_two_callers :
    let begin := start .quiet (.bare false) .error
    let run := [.createTable (.bare "FIRST")]
    let first : Callers := ⟨begin.after run, fun _ => none⟩
    let steps := [.take 0, .take 1, .reconnect 0, .reconnect 1]
    let w := first.after 0 steps
    (∀ o ∈ run, o.UsesTables) ∧ first.AllSucceed 0 steps ∧ first.reported 0 steps = [0, 0] ∧
      first.replaced 0 steps = [0] ∧ (first.replaced 0 steps).Nodup ∧
      w.uses 0 = some 1 ∧ w.uses 1 = some 1 ∧ (w.host.table 0).session = some 1 := by
  intro begin run first steps w
  have uses : ∀ o ∈ run, o.UsesTables := by decide
  have replaces (step : CallerStep) (w : Callers) (s s' : Nat) (reports : w.reported? step = some s)
      (returns : (w.host.act (reconnect 0 (some s))).1.toOption = some s') : w.Succeeds 0 step := by
    intro s'' hs
    rw [← Option.some.inj (reports.symm.trans hs)]
    cases r : (w.host.act (reconnect 0 (some s))).1 with
    | error fault =>
      rw [r] at returns
      cases returns
    | ok s' => exact ⟨s', rfl⟩
  have succeed : first.AllSucceed 0 steps :=
    ⟨nofun, nofun, replaces _ _ 0 1 (by decide +kernel) (by decide +kernel),
      replaces _ _ 0 1 (by decide +kernel) (by decide +kernel), trivial⟩
  obtain ⟨-, -, -, once, -⟩ :=
    reconnects_of_callers .quiet (.bare false) .error rfl rfl run uses 0 steps
  exact ⟨uses, succeed, by decide +kernel, by decide +kernel, (once succeed).1, by decide +kernel,
    by decide +kernel, by decide +kernel⟩

end LinkedTables
