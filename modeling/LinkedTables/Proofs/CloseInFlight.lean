import LinkedTables.Proofs.Connections
import LinkedTables.Proofs.SharedSessions

/-!
# Statements in flight while a link is closed

Several clients may execute statements on one table at a time. What excludes the others is only one
step of an execution: taking the session of the table, one attempt, connecting anew after a failed
attempt, handing the statement back. A `Flight` is an execution that has come so far, and left to
itself it does what `Action.run` does (`fly_run`). In the `Traffic` of a table the flights take
their `Turn`s in any order, and the link may be closed or the table removed between any two.

Attempts and handing back move no line, so the session of the table changes only when a flight
connects anew and when the link is closed (`session_of_turns`). So a closed link stays closed
exactly as long as no flight gets a session by connecting anew behind the close, and while it is
closed nothing that was opened for it is open (`link_of_traffic`). A flight whose attempt has failed
before, or that finds its session closed, does connect anew, and then the link is open again when
all flights have ended (`link_reopens`).
-/

namespace LinkedTables

open LinkedTables.Action

/-! ### Flights -/

/-- How far the execution of a statement has come. -/
inductive Stage where
  | starting
  /-- The next attempt is on a session, with so many left behind it. -/
  | attempting (s left : Nat)
  /-- An attempt on a session has failed, and there are others left. -/
  | failed (s left : Nat) (fault : Fault)
  | executed (st : Nat)
  | ended (r : Except Fault Unit)

/-- A statement that is being executed. -/
structure Flight where
  sql : String
  params : List Value
  client : Option Nat
  stage : Stage

/-- Reports a failed attempt and connects anew. -/
def Action.retry (t s : Nat) (fault : Fault) : Action Nat := do
  report (failedNotice ((← get).table t).name fault)
  reconnect t (some s)

namespace Flight

/-- The flight at another stage. -/
def withStage (f : Flight) (stage : Stage) : Flight := { f with stage }

/-- The next step on a table. -/
def advance (t : Nat) (f : Flight) (h : Host) : Flight × Host :=
  match f.stage with
  | .starting =>
    match h.act (requireSession t) with
    | (.ok s, h') => (f.withStage (.attempting s maxRetry), h')
    | (.error fault, h') => (f.withStage (.ended (.error fault)), h')
  | .attempting s left =>
    match h.act (attemptExecute t s f.sql f.params f.client), left with
    | (.ok (.ok st), h'), _ => (f.withStage (.executed st), h')
    | (.ok (.error fault), h'), 0 =>
      (f.withStage (.ended (.error (.link (wrapped f.sql fault)))), h')
    | (.ok (.error fault), h'), left + 1 => (f.withStage (.failed s left fault), h')
    | (.error fault, h'), _ => (f.withStage (.ended (.error fault)), h')
  | .failed s left fault =>
    match h.act (retry t s fault) with
    | (.ok s', h') => (f.withStage (.attempting s' left), h')
    | (.error fault, h') => (f.withStage (.ended (.error fault)), h')
  | .executed st =>
    match h.act (handBack t st f.sql) with
    | (r, h') => (f.withStage (.ended r), h')
  | .ended _ => (f, h)

/-- So many steps without a turn of anyone else. -/
def fly (t : Nat) : Nat → Flight → Host → Flight × Host
  | 0, f, h => (f, h)
  | n + 1, f, h => fly t n (f.advance t h).1 (f.advance t h).2

section Alone

variable {t : Nat} (f : Flight) (h : Host)

theorem fly_ended (n : Nat) (r : Except Fault Unit) :
    fly t n (f.withStage (.ended r)) h = (f.withStage (.ended r), h) := by
  induction n with
  | zero => rfl
  | succ n ih => exact ih

/-- What is left of an execution behind an attempt: the statement is handed back. -/
def rest (t : Nat) (f : Flight) (s left : Nat) : Action Unit := do
  handBack t (← executeFrom t f.sql f.params f.client s left) f.sql

theorem rest_zero (s : Nat) :
    rest t f s 0 = attemptExecute t s f.sql f.params f.client >>= fun r =>
      match r with
      | .ok st => handBack t st f.sql
      | .error fault => throw (.link (wrapped f.sql fault)) := by
  unfold rest executeFrom
  rw [bind_assoc]
  refine congrArg _ (funext fun r => ?_)
  cases r <;> rfl

theorem rest_succ (s left : Nat) :
    rest t f s (left + 1) = attemptExecute t s f.sql f.params f.client >>= fun r =>
      match r with
      | .ok st => handBack t st f.sql
      | .error fault => retry t s fault >>= fun s' => rest t f s' left := by
  unfold rest
  rw [executeFrom, bind_assoc]
  refine congrArg _ (funext fun r => ?_)
  cases r with
  | ok st => rfl
  | error fault =>
    unfold retry
    simp only [bind_assoc]

theorem fly_executed (st : Nat) {n : Nat} (enough : 1 ≤ n) :
    fly t n (f.withStage (.executed st)) h
      = (f.withStage (.ended (h.act (handBack t st f.sql)).1),
        (h.act (handBack t st f.sql)).2) := by
  obtain ⟨n, rfl⟩ := Nat.exists_eq_add_of_le' enough
  exact fly_ended _ _ n _

/-- From an attempt on, a flight that is left to itself does what is left of the execution. -/
theorem fly_attempting (left s : Nat) {n : Nat} (enough : 2 * left + 2 ≤ n) :
    fly t n (f.withStage (.attempting s left)) h
      = (f.withStage (.ended (h.act (rest t f s left)).1), (h.act (rest t f s left)).2) := by
  -- Each attempt that is left takes a step, and another one to connect anew.
  induction left generalizing s n h with
  | zero =>
    obtain ⟨n, rfl⟩ := Nat.exists_eq_add_of_le' (Nat.le_trans (by omega : 1 ≤ _) enough)
    rw [fly, advance, rest_zero, Host.act_bind]
    dsimp only [withStage]
    generalize h.act (attemptExecute t s f.sql f.params f.client) = p
    obtain ⟨fault | fault | st, h'⟩ := p
    · exact fly_ended f h' n _
    · exact fly_ended f h' n _
    · exact fly_executed f h' st (by omega)
  | succ left ih =>
    obtain ⟨n, rfl⟩ := Nat.exists_eq_add_of_le' (Nat.le_trans (by omega : 2 ≤ _) enough)
    rw [fly, advance, rest_succ, Host.act_bind]
    dsimp only [withStage]
    generalize h.act (attemptExecute t s f.sql f.params f.client) = p
    obtain ⟨fault | fault | st, h'⟩ := p
    · exact fly_ended f h' (n + 1) _
    · -- The attempt failed, and the next step connects anew.
      dsimp only
      rw [fly, advance, Host.act_bind]
      dsimp only
      generalize h'.act (retry t s fault) = p
      obtain ⟨fault | s', h''⟩ := p
      · exact fly_ended f h'' n _
      · exact ih h'' s' (by omega)
    · exact fly_executed f h' st (by omega)

/-- A flight that is left to itself runs its statement. -/
theorem fly_run {n : Nat} (starting : f.stage = .starting) (enough : 2 * maxRetry + 3 ≤ n) :
    fly t n f h = (f.withStage (.ended (h.act (run t f.sql f.params f.client)).1),
      (h.act (run t f.sql f.params f.client)).2) := by
  obtain ⟨n, rfl⟩ := Nat.exists_eq_add_of_le' (Nat.le_trans (by omega : 1 ≤ _) enough)
  have parts : run t f.sql f.params f.client
      = requireSession t >>= fun s => rest t f s maxRetry := by
    unfold run execute rest
    rw [bind_assoc]
  rw [parts, Host.act_bind, fly, advance, starting]
  dsimp only
  generalize h.act (requireSession t) = p
  obtain ⟨fault | s, h'⟩ := p
  · exact fly_ended f h' n _
  · exact fly_attempting f h' maxRetry s (by omega)

end Alone

end Flight

/-! ### Traffic -/

/-- The flights on a table, and the host that they share. -/
structure Traffic where
  host : Host
  flights : List Flight

/-- What may come next. -/
inductive Turn where
  | advance (i : Nat)
  | close
  | remove

namespace Traffic

variable (t : Nat)

/-- The traffic behind a turn. -/
def turn (w : Traffic) : Turn → Traffic
  | .advance i =>
    match w.flights[i]? with
    | some f => ⟨(f.advance t w.host).2, w.flights.set i (f.advance t w.host).1⟩
    | none => w
  | .close => { w with host := (w.host.perform (.closeLink t)).2 }
  | .remove => { w with host := (w.host.perform (.removeTable t)).2 }

/-- The traffic behind some turns. -/
def after (w : Traffic) (turns : List Turn) : Traffic := turns.foldl (turn t) w

theorem after_append (w : Traffic) (turns turns' : List Turn) :
    w.after t (turns ++ turns') = (w.after t turns).after t turns' := List.foldl_append

end Traffic

/-! ### Lines -/

namespace Lines

/-- While a table connects it holds no session. -/
def freeIn (t : Nat) : Phase → Lines → Prop
  | .settled | .busy .. | .spent .. => fun _ => True
  | .loose | .vacant _ | .line .. | .inHand _ => fun l => l.heldBy t = none

theorem free_lineLogic (t : Nat) : LineLogic t (freeIn t) where
  settle _ := trivial
  join {l} _ ht := by
    show l.withTable.heldBy t = none
    rw [heldBy, withTable, ht, Roster.at?_join_next]
    rfl
  loosen _ none := none
  letGo _ _ := heldBy_withHeld_none
  hold _ _ := trivial
  share free _ _ _ := free
  vacate free _ := free
  occupy free := free
  refuse free := free
  connect free := free
  openLine free := free
  release {l s} free force := by
    show (l.released s force).heldBy t = none
    rw [heldBy, held_released]
    exact free
  closePool _ := trivial

/-- Every open session has a user. -/
def Used (l : Lines) : Prop :=
  ∀ s line, l.sessions.at? s = some line → line.closed = false → 0 < line.useCount

section Used

variable {l : Lines} {s : Nat}

theorem Used.discarded (u : l.Used) (s : Nat) : (l.discarded s).Used := by
  intro s' line hl isOpen
  rw [at?_discarded] at hl
  split at hl
  · obtain ⟨line', -, rfl⟩ := Option.map_eq_some_iff.mp hl
    cases isOpen
  · exact u s' line hl isOpen

/-- A session that has lost a user is closed unless others are left. -/
theorem Used.released (u : l.Used) (s : Nat) (force : Bool) : (l.released s force).Used := by
  have others {s' : Nat} {line : Line} (ne : s ≠ s')
      (hl : (l.withUsers s (-1)).sessions.at? s' = some line) (isOpen : line.closed = false) :
      0 < line.useCount := by
    rw [withUsers, Roster.at?_revise_of_ne _ ne] at hl
    exact u s' line hl isOpen
  unfold Lines.released
  dsimp only
  split
  next kept =>
    intro s' line hl isOpen
    by_cases e : s = s'
    · subst e
      rw [line_of_at? hl] at kept
      simpa using (Bool.and_eq_true_iff.mp kept).2
    · exact others e hl isOpen
  next =>
    intro s' line hl isOpen
    rw [at?_discarded] at hl
    split at hl
    next e =>
      obtain ⟨line', -, rfl⟩ := Option.map_eq_some_iff.mp hl
      cases isOpen
    next e => exact others e hl isOpen

theorem Used.poolClosed (u : l.Used) : l.poolClosed.Used := by
  have all (sessions : Ledger LinkKey Nat) (l : Lines) (u : l.Used) :
      (sessions.foldl (fun l entry => l.discarded entry.2) l).Used := by
    induction sessions generalizing l with
    | nil => exact u
    | cons entry rest ih => exact ih _ (u.discarded entry.2)
  exact all l.shared _ u

theorem Used.withUser (u : l.Used) (s : Nat) : (l.withUsers s 1).Used := by
  intro s' line hl isOpen
  rw [withUsers, Roster.at?_revise] at hl
  split at hl
  · obtain ⟨line', hl', rfl⟩ := Option.map_eq_some_iff.mp hl
    have before := u s' line' hl' isOpen
    show 0 < line'.useCount + 1
    omega
  · exact u s' line hl isOpen

theorem Used.withOpen (u : l.Used) (key : LinkKey) (n : Nat) :
    (l.withOpen ⟨key, n, 1, false⟩).Used := by
  intro s line hl isOpen
  rw [Lines.withOpen, Roster.at?_join] at hl
  split at hl
  · cases hl
    exact Int.one_pos
  · exact u s line hl isOpen

end Used

/-- Every step of the pool keeps a user for each open session. -/
theorem used_lineLogic (t : Nat) : LineLogic t fun _ => Used where
  settle u := u
  join u _ := u
  loosen u _ := u
  letGo u _ := u
  hold u _ := u
  share u _ _ _ := u.withUser _
  vacate u _ := u
  occupy u := u
  refuse u := u
  connect u := u
  openLine u := u.withOpen _ _
  release u force := u.released _ force
  closePool u := u.poolClosed

end Lines

/-! ### Turns -/

namespace Flight

/-- An attempt has failed, and the next step connects anew. -/
def hasFailed (f : Flight) : Bool :=
  match f.stage with
  | .failed .. => true
  | _ => false

/-- The execution has come to an end. -/
def hasEnded (f : Flight) : Bool :=
  match f.stage with
  | .ended _ => true
  | _ => false

/-- The session for the next attempt. -/
def session? (f : Flight) : Option Nat :=
  match f.stage with
  | .attempting s _ => some s
  | _ => none

section Advance

variable {t : Nat} {P : Phase → Lines → Prop} (L : LineLogic t P) (f : Flight) {h : Host}

/-- Only connecting anew moves a line. -/
theorem lines_of_advance (going : f.hasFailed = false) :
    (f.advance t h).2.lines = h.lines := by
  obtain ⟨sql, params, client, stage⟩ := f
  cases stage with
  | starting =>
    have same : (h.act (requireSession t)).2 = h := by
      unfold requireSession
      rw [Host.act_get_bind]
      cases readySession (h.table t) <;> rfl
    rw [advance]
    dsimp only
    generalize h.act (requireSession t) = p at same ⊢
    obtain ⟨fault | s, h'⟩ := p
    · exact congrArg Host.lines same
    · exact congrArg Host.lines same
  | attempting s left =>
    have same := (Steady.unmoved
      (fun l cs => unmoved_attemptExecute t s sql params client) h).1
    rw [advance]
    dsimp only
    generalize h.act (attemptExecute t s sql params client) = p at same ⊢
    obtain ⟨fault | fault | st, h'⟩ := p
    · exact same
    · cases left with
      | zero => exact same
      | succ left => exact same
    · exact same
  | failed s left fault => cases going
  | executed st => exact (Steady.unmoved (fun l cs => (unmoved_handBack t st sql).steady) h).1
  | ended r => rfl

include L

/-- A flight that connects anew gets the session that the table holds then, or none is held. -/
theorem retried (s : Nat) (fault : Fault) (hp : P .settled h.lines) :
    match h.act (retry t s fault) with
    | (.ok s', h') => P .settled h'.lines ∧ (h'.table t).session = some s'
    | (.error _, h') => P .loose h'.lines := by
  have logic := L.linkLogic fun _ _ => True
  have hq := logic.quiet .settled
  refine LineLogic.of_leads (Coupled.get_bind' fun h g r => ?_)
    (show Lined P .settled h h from ⟨rfl, hp⟩)
  rw [table_agree (hq.agree r)]
  exact Smooth.bind_coupled (smooth_report hq _) fun _ => logic.reconnected (some s)

/-- Every step keeps what is known of the lines between steps. -/
theorem settled_of_advance (hp : P .settled h.lines) : P .settled (f.advance t h).2.lines := by
  cases going : f.hasFailed with
  | false =>
    rw [f.lines_of_advance going]
    exact hp
  | true =>
    obtain ⟨sql, params, client, stage⟩ := f
    cases stage with
    | failed s left fault =>
      have tried := retried L s fault hp
      rw [advance]
      dsimp only
      generalize h.act (retry t s fault) = p at tried ⊢
      obtain ⟨fault | s', h'⟩ := p
      · exact L.settle tried
      · exact tried.1
    | _ => cases going

end Advance

/-- The session of the table is the one that a flight has got by connecting anew; other steps leave
it as it is. -/
theorem session_of_advance (t : Nat) (f : Flight) (h : Host) :
    ((f.advance t h).2.table t).session
      = if f.hasFailed then (f.advance t h).1.session? else (h.table t).session := by
  split
  next failed =>
    obtain ⟨sql, params, client, stage⟩ := f
    cases stage with
    | failed s left fault =>
      have tried := retried (Lines.free_lineLogic t) s fault (h := h) trivial
      rw [advance]
      dsimp only
      generalize h.act (retry t s fault) = p at tried ⊢
      obtain ⟨fault | s', h'⟩ := p
      · exact (Host.lines_heldBy h' t).symm.trans tried
      · exact tried.2
    | _ => cases failed
  next going =>
    rw [← Host.lines_heldBy, f.lines_of_advance (Bool.eq_false_iff.mpr going), Host.lines_heldBy]

end Flight

namespace Traffic

variable {t : Nat}

theorem settled_of_turn {P : Phase → Lines → Prop} (L : LineLogic t P) {w : Traffic}
    (hp : P .settled w.host.lines) (turn : Turn) : P .settled (w.turn t turn).host.lines := by
  cases turn with
  | advance i =>
    unfold Traffic.turn
    dsimp only
    split
    · exact Flight.settled_of_advance L _ hp
    · exact hp
  | close => exact L.settle (L.closes (.inl rfl) hp)
  | remove => exact L.settle (L.closes (.inr (.inr rfl)) hp)

/-- What every step of the pool keeps is kept in any order of turns. -/
theorem settled_of_turns {P : Phase → Lines → Prop} (L : LineLogic t P) {w : Traffic}
    (hp : P .settled w.host.lines) (turns : List Turn) :
    P .settled (w.after t turns).host.lines := by
  induction turns generalizing w with
  | nil => exact hp
  | cons turn turns ih => exact ih (settled_of_turn L hp turn)

/-- The session of the table behind a turn, where it was `session` before: the one that a flight has
got by connecting anew, and none behind a close. -/
def heldBehind (t : Nat) (w : Traffic) (session : Option Nat) : Turn → Option Nat
  | .advance i =>
    match w.flights[i]? with
    | some f => if f.hasFailed then (f.advance t w.host).1.session? else session
    | none => session
  | .close | .remove => none

/-- The session that the last flight to connect anew has got; `session` if there was none. It is
none if that flight got none, and if the link was closed behind it. -/
def regained (t : Nat) : Traffic → Option Nat → List Turn → Option Nat
  | _, session, [] => session
  | w, session, turn :: turns => regained t (w.turn t turn) (w.heldBehind t session turn) turns

theorem session_of_turn (w : Traffic) (turn : Turn) :
    ((w.turn t turn).host.table t).session = w.heldBehind t (w.host.table t).session turn := by
  have closed {o : Operation}
      (closes : o = .closeLink t ∨ o = .giveUpSession t ∨ o = .removeTable t) :
      ((w.host.perform o).2.table t).session = none := by
    rw [← Host.lines_heldBy]
    exact (Lines.free_lineLogic t).closes closes trivial
  cases turn with
  | advance i =>
    unfold Traffic.turn heldBehind
    dsimp only
    split
    · exact Flight.session_of_advance ..
    · rfl
  | close => exact closed (.inl rfl)
  | remove => exact closed (.inr (.inr rfl))

/-- In any order of turns the table holds the session that the last flight to connect anew has
got, unless the link was closed behind it. -/
theorem session_of_turns (w : Traffic) (turns : List Turn) :
    ((w.after t turns).host.table t).session = w.regained t (w.host.table t).session turns := by
  induction turns generalizing w with
  | nil => rfl
  | cons turn turns ih =>
    have rest := ih (w.turn t turn)
    rw [session_of_turn] at rest
    exact rest

end Traffic

/-! ### A link that is closed -/

namespace Host

/-- No session is open yet. -/
theorem used_start (script : Remote.Script) (pool : Pool) (level : Level) :
    (start script pool level).lines.Used := by
  intro s line found
  cases found

theorem used_after {run : List Operation} (uses : ∀ o ∈ run, o.UsesTables) {h : Host}
    (u : h.lines.Used) : (h.after run).lines.Used := by
  induction run generalizing h with
  | nil => exact u
  | cons o run ih =>
    refine ih (fun o' ho => uses o' (List.mem_cons_of_mem _ ho)) ?_
    refine (Lines.used_lineLogic ((o.subject h).getD 0)).perform (uses o (List.mem_cons_self ..))
      (fun t ht => ?_) u
    rw [ht]
    rfl

/-- An open session is held by a table. -/
theorem exists_holder {h : Host} (c : h.lines.Counted none) (u : h.lines.Used) {s : Nat}
    (known : s < h.sessions.next) (isOpen : (h.session s).closed = false) :
    ∃ t, (h.table t).session = some s := by
  have count := c.counted s _ (lines_at? known)
  rw [Lines.inHand, if_neg (by simp), Int.add_zero] at count
  have used := u s _ (lines_at? known) isOpen
  have held : some s ∈ h.lines.held := by
    refine List.count_pos_iff.mp ?_
    omega
  obtain ⟨t, ht⟩ := Lines.heldBy_iff_mem.mpr held
  exact ⟨t, (lines_heldBy h t).symm.trans ht⟩

end Host

open Host

/-- Whatever statements are in flight on a table, and in whatever order their steps fall around one
that closes its link or removes it: behind the close the table holds exactly the session that the
last flight to connect anew has got. If there is none, nothing that was opened for the table is
open: on a pool that does not share, as many connections have been closed for it as were opened, and
on one that does, every open session is held by another table. -/
theorem link_of_traffic (script : Remote.Script) (pool : Pool) (level : Level)
    (unused : pool.shared = []) (run : List Operation) (uses : ∀ o ∈ run, o.UsesTables) (t : Nat)
    (flights : List Flight) (before behind : List Turn) (closing : Turn)
    (closes : closing = .close ∨ closing = .remove) :
    let begin := start script pool level
    let h := begin.after run
    let shut := (Traffic.mk h flights).after t (before ++ [closing])
    let w := shut.after t behind
    (w.host.table t).session = shut.regained t none behind ∧
    (shut.regained t none behind = none →
      (pool.shares = false → ∃ made, w.host.moves = made ++ h.moves ∧
        (openings (made ++ begin.movesFor t run)).length
          = (closings (made ++ begin.movesFor t run)).length) ∧
      (pool.shares = true → ∀ s, s < w.host.sessions.next → (w.host.session s).closed = false →
        ∃ t', t' ≠ t ∧ (w.host.table t').session = some s)) := by
  intro begin h shut w
  have free : (shut.host.table t).session = none := by
    have last := Traffic.session_of_turn (t := t) ((Traffic.mk h flights).after t before) closing
    rcases closes with rfl | rfl
    · exact (congrArg (fun w : Traffic => (w.host.table t).session)
        (Traffic.after_append t _ before [.close])).trans last
    · exact (congrArg (fun w : Traffic => (w.host.table t).session)
        (Traffic.after_append t _ before [.remove])).trans last
  have held : (w.host.table t).session = shut.regained t none behind := by
    rw [← free]
    exact Traffic.session_of_turns shut behind
  have kept {P : Phase → Lines → Prop} (L : LineLogic t P) (hp : P .settled h.lines) :
      P .settled w.host.lines :=
    Traffic.settled_of_turns L (Traffic.settled_of_turns L hp (before ++ [closing])) behind
  refine ⟨held, fun lost => ⟨fun apart => ?_, fun shares s known isOpen => ?_⟩⟩
  · have settled : h.lines.Settled fun t => begin.movesFor t run := by
      have behind := settled_after uses (settled_start script level apart unused)
      simpa only [List.append_nil] using behind
    obtain ⟨made, has, hm, b, others, hold⟩ :=
      kept (Lines.balanced_lineLogic h.lines.moves _ t) (settled.begin t)
    have balanced : (w.host.after []).lines.Settled
        (Lines.credited (fun t => begin.movesFor t run) t made) := by
      refine ⟨has, b, fun t' => ?_⟩
      by_cases e : t' = t
      · rw [e]
        exact hold
      · exact others t' e
    have count := openings_eq balanced t
    rw [show w.host.after [] = w.host from rfl, held, lost, Lines.credited, if_pos rfl] at count
    exact ⟨made, hm, count⟩
  · have c : w.host.lines.Counted none :=
      kept (Lines.counted_lineLogic t)
        (counted_after uses (counted_start script level shares unused))
    have u : w.host.lines.Used :=
      kept (Lines.used_lineLogic t) (used_after uses (used_start script pool level))
    obtain ⟨t', ht'⟩ := exists_holder c u known isOpen
    refine ⟨t', ?_, ht'⟩
    rintro rfl
    rw [held, lost] at ht'
    cases ht'

/-- A statement that has been executed when the link is closed is closed instead of handed back. -/
theorem link_closed_behind_attempt :
    let begin := start .quiet (.bare false) .error
    let run := [.createTable (.bare "FIRST")]
    let h := begin.after run
    let flights : List Flight := [⟨"DELETE FROM T", [], none, .starting⟩]
    let shut := (Traffic.mk h flights).after 0 ([.advance 0, .advance 0] ++ [.close])
    let w := shut.after 0 [.advance 0]
    (∀ o ∈ run, o.UsesTables) ∧ (w.host.table 0).session = none ∧
      ∃ made, w.host.moves = made ++ h.moves ∧
        (openings (made ++ begin.movesFor 0 run)).length
          = (closings (made ++ begin.movesFor 0 run)).length := by
  intro begin run h flights shut w
  have uses : ∀ o ∈ run, o.UsesTables := by decide
  have lost : shut.regained 0 none [.advance 0] = none := by decide +kernel
  obtain ⟨held, kept⟩ := link_of_traffic .quiet (.bare false) .error rfl run uses 0 flights
    [.advance 0, .advance 0] [.advance 0] .close (.inl rfl)
  exact ⟨uses, held.trans lost, (kept lost).1 rfl⟩

/-- An execution whose attempt has failed connects anew behind the close: when it has ended, the
table holds a session, and its connection is open. -/
theorem link_reopens :
    let gone := Action.closedResource "gone"
    let begin := start { Remote.Script.quiet with answers := [.error gone] } (.bare false) .error
    let flights : List Flight := [⟨"DELETE FROM T", [], none, .starting⟩]
    let w := (Traffic.mk (begin.after [.createTable (.bare "FIRST")]) flights).after 0
      [.advance 0, .advance 0, .remove, .advance 0, .advance 0, .advance 0]
    w.flights.all (·.hasEnded) = true ∧ (w.host.table 0).session = some 1
      ∧ (w.host.session 1).closed = false
      ∧ openings w.host.moves = [2, 1] ∧ closings w.host.moves = [1] := by
  decide +kernel

end LinkedTables
