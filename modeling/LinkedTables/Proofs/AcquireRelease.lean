import LinkedTables.Proofs.OpenBreakerRefuses

/-!
# What acquiring and releasing a session do to the lines

A session is acquired by one more user of an open one that is shared, or opened on a new connection,
for which there is at most one connect (`Lines.Acquires`, `lines_acquire`). The handshake leaves the
lines alone. Whatever is done, no connection is lost count of, and the sessions that are shared or
held are among those that there are (`Lines.Steps`, `Lines.Known`).
-/

namespace LinkedTables

namespace Lines

/-- The sessions that are shared or held are among those that there are. -/
structure Known (l : Lines) : Prop where
  shared : ∀ key s, l.shared.value? key = some s → s < l.sessions.next
  held : ∀ s, some s ∈ l.held → s < l.sessions.next

/-- What acquiring a session for a target does to the lines. -/
inductive Acquires (key : LinkKey) (l : Lines) : Except Fault Nat → Lines → Prop
  /-- No session is to be had, with or without a connect that failed. -/
  | refused {fault : Fault} {l' : Lines} (dialled : l' = l ∨ l' = l.refused) :
      Acquires key l (.error fault) l'
  /-- An open session is shared. -/
  | shared {s : Nat} (shares : l.shares = true) (value : l.shared.value? key = some s)
      (isOpen : (l.line s).closed = false) : Acquires key l (.ok s) (l.withUsers s 1)
  /-- A session is opened; none that was shared is open. -/
  | opened (alone : l.shares = true → ∀ s, l.shared.value? key = some s →
      (l.line s).closed = true) :
      Acquires key l (.ok l.sessions.next)
        (l.connected.withOpen ⟨key, l.connects + 1, 1, false⟩)

/-- So many connects at most, and no session that is shared or held without being there. -/
structure Steps (n : Nat) (l l' : Lines) : Prop where
  connects : l'.connects ≤ l.connects + n
  next : l.sessions.next ≤ l'.sessions.next
  known : l.Known → l'.Known

namespace Steps

variable {m n : Nat} {l l' l'' : Lines}

theorem refl (l : Lines) : Steps 0 l l := ⟨Nat.le_refl _, Nat.le_refl _, id⟩

theorem trans (a : Steps m l l') (b : Steps n l' l'') : Steps (m + n) l l'' where
  connects := by
    have first := a.connects
    have second := b.connects
    omega
  next := Nat.le_trans a.next b.next
  known k := b.known (a.known k)

theorem mono (a : Steps m l l') (more : m ≤ n) : Steps n l l' where
  connects := Nat.le_trans a.connects (Nat.add_le_add_left more _)
  next := a.next
  known := a.known

/-- Tables hold what they held, and less is shared of the sessions that there are. -/
theorem of_fewer (connects : l'.connects = l.connects) (held : l'.held = l.held)
    (next : l'.sessions.next = l.sessions.next)
    (fewer : ∀ key s, l'.shared.value? key = some s → l.shared.value? key = some s) :
    Steps 0 l l' where
  connects := Nat.le_of_eq connects
  next := Nat.le_of_eq next.symm
  known known :=
    ⟨fun key s value => next.symm ▸ known.shared key s (fewer key s value),
      fun s there => next.symm ▸ known.held s (held ▸ there)⟩

end Steps

variable {l : Lines}

theorem steps_withUsers (s : Nat) (n : Int) : Steps 0 l (l.withUsers s n) :=
  .of_fewer rfl rfl (Roster.next_revise ..) fun _ _ => id

theorem steps_refused : Steps 1 l l.refused :=
  ⟨Nat.le_refl _, Nat.le_refl _, fun k => ⟨k.shared, k.held⟩⟩

theorem connects_discarded (l : Lines) (s : Nat) : (l.discarded s).connects = l.connects := by
  unfold discarded
  split <;> rfl

theorem connects_released (l : Lines) (s : Nat) (force : Bool) :
    (l.released s force).connects = l.connects := by
  unfold released
  dsimp only
  split
  · rfl
  · exact connects_discarded ((l.withUsers s (-1)).unshared s) s

theorem next_released (l : Lines) (s : Nat) (force : Bool) :
    (l.released s force).sessions.next = l.sessions.next := by
  have users : (l.withUsers s (-1)).sessions.next = l.sessions.next := Roster.next_revise ..
  unfold released
  dsimp only
  split
  · exact users
  · exact (sameUsers_discarded ((l.withUsers s (-1)).unshared s) s).next.trans users

theorem steps_released (s : Nat) (force : Bool) : Steps 0 l (l.released s force) :=
  .of_fewer (connects_released l s force) (held_released l s force) (next_released l s force)
    fun _ _ => shared_of_released

theorem steps_connected : Steps 1 l l.connected :=
  ⟨Nat.le_refl _, Nat.le_refl _, fun k => ⟨k.shared, k.held⟩⟩

theorem steps_withOpen (line : Line) : Steps 0 l (l.withOpen line) := by
  have next : (l.withOpen line).sessions.next = l.sessions.next + 1 := Roster.next_join ..
  refine ⟨Nat.le_refl _, by omega, fun known => ⟨fun key s value => ?_, fun s there => ?_⟩⟩
  · have before (old : l.shared.value? key = some s) : s < (l.withOpen line).sessions.next :=
      next ▸ Nat.lt_succ_of_lt (known.shared key s old)
    simp only [withOpen] at value
    split at value
    · by_cases own : line.key = key
      · rw [own, Ledger.value?_put_self] at value
        obtain rfl := Option.some.inj value
        exact next ▸ Nat.lt_succ_self _
      · rw [Ledger.value?_put_of_ne _ _ own] at value
        exact before value
    · exact before value
  · exact next ▸ Nat.lt_succ_of_lt (known.held s there)

/-- A table holds a session that is there, or none. -/
theorem Known.withHeld (known : l.Known) (t : Nat) {session : Option Nat}
    (there : ∀ s, session = some s → s < l.sessions.next) : (l.withHeld t session).Known where
  shared := known.shared
  held s hs := by
    obtain e | hs := Roster.mem_revise hs
    · exact there s e.symm
    · exact known.held s hs

theorem Acquires.steps {key : LinkKey} {r : Except Fault Nat} {l' : Lines}
    (acquires : l.Acquires key r l') : Steps 1 l l' := by
  cases acquires with
  | refused dialled =>
    rcases dialled with rfl | rfl
    · exact (Steps.refl _).mono (Nat.zero_le 1)
    · exact steps_refused
  | shared => exact (steps_withUsers _ _).mono (Nat.zero_le 1)
  | opened => exact steps_connected.trans (steps_withOpen _)

/-- A session that is acquired is there. -/
theorem Acquires.known {key : LinkKey} {s : Nat} {l' : Lines}
    (acquires : l.Acquires key (.ok s) l') (known : l.Known) : s < l'.sessions.next := by
  cases acquires with
  | shared _ value _ =>
    rw [withUsers, Roster.next_revise]
    exact known.shared key s value
  | opened =>
    rw [withOpen, Roster.next_join]
    exact Nat.lt_succ_self _

/-- The predicate of each phase. -/
def knownIn : Phase → Lines → Prop
  | .inHand s => fun l => l.Known ∧ s < l.sessions.next
  | _ => Known

/-- No step of the pool shares a session or hands one over that is not there. -/
theorem known_lineLogic (t : Nat) : LineLogic t knownIn where
  settle := id
  join k _ := by
    refine ⟨k.shared, fun s there => ?_⟩
    obtain there | none := List.mem_append.mp there
    · exact k.held s there
    · cases List.mem_singleton.mp none
  loosen k _ := k
  letGo k held :=
    ⟨Known.withHeld k _ nofun, k.held _ (List.mem_of_getElem? (held_of_heldBy held))⟩
  hold k _ := by
    refine k.1.withHeld _ ?_
    rintro _ ⟨⟩
    exact k.2
  share {l key s} k _ value _ := by
    refine ⟨(steps_withUsers _ _).known k, ?_⟩
    rw [withUsers, Roster.next_revise]
    exact k.shared key s value
  vacate k _ := k
  occupy := id
  refuse := steps_refused.known
  connect := steps_connected.known
  openLine k := by
    refine ⟨(steps_withOpen _).known k, ?_⟩
    rw [withOpen, Roster.next_join]
    exact Nat.lt_succ_self _
  release k force := (steps_released _ force).known k.1
  closePool {l} k := by
    have same := sameUsers_foldl l.shared { l with shared := [] }
    refine ⟨fun key s value => ?_, fun s there => ?_⟩
    · rw [poolClosed, shared_foldl] at value
      cases value
    · rw [poolClosed, same.held] at there
      exact same.next.symm ▸ k.held s there

end Lines

/-- The lines are the same. -/
def SameLines (h h' : Host) : Prop := h'.lines = h.lines

theorem sameLines : Frame SameLines := ⟨fun _ => rfl, fun a b => b.trans a⟩

namespace Action

open Keeps

variable {α : Type}

/-- What is steady under every quiet relation leaves the lines alone. -/
theorem keeps_lines {x : Action α} (hx : ∀ {R}, Quiet R → Steady R x) : Keeps SameLines x :=
  fun h => (Steady.unmoved (fun l cs => hx (quiet_unmoved l cs)) h).1

/-- A handshake is made of changes that no quiet relation minds. -/
theorem steady_handshake {R : Host → Host → Prop} (hR : Quiet R) (t s : Nat) :
    Steady R (handshake t s) := by
  have catalog : Steady R (nextCatalog t) := by
    refine Steady.get_bind (fun h g r => by rw [table_agree (hR.agree r)]) fun h => ?_
    split
    · exact Steady.of_throw _
    · exact Steady.of_pure _
    · exact Smooth.bind_steady (smooth_reviseTable hR t fun _ => rfl) fun _ => Steady.of_pure _
  refine Steady.get_bind (fun h g r => by rw [table_agree (hR.agree r)]) fun h => ?_
  refine Steady.bind catalog fun catalog => Steady.bind (steady_readShape hR ..) fun shape => ?_
  refine Smooth.bind_steady (smooth_reviseTable hR t fun _ => rfl) fun _ => ?_
  refine Steady.get_bind (fun h g r => by rw [table_agree (hR.agree r)]) fun h => ?_
  dsimp only
  split
  · exact (smooth_reviseTable hR t (f := adopted shape) fun _ => rfl).steady
  · split
    · exact (smooth_report hR _).steady
    · exact Steady.of_pure ()

theorem lines_handshake (t s : Nat) : Keeps SameLines (handshake t s) :=
  keeps_lines fun hR => steady_handshake hR t s

/-- A connect fails, or comes to a connection with the next number. -/
theorem lines_dial (h : Host) : Reaches connectOnce h fun r h' =>
    (∃ fault, r = .ok (.error fault)) ∧ h'.lines = h.lines.refused
      ∨ r = .ok (.ok (h.connects + 1)) ∧ h'.lines = h.lines.connected := by
  refine Reaches.get_bind (Reaches.fromScript_bind (Reaches.modify_bind (Reaches.modify_bind ?_)))
  cases h.script.connect.1 with
  | error fault => exact .inl ⟨⟨fault, rfl⟩, rfl⟩
  | ok _ => exact .inr ⟨rfl, rfl⟩

/-- A connect through the breaker of a target is turned away, fails, or comes to a connection. -/
theorem lines_connectGuarded (key : LinkKey) (h : Host) :
    Reaches (connectGuarded key) h fun r h' =>
      (∃ fault, r = .error fault) ∧ (h'.lines = h.lines ∨ h'.lines = h.lines.refused)
        ∨ r = .ok (h.connects + 1) ∧ h'.lines = h.lines.connected := by
  have breaker := keeps_lines fun hR => steady_breakerFor hR key
  have keep (breaker : Remote.Breaker) : Keeps SameLines (keepBreaker key breaker) :=
    keeps_lines fun hR => (smooth_keepBreaker hR key breaker).steady
  have told (notices : List Notice) : Keeps SameLines (reportAll notices) :=
    keeps_lines fun hR => (smooth_reportAll hR notices).steady
  have tells (notices : List Notice) : Succeeds (reportAll notices) :=
    .of_forM notices report_succeeds
  refine Reaches.behind breaker (fun breaker h₁ same₁ => ?_) fun fault h₁ same₁ =>
    .inl ⟨⟨fault, rfl⟩, .inl same₁⟩
  refine Reaches.bind_ofExcept (fun allowed _ => ?_) fun fault _ =>
    .inl ⟨⟨fault, rfl⟩, .inl same₁⟩
  obtain ⟨breaker, notices⟩ := allowed
  refine Reaches.past (.of_modify _) (keep breaker) fun _ h₂ same₂ => ?_
  refine Reaches.past (tells notices) (told notices) fun _ h₃ same₃ => ?_
  have same : SameLines h h₃ := sameLines.trans (sameLines.trans same₁ same₂) same₃
  have number : h₃.connects = h.connects := congrArg Lines.connects same
  -- The breaker lets the connect through, and counts what comes of it, which moves no line.
  refine Reaches.bind (lines_dial h₃) (fun r h₄ dialled => ?_) fun fault h₄ dialled => ?_
  · rcases dialled with ⟨⟨fault, e⟩, refused⟩ | ⟨e, connected⟩
    · obtain rfl := Except.ok.inj e
      obtain ⟨fault', breaker, notices, settled⟩ :=
        breaker.settle_error (α := Nat) (fun _ => true) fault
      rw [settled]
      refine Reaches.past (.of_modify _) (keep breaker) fun _ h₅ same₅ => ?_
      refine Reaches.past (tells notices) (told notices) fun _ h₆ same₆ => ?_
      have behind : h₆.lines = h₄.lines := sameLines.trans same₅ same₆
      exact .inl ⟨⟨fault', rfl⟩, .inr (behind.trans (by rw [refused, same]))⟩
    · obtain rfl := Except.ok.inj e
      obtain ⟨breaker, notices, settled⟩ := breaker.settle_ok (fun _ => true) (h₃.connects + 1)
      rw [settled]
      refine Reaches.past (.of_modify _) (keep breaker) fun _ h₅ same₅ => ?_
      refine Reaches.past (tells notices) (told notices) fun _ h₆ same₆ => ?_
      have behind : h₆.lines = h₄.lines := sameLines.trans same₅ same₆
      exact .inr ⟨by rw [number]; rfl, behind.trans (by rw [connected, same])⟩
  · rcases dialled with ⟨⟨_, e⟩, -⟩ | ⟨e, -⟩ <;> cases e

/-- A session that is acquired is shared or opened, behind one connect at most. -/
theorem lines_acquire (key : LinkKey) (h : Host) :
    Reaches (acquire key) h fun r h' => h.lines.Acquires key r h'.lines := by
  refine Reaches.get_bind ?_
  cases found : sharedSession? h key with
  | some s =>
    obtain ⟨shares, value, isOpen⟩ := LineLogic.sharedSession?_some found
    refine Reaches.modify_bind ?_
    show h.lines.Acquires key (.ok s) (h.withUser s).lines
    rw [LineLogic.lines_withUser]
    exact .shared shares value isOpen
  | none =>
    have alone := LineLogic.sharedSession?_none found
    have connector := keeps_lines fun hR => steady_connectorFor hR key
    refine Reaches.behind connector (fun url h₁ same₁ => ?_) fun fault h₁ same₁ =>
      .refused (.inl same₁)
    -- A connection is opened, and with it a session that is shared if the pool shares.
    refine Reaches.bind (lines_connectGuarded key h₁) (fun n h₂ came => ?_) fun fault h₂ came => ?_
    · obtain ⟨⟨_, e⟩, -⟩ | ⟨e, connected⟩ := came
      · cases e
      obtain rfl := Except.ok.inj e
      have noted : Keeps SameLines (note (.setToCommit (h₁.connects + 1))) :=
        keeps_lines fun hR => (smooth_note hR rfl rfl rfl).steady
      refine Reaches.past (.of_modify _) noted fun _ h₃ same₃ => ?_
      refine Reaches.get_bind (Reaches.modify_bind (Reaches.modify_bind ?_))
      have reported (notice : Notice) : Keeps SameLines (report notice) :=
        keeps_lines fun hR => (smooth_report hR notice).steady
      refine Reaches.past (report_succeeds _) (reported _) fun _ h₄ same₄ => ?_
      generalize made : (⟨key, h₁.connects + 1, url.dialect, Dialect.Vendor.ofUrl key.url,
        Dialect.Flags.none, 1, false, []⟩ : Session) = session at same₄
      have new : session.IsNew key (h₁.connects + 1) := made ▸ ⟨rfl, rfl, rfl, rfl, rfl⟩
      have behind : h₄.lines = (h₃.withOpen session).lines := by
        rw [← made] at same₄ ⊢
        exact same₄
      have lines : h₃.lines = h.lines.connected := by rw [same₃, connected, same₁]
      have next : h₃.sessions.next = h.lines.sessions.next := by
        rw [← h₃.lines_next, lines]
        rfl
      have number : h₁.connects = h.lines.connects := congrArg Lines.connects same₁
      rw [LineLogic.lines_withOpen h₃ new, lines, number] at behind
      show h.lines.Acquires key (.ok h₃.sessions.next) h₄.lines
      rw [behind, next]
      exact .opened alone
    · obtain ⟨-, same₂ | refused⟩ | ⟨e, -⟩ := came
      · exact .refused (.inl (sameLines.trans same₁ same₂))
      · exact .refused (.inr (by rw [refused, same₁]))
      · cases e

end Action

end LinkedTables
