import LinkedTables.Proofs.AcquireRelease

/-!
# The sessions of one table

Where no sessions are shared, a table comes to a session only by opening it, so that behind work for
the table it holds the session that it held before, or one that was not there; the other tables hold
what they held (`Mine`). Each step of the pool keeps that (`mine_lineLogic`).
-/

namespace LinkedTables

/-- Two predicates on lines that every step keeps. -/
theorem LineLogic.and {t : Nat} {P Q : Phase → Lines → Prop} (L : LineLogic t P)
    (M : LineLogic t Q) : LineLogic t fun p l => P p l ∧ Q p l where
  settle k := ⟨L.settle k.1, M.settle k.2⟩
  join k ht := ⟨L.join k.1 ht, M.join k.2 ht⟩
  loosen k none := ⟨L.loosen k.1 none, M.loosen k.2 none⟩
  letGo k held := ⟨L.letGo k.1 held, M.letGo k.2 held⟩
  hold k known := ⟨L.hold k.1 known, M.hold k.2 known⟩
  share k shares value isOpen :=
    ⟨L.share k.1 shares value isOpen, M.share k.2 shares value isOpen⟩
  vacate k alone := ⟨L.vacate k.1 alone, M.vacate k.2 alone⟩
  occupy k := ⟨L.occupy k.1, M.occupy k.2⟩
  refuse k := ⟨L.refuse k.1, M.refuse k.2⟩
  connect k := ⟨L.connect k.1, M.connect k.2⟩
  openLine k := ⟨L.openLine k.1, M.openLine k.2⟩
  release k force := ⟨L.release k.1 force, M.release k.2 force⟩
  closePool k := ⟨L.closePool k.1, M.closePool k.2⟩

namespace Lines

/-- Unless sessions are shared, the table held the session, or it was not there yet. -/
def Own (l : Lines) (t s : Nat) : Prop :=
  l.shares = false → l.heldBy t = some s ∨ l.sessions.next ≤ s

/-- What work for one table leaves of lines. -/
structure Mine (t : Nat) (l l' : Lines) : Prop where
  shares : l'.shares = l.shares
  next : l.sessions.next ≤ l'.sessions.next
  others : ∀ u, u ≠ t → l'.heldBy u = l.heldBy u
  own : ∀ s, l'.heldBy t = some s → l.Own t s

namespace Mine

variable {t : Nat} {l l' l'' : Lines}

/-- A session that is the table's own later on is its own from the start. -/
theorem own_of_own (m : Mine t l l') {s : Nat} (own : l'.Own t s) : l.Own t s := by
  intro apart
  obtain held | new := own (m.shares.trans apart)
  · exact m.own s held apart
  · exact .inr (Nat.le_trans m.next new)

theorem trans (a : Mine t l l') (b : Mine t l' l'') : Mine t l l'' where
  shares := b.shares.trans a.shares
  next := Nat.le_trans a.next b.next
  others u other := (b.others u other).trans (a.others u other)
  own s held := a.own_of_own (b.own s held)

/-- The tables hold what they held. -/
theorem of_held (m : Mine t l l') (shares : l''.shares = l'.shares)
    (next : l'.sessions.next ≤ l''.sessions.next) (held : l''.held = l'.held) : Mine t l l'' where
  shares := shares.trans m.shares
  next := Nat.le_trans m.next next
  others u other := by
    rw [heldBy, held]
    exact m.others u other
  own s hs := by
    rw [heldBy, held] at hs
    exact m.own s hs

theorem refl (t : Nat) (l : Lines) : Mine t l l :=
  ⟨rfl, Nat.le_refl _, fun _ _ => rfl, fun _ held _ => .inl held⟩

end Mine

/-- The predicate of each phase. -/
def mineIn (t : Nat) (old : Lines) : Phase → Lines → Prop
  | .inHand s => fun l => Mine t old l ∧ old.Own t s
  | _ => Mine t old

/-- No step of the pool gives a table the session of another, unless sessions are shared. -/
theorem mine_lineLogic (t : Nat) (old : Lines) : LineLogic t (mineIn t old) where
  settle := id
  join {l} m ht := by
    refine ⟨m.shares, m.next, fun u other => ?_, fun s held => ?_⟩
    · rw [← m.others u other]
      simp only [heldBy, withTable, Roster.at?_join, if_neg (ht ▸ other)]
    · rw [heldBy, withTable, ht, Roster.at?_join_next] at held
      cases held
  loosen m _ := m
  letGo {l s} m held := by
    refine ⟨⟨m.shares, m.next, fun u other => ?_, fun s' held' => ?_⟩, m.own s held⟩
    · rw [heldBy_withHeld_of_ne other, m.others u other]
    · rw [heldBy_withHeld_none] at held'
      cases held'
  hold {l s} m known := by
    refine ⟨m.1.shares, m.1.next, fun u other => ?_, fun s' held => ?_⟩
    · rw [heldBy_withHeld_of_ne other, m.1.others u other]
    · rw [heldBy_withHeld known] at held
      obtain rfl := Option.some.inj held
      exact m.2
  -- A shared session is nobody's own, and the pool does not share.
  share {l key s} m shares _ _ := by
    refine ⟨m.of_held rfl (Nat.le_of_eq (Roster.next_revise ..).symm) rfl, fun apart => ?_⟩
    rw [← m.shares, shares] at apart
    cases apart
  vacate m _ := m
  occupy := id
  refuse m := m.of_held rfl (Nat.le_refl _) rfl
  connect m := m.of_held rfl (Nat.le_refl _) rfl
  -- A session that is opened is behind all those that were there.
  openLine {l key n} m := by
    have next : (l.withOpen ⟨key, n, 1, false⟩).sessions.next = l.sessions.next + 1 :=
      Roster.next_join ..
    exact ⟨m.of_held rfl (by omega) rfl, fun _ => .inr m.next⟩
  release {l s} m force := m.1.of_held (shares_released force)
    (Nat.le_of_eq (next_released l s force).symm) (held_released l s force)
  closePool {l} m :=
    have same := sameUsers_foldl l.shared { l with shared := [] }
    m.of_held same.shares (Nat.le_of_eq same.next.symm) same.held

end Lines

end LinkedTables
