import LinkedTables.Proofs.OperationLogic
import LinkedTables.Proofs.Pairing

/-!
# The logic of custody

`PairedIn` relates paired hosts in each phase of the work on a table, where the statements that
cursors read and those that were left with callers are in custody. It is a `CursorLogic` for the
executor that keeps idle statements and the one that keeps none, whatever sessions and statements
are followed (`PairedIn.cursorLogic`).
-/

namespace LinkedTables

/-- Paired hosts, for the phases of the work on a table. A statement that has just been executed is
not one that is followed. -/
def PairedIn (watch : Watch) (lent lent' : Nat → Option Use) : Phase → Host → Host → Prop
  | .busy sql r st st' => fun h g => Paired.Executed watch (holdings lent h.cursors)
    (holdings lent' g.cursors) h.cursors g.cursors sql r st st' h g
  | .spent sql r st st' => fun h g => Paired watch (some ⟨st, sql, r⟩) (some ⟨st', sql, r⟩)
    (holdings lent h.cursors) (holdings lent' g.cursors) h.cursors g.cursors h g
  | _ => fun h g => Paired watch none none (holdings lent h.cursors) (holdings lent' g.cursors)
    h.cursors g.cursors h g

namespace PairedIn

open LinkedTables.Action

variable {watch : Watch} {lent lent' : Nat → Option Use} {run run' : Option Use}
  {cs cs' : Roster Cursor} {F : Roster Cursor → Roster Cursor → Prop}

/-- What is known of given cursors is known of the hosts that have them. -/
theorem kept {h g : Host}
    (p : Paired watch run run' (holdings lent cs) (holdings lent' cs') cs cs' h g) (hF : F cs cs') :
    Paired watch run run' (holdings lent h.cursors) (holdings lent' g.cursors) h.cursors g.cursors
      h g ∧ F h.cursors g.cursors := by
  obtain rfl := p.cursors
  obtain rfl := p.cursors'
  exact ⟨p, hF⟩

theorem quiet (F : Roster Cursor → Roster Cursor → Prop) (p : Phase) :
    Quiet fun h g => PairedIn watch lent lent' p h g ∧ F h.cursors g.cursors := by
  have paired (run run' : Option Use) : Quiet fun h g => Paired watch run run'
      (holdings lent h.cursors) (holdings lent' g.cursors) h.cursors g.cursors h g ∧
        F h.cursors g.cursors :=
    ⟨fun r => r.1.agree, fun f h g r _ hs _ gs ho => kept (r.1.keep hs gs ho) r.2⟩
  cases p with
  | busy sql r st st' =>
    refine ⟨fun r => r.1.1.agree, fun f h g r _ hs _ gs ho => ?_⟩
    obtain ⟨⟨p, unwatched⟩, hF⟩ := r
    obtain ⟨p, hF⟩ := kept (p.keep hs gs ho) hF
    exact ⟨⟨p, unwatched⟩, hF⟩
  | _ => exact paired _ _

/-- The executor that keeps idle statements and the one that keeps none, side by side. -/
theorem linkLogic (t : Nat) (F : Roster Cursor → Roster Cursor → Prop) :
    LinkLogic .cached .fresh t fun p h g =>
      PairedIn watch lent lent' p h g ∧ F h.cursors g.cursors where
  quiet := quiet F
  settle := id
  join := by
    rintro h g table ⟨p, hF⟩ - -
    exact ⟨p.same (f := fun h => h.withTable table) (fun _ => rfl) fun _ => rfl, hF⟩
  loosen := by
    rintro h g ⟨p, hF⟩ -
    exact ⟨p.same (f := fun h => h.withSession t none) (fun _ => rfl) fun _ => rfl, hF⟩
  letGo := by
    rintro h g s ⟨p, hF⟩ -
    exact ⟨p.same (f := fun h => h.withSession t none) (fun _ => rfl) fun _ => rfl, hF⟩
  hold := by
    rintro h g s ⟨p, hF⟩ -
    exact ⟨p.same (f := fun h => h.withSession t (some s)) (fun _ => rfl) fun _ => rfl, hF⟩
  share := by
    rintro h g key s ⟨p, hF⟩ -
    exact ⟨p.counted s (· + 1), hF⟩
  vacate r _ := r
  occupy := id
  dial key := by
    rintro h g ⟨p, hF⟩
    refine (Paired.dial p).mono (fun r r' h g ends => ?_) fun _ _ e => kept e hF
    exact ends.mono (fun n n' h g q => ⟨q.1, kept q.2 hF⟩) fun _ _ e => kept e hF
  openLine := by
    rintro h g key n session ⟨p, hF⟩ new
    exact ⟨p.withOpen new, hF⟩
  release s force := by
    rintro h g ⟨p, hF⟩
    exact (Paired.release s force p).mono (fun _ _ _ _ q => kept q.2 hF) fun _ _ e => kept e hF
  closePool := by
    rintro h g ⟨p, hF⟩
    exact (Paired.closePool p).mono (fun _ _ _ _ q => kept q.2 hF) fun _ _ e => kept e hF
  attempt s sql params client := by
    rintro h g ⟨p, hF⟩
    refine (Paired.attempt t s sql params client p).mono (fun r r' h g ends => ?_)
      fun _ _ e => kept e hF
    refine ends.mono (fun st st' h g q => ?_) fun _ _ e => kept e hF
    obtain ⟨r, p, unwatched⟩ := q
    obtain ⟨p, hF⟩ := kept p hF
    exact ⟨r, ⟨p, unwatched⟩, hF⟩
  -- From here on it does not matter whether the statement is followed.
  spend := by
    rintro h g sql r st st' ⟨⟨p, -⟩, hF⟩
    exact ⟨p, hF⟩
  handBack sql r st st' := by
    rintro h g ⟨p, hF⟩
    exact (Paired.handBack t sql r st st' p).mono (fun _ _ _ _ q => kept q hF) fun _ _ e => e
  close sql r st st' := by
    rintro h g ⟨p, hF⟩
    exact (Paired.close sql r st st' p).mono (fun _ _ _ _ q => kept q hF) fun _ _ e => e
  result := by
    rintro h g sql r st st' ⟨⟨p, -⟩, -⟩
    obtain ⟨s, n, ha⟩ := p.busy
    obtain ⟨s', n', hb⟩ := p.busy'
    rw [Host.statement_of_at? ha, Host.statement_of_at? hb]

/-! ### Cursors -/

/-- What a cursor uses. -/
theorem holdings_cursor (lent : Nat → Option Use) (h : Host) (c : Nat) :
    holdings lent h.cursors (.cursor c) = (h.cursor c).use? := by
  show (h.cursors.at? c).bind Cursor.use? = ((h.cursors.at? c).getD default).use?
  cases h.cursors.at? c <;> rfl

/-- What a cursor uses from now on. -/
theorem holdings_reading (lent : Nat → Option Use) {h : Host} {c : Nat}
    (known : (h.cursor c).phase ≠ .ended) (st r : Nat) :
    holdings lent (h.withPhase c (.reading st r)).cursors
      = handing (holdings lent h.cursors) (.cursor c) (some ⟨st, (h.cursor c).sql, r⟩) := by
  have found : h.cursors.at? c = some (h.cursor c) := by
    rw [Host.cursor, Roster.at?, List.getElem?_eq_getElem (Host.cursor_known known)]
    rfl
  rw [Host.withPhase, holdings_revise, found]
  rfl

/-- A cursor that has ended uses nothing. -/
theorem holdings_ended (lent : Nat → Option Use) (h : Host) (c : Nat) :
    holdings lent (h.withPhase c .ended).cursors
      = handing (holdings lent h.cursors) (.cursor c) none := by
  rw [Host.withPhase, holdings_revise]
  cases h.cursors.at? c <;> rfl

/-- Only a cursor that reads uses a statement. -/
theorem unused {cursor : Cursor} (idle : ∀ st r, cursor.phase ≠ .reading st r) :
    cursor.use? = none :=
  Option.eq_none_iff_forall_ne_some.mpr fun _ hu => idle _ _ (Cursor.use?_eq_some.mp hu).1

theorem cursorLogic (watch : Watch) (lent lent' : Nat → Option Use) (t : Nat) :
    CursorLogic .cached .fresh t (fun _ => True) (PairedIn watch lent lent') where
  link F := linkLogic t F
  start := by
    intro h g cursor p phase
    have unused : cursor.use? = none := by rw [Cursor.use?, phase]
    have outline (k : Host) : (k.withCursor cursor).outline = k.outline.withCursor cursor :=
      outline_joinCursor phase k
    show Paired watch none none (holdings lent (h.cursors.join cursor))
      (holdings lent' (g.cursors.join cursor)) _ _ _ _
    rw [holdings_join lent _ unused, holdings_join lent' _ unused]
    exact ⟨by rw [outline, outline, p.agree], rfl, rfl, p.left.of_shelves rfl rfl,
      p.right.of_shelves rfl rfl, p.bare, p.tally⟩
  suspend := by
    intro h g c r k st st' _ ⟨p, unwatched⟩ phase phase' result
    obtain ⟨s, n, ha⟩ := p.busy
    rw [Host.statement_of_at? ha] at result
    obtain rfl := Option.some.inj result
    have sql : (g.cursor c).sql = (h.cursor c).sql :=
      (congrArg Cursor.sql (cursor_agree p.agree c)).symm
    have known : (h.cursor c).phase ≠ .ended := by rw [phase]; nofun
    have known' : (g.cursor c).phase ≠ .ended := by rw [phase']; nofun
    -- The cursor has nothing yet, and takes what the work has.
    have free : holdings lent h.cursors (.cursor c) = none := by
      rw [holdings_cursor, Cursor.use?, phase]
    have free' : holdings lent' g.cursors (.cursor c) = none := by
      rw [holdings_cursor, Cursor.use?, phase']
    have q := p.lend free free' unwatched
    rw [← sql, ← holdings_reading lent' known', sql, ← holdings_reading lent known] at q
    exact q.withPhase (fun _ => rfl) (fun _ => rfl) c
  resume := by
    intro h g c r st st' _ p phase phase'
    have sql : (g.cursor c).sql = (h.cursor c).sql :=
      (congrArg Cursor.sql (cursor_agree p.agree c)).symm
    have hx : holdings lent h.cursors (.cursor c) = some ⟨st, (h.cursor c).sql, r⟩ := by
      rw [holdings_cursor, Cursor.use?, phase]
    have hx' : holdings lent' g.cursors (.cursor c) = some ⟨st', (h.cursor c).sql, r⟩ := by
      rw [holdings_cursor, Cursor.use?, phase', ← sql]
    have q := p.redeem hx hx'
    rw [← holdings_ended, ← holdings_ended] at q
    exact q.withPhase (fun _ => rfl) (fun _ => rfl) c
  conclude := by
    intro h g c _ p idle idle'
    have hx : holdings lent h.cursors (.cursor c) = none := by
      rw [holdings_cursor, unused idle]
    have hx' : holdings lent' g.cursors (.cursor c) = none := by
      rw [holdings_cursor, unused idle']
    -- A cursor that reads nothing gives nothing away.
    have q : Paired watch none none (handing (holdings lent h.cursors) (.cursor c) none)
        (handing (holdings lent' g.cursors) (.cursor c) none) h.cursors g.cursors h g := by
      rw [handing_eq hx, handing_eq hx']
      exact p
    rw [← holdings_ended, ← holdings_ended] at q
    exact q.withPhase (fun _ => rfl) (fun _ => rfl) c
  idle := by
    rintro h g sql r st st' ⟨p, -⟩ none
    obtain ⟨s, n, ha⟩ := p.busy
    rw [Host.statement_of_at? ha] at none
    cases none

end PairedIn

end LinkedTables
