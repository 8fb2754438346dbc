import LinkedTables.Proofs.ActionLogic
import LinkedTables.Proofs.CursorLogic
import LinkedTables.Proofs.Lines

/-!
# Cursors that have come to their end

A cursor goes on for as long as it gives rows. Where there is no next row, or a fault instead of
one, it has ended (`Action.stepped_next`), and so it has when it is given up
(`Action.ended_closeCursor`) or read as a whole (`Action.ended_drain`): each row that it gives leaves
fewer of them (`Action.fewer_of_next`), so that it takes at most one step more than there are rows.
-/

namespace LinkedTables

namespace Action

variable {h g : Host} {c : Nat} {row : List Value}

/-! ### One row -/

theorem cursors_fetch (h : Host) (r : Nat) : (h.act (fetch r)).2.cursors = h.cursors :=
  (Steady.unmoved (fun l cs => steady_fetch (quiet_unmoved l cs) r) h).2

/-- A row that is fetched is not left any more. -/
theorem fewer_of_fetch {r : Nat} (e : h.act (fetch r) = (.ok (some row), g)) :
    (g.result r).rows.length < (h.result r).rows.length := by
  rw [fetch, Host.act_get_bind] at e
  cases rows : (h.result r).rows with
  | nil =>
    simp only [rows] at e
    cases e
  | cons first rest =>
    simp only [rows] at e
    split at e
    · cases e
    · cases first with
      | error fault => cases e
      | ok values =>
        cases e
        -- There is a result to be revised, as one that nobody opened has no rows.
        obtain ⟨result, known⟩ : ∃ result, h.results.at? r = some result := by
          cases known : h.results.at? r with
          | some result => exact ⟨result, rfl⟩
          | none =>
            rw [Host.result, known] at rows
            cases rows
        show ((h.results.revise r _).at? r |>.getD default).rows.length < _
        rw [Roster.at?_revise_self, known]
        exact Nat.lt_succ_self _

/-- How a cursor is left behind a step: its query has run if there was a row, and else it has
ended. -/
def Stepped (c : Nat) : Except Fault (Option (List Value)) → Host → Prop
  | .ok (some _), h => (h.cursor c).phase ≠ .fresh
  | _, h => (h.cursor c).phase = .ended

/-- What leaves cursors alone leaves one that has ended. -/
theorem ended_behind {x : Action Unit} (alone : ∀ l cs, Smooth (Unmoved l cs) x) (h : Host) :
    Reaches x (h.withPhase c .ended) fun _ h' => (h'.cursor c).phase = .ended := by
  have kept := (Steady.unmoved (fun l cs => (alone l cs).steady) (h.withPhase c .ended)).2
  rw [Reaches, Host.cursor, kept]
  exact h.phase_ended c

theorem stepped_readNext (ran : (h.cursor c).phase ≠ .fresh) (cursor : Cursor) (st r : Nat) :
    Reaches (readNext c cursor st r) h (Stepped c) := by
  refine .outcome_bind (P := fun _ h' => h'.cursors = h.cursors) (cursors_fetch h r) ?_
  rintro (fault | _ | row) h' same
  · exact .modify_bind (.bind (ended_behind (fun _ _ => unmoved_closeStatement st) h')
      (fun _ _ ended => ended) fun _ _ ended => ended)
  · exact .modify_bind (.bind
      (ended_behind (fun _ _ => unmoved_handBack cursor.table st cursor.sql) h')
      (fun _ _ ended => ended) fun _ _ ended => ended)
  · show (h'.cursor c).phase ≠ .fresh
    rw [Host.cursor, same]
    exact ran

theorem stepped_next (h : Host) (c : Nat) : Reaches (next c) h (Stepped c) := by
  refine .get_bind ?_
  dsimp only
  split
  next ended => exact ended
  next st r phase => exact stepped_readNext (by rw [phase]; nofun) (h.cursor c) st r
  next =>
    -- Whatever the execution of the query has done, the cursor reads from there on.
    refine .outcome_bind (P := fun _ _ => True) trivial ?_
    rintro (fault | st) h' -
    · exact .modify_bind (h'.phase_ended c)
    · refine .get_bind ?_
      cases (h'.statement st).result with
      | none => exact .modify_bind (h'.phase_ended c)
      | some r => exact .modify_bind (stepped_readNext (h'.phase_of_reading c st r) _ st r)

/-- A row that a cursor gives is one that has been fetched. -/
theorem fetched_of_readNext {cursor : Cursor} {st r : Nat}
    (e : h.act (readNext c cursor st r) = (.ok (some row), g)) :
    h.act (fetch r) = (.ok (some row), g) := by
  rw [readNext, Host.act_outcome_bind] at e
  generalize h.act (fetch r) = p at e ⊢
  obtain ⟨fault | _ | row', h'⟩ := p
  · obtain ⟨_, _, -, e⟩ := Host.exists_of_act_bind e
    obtain ⟨_, _, -, e⟩ := Host.exists_of_act_bind e
    cases e
  · obtain ⟨_, _, -, e⟩ := Host.exists_of_act_bind e
    obtain ⟨_, _, -, e⟩ := Host.exists_of_act_bind e
    cases e
  · exact e

/-- A row that a cursor gives is not left any more. -/
theorem fewer_of_next (ran : (h.cursor c).phase ≠ .fresh)
    (e : h.act (next c) = (.ok (some row), g)) : remaining g c < remaining h c := by
  rw [next, Host.act_get_bind] at e
  cases phase : (h.cursor c).phase with
  | fresh => exact absurd phase ran
  | ended =>
    simp only [phase] at e
    cases e
  | reading st r =>
    simp only [phase] at e
    have fetched := fetched_of_readNext e
    have same : g.cursor c = h.cursor c := by
      have cursors := cursors_fetch h r
      rw [fetched] at cursors
      rw [Host.cursor, cursors]
      rfl
    rw [remaining, remaining, same, phase]
    exact fewer_of_fetch fetched

/-! ### All rows -/

theorem ended_drainFrom (ran : (h.cursor c).phase ≠ .fresh) (fuel : Nat)
    (enough : remaining h c < fuel) :
    Reaches (drainFrom c fuel) h fun _ h' => (h'.cursor c).phase = .ended := by
  induction fuel generalizing h with
  | zero => exact absurd enough (Nat.not_lt_zero _)
  | succ fuel ih =>
    have stepped := stepped_next h c
    rw [Reaches] at stepped
    refine .bind (P := fun r h' => h.act (next c) = (r, h')) rfl (fun row g e => ?_)
      fun fault g e => ?_
    · rw [e] at stepped
      cases row with
      | none => exact stepped
      | some row =>
        have fewer := fewer_of_next ran e
        exact .bind (ih stepped (by omega)) (fun _ _ ended => ended) fun _ _ ended => ended
    · rw [e] at stepped
      exact stepped

theorem ended_drain (h : Host) (c : Nat) :
    Reaches (drain c) h fun _ h' => (h'.cursor c).phase = .ended := by
  refine .bind (stepped_next h c) ?_ fun fault h' ended => ended
  rintro (_ | row) h' stepped
  · exact stepped
  · exact .get_bind (.bind (ended_drainFrom stepped _ (Nat.lt_succ_self _))
      (fun _ _ ended => ended) fun _ _ ended => ended)

/-! ### A cursor that is given up -/

theorem ended_closeCursor (h : Host) (c : Nat) :
    Reaches (closeCursor c) h fun _ h' => (h'.cursor c).phase = .ended := by
  refine .get_bind (.modify_bind ?_)
  split
  next st r phase => exact ended_behind (fun _ _ => unmoved_closeStatement st) h
  next => exact h.phase_ended c

end Action

/-! ### Operations that end a cursor -/

/-- The cursor that has come to its end with a reply: one that was given up or read as a whole, or
that has no next row, because none is left or because of a fault. -/
def Operation.ended? : Operation → Except Fault Reply → Option Nat
  | .closeCursor c, _ | .drain c, _ => some c
  | .next _, .ok (.row (some _)) => none
  | .next c, _ => some c
  | _, _ => none

/-- Only a cursor that is read or given up comes to its end. -/
theorem Operation.cursor?_of_ended? {o : Operation} {reply : Except Fault Reply} {c : Nat}
    (ends : o.ended? reply = some c) : o.cursor? = some c := by
  unfold ended? at ends
  split at ends
  · exact ends
  · exact ends
  · cases ends
  · exact ends
  · cases ends

/-- A cursor that has come to its end has ended. -/
theorem Host.phase_of_ended? {h : Host} {o : Operation} {c : Nat}
    (ends : o.ended? (h.perform o).1 = some c) :
    ((h.perform o).2.cursor c).phase = .ended := by
  cases o with
  | closeCursor c' =>
    obtain rfl := Option.some.inj ends
    have ended := Action.ended_closeCursor h c'
    rwa [Host.perform, Operation.perform, Host.act_silently]
  | drain c' =>
    obtain rfl := Option.some.inj ends
    have ended := Action.ended_drain h c'
    rwa [Host.perform, Operation.perform, Host.act_map]
  | next c' =>
    have stepped := Action.stepped_next h c'
    rw [Action.Reaches] at stepped
    rw [Host.perform, Operation.perform, Host.act_map] at ends ⊢
    generalize h.act (Action.next c') = p at stepped ends ⊢
    obtain ⟨fault | _ | row, h'⟩ := p
    · obtain rfl := Option.some.inj ends
      exact stepped
    · obtain rfl := Option.some.inj ends
      exact stepped
    · cases ends
  | _ => cases ends

end LinkedTables
