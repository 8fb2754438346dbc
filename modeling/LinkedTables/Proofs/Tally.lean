import LinkedTables.Proofs.Custody
import Mathlib.Logic.Equiv.Basic

/-!
# The tally of results

A result is opened on a statement for one user, and closed when that user is done with the
statement. `Tally` says that the account comes out: no result is closed twice, and the results that
are open are those in use, each with one user. The steps of the work on statements keep it: a result
is opened for the work (`Tally.opens`) and closed behind it (`Tally.closes`), and statements pass
from the work to a holder and back (`Tally.lend`, `Tally.redeem`).
-/

namespace LinkedTables

/-- Who uses a statement: the work that is going on, or else a holder. -/
def users (run : Option Use) (held : Holder → Option Use) : Option Holder → Option Use
  | none => run
  | some x => held x

/-- Of so many results that were opened, each has been closed once, or is in use by one user. -/
structure Tally (users : Option Holder → Option Use) (opened : Nat) (closed : List Nat) :
    Prop where
  once : closed.Nodup
  begun : ∀ r ∈ closed, r < opened
  due : ∀ r, r < opened → r ∉ closed → ∃ x u, users x = some u ∧ u.result = r
  unclosed : ∀ x u, users x = some u → u.result < opened ∧ u.result ∉ closed
  alone : ∀ x y u v, users x = some u → users y = some v → u.result = v.result → x = y

namespace Tally

variable {held : Holder → Option Use} {opened : Nat} {closed : List Nat}

/-- The users may exchange what they have. -/
theorem exchange {users : Option Holder → Option Use} (t : Tally users opened closed)
    (e : Equiv.Perm (Option Holder)) : Tally (users ∘ e) opened closed where
  once := t.once
  begun := t.begun
  due r isOpen unclosed := by
    obtain ⟨x, u, hu, rfl⟩ := t.due r isOpen unclosed
    exact ⟨e.symm x, u, by rw [Function.comp, e.apply_symm_apply, hu], rfl⟩
  unclosed x := t.unclosed (e x)
  alone x y u v hu hv same := e.injective (t.alone (e x) (e y) u v hu hv same)

/-- What the work has and what a holder has are exchanged. -/
theorem users_swap (run : Option Use) (held : Holder → Option Use) (x : Holder) :
    users run held ∘ Equiv.swap none (some x) = users (held x) (handing held x run) := by
  funext y
  rw [Function.comp]
  cases y with
  | none => rw [Equiv.swap_apply_left, users, users]
  | some y =>
    by_cases same : y = x
    · rw [same, Equiv.swap_apply_right, users, users, handing_self]
    · have other : some y ≠ some x := fun e => same (Option.some.inj e)
      rw [Equiv.swap_apply_of_ne_of_ne (Option.some_ne_none y) other, users, users,
        handing_of_ne held run same]

/-- The work leaves its result with a holder that has none. -/
theorem lend {u : Use} (t : Tally (users (some u) held) opened closed) {x : Holder}
    (free : held x = none) :
    Tally (users none (handing held x (some u))) opened closed := by
  have exchanged := t.exchange (Equiv.swap none (some x))
  rw [users_swap, free] at exchanged
  exact exchanged

/-- The work takes the result of a holder. -/
theorem redeem {u : Use} (t : Tally (users none held) opened closed) {x : Holder}
    (hx : held x = some u) : Tally (users (some u) (handing held x none)) opened closed := by
  have exchanged := t.exchange (Equiv.swap none (some x))
  rw [users_swap, hx] at exchanged
  exact exchanged

/-- The next result is opened for the work. -/
theorem opens (t : Tally (users none held) opened closed) {u : Use} (new : u.result = opened) :
    Tally (users (some u) held) (opened + 1) closed where
  once := t.once
  begun r ended := Nat.lt_succ_of_lt (t.begun r ended)
  due r isOpen unclosed := by
    obtain before | rfl := Nat.lt_succ_iff_lt_or_eq.mp isOpen
    · obtain ⟨x, v, hv, rfl⟩ := t.due r before unclosed
      cases x with
      | none => cases hv
      | some x => exact ⟨some x, v, hv, rfl⟩
    · exact ⟨none, u, rfl, new⟩
  unclosed x v hv := by
    cases x with
    | none =>
      obtain rfl := Option.some.inj hv
      exact ⟨new ▸ Nat.lt_succ_self _, fun ended => Nat.lt_irrefl _ (new ▸ t.begun _ ended)⟩
    | some x =>
      obtain ⟨before, unclosed⟩ := t.unclosed (some x) v hv
      exact ⟨Nat.lt_succ_of_lt before, unclosed⟩
  alone x y v w hv hw same := by
    -- The result of a holder was opened before, and so is another one.
    have other {x : Holder} {v : Use} (hv : held x = some v) : v.result ≠ u.result :=
      new ▸ Nat.ne_of_lt (t.unclosed (some x) v hv).1
    match x, y with
    | none, none => rfl
    | none, some y =>
      obtain rfl := Option.some.inj hv
      exact absurd same.symm (other hw)
    | some x, none =>
      obtain rfl := Option.some.inj hw
      exact absurd same (other hv)
    | some x, some y => exact t.alone (some x) (some y) v w hv hw same

/-- The result of the work is closed. -/
theorem closes {u : Use} (t : Tally (users (some u) held) opened closed) :
    Tally (users none held) opened (u.result :: closed) where
  once := List.nodup_cons.mpr ⟨(t.unclosed none u rfl).2, t.once⟩
  begun r ended := by
    obtain rfl | ended := List.mem_cons.mp ended
    · exact (t.unclosed none u rfl).1
    · exact t.begun r ended
  due r isOpen unclosed := by
    obtain ⟨x, v, hv, rfl⟩ := t.due r isOpen (List.not_mem_of_not_mem_cons unclosed)
    cases x with
    | none =>
      obtain rfl := Option.some.inj hv
      exact absurd rfl (List.ne_of_not_mem_cons unclosed)
    | some x => exact ⟨some x, v, hv, rfl⟩
  unclosed x v hv := by
    cases x with
    | none => cases hv
    | some x =>
      obtain ⟨isOpen, unclosed⟩ := t.unclosed (some x) v hv
      refine ⟨isOpen, List.not_mem_cons_of_ne_of_not_mem (fun same => ?_) unclosed⟩
      cases t.alone (some x) none v u hv rfl same
  alone x y v w hv hw := by
    match x, y with
    | none, _ => cases hv
    | some _, none => cases hw
    | some x, some y => exact t.alone (some x) (some y) v w hv hw

/-- At the start no result has been opened. -/
theorem start (nothing : ∀ x, held x = none) : Tally (users none held) 0 [] where
  once := List.nodup_nil
  begun := nofun
  due r isOpen := absurd isOpen (Nat.not_lt_zero r)
  unclosed x u hu := by
    cases x with
    | none => cases hu
    | some x => cases (nothing x).symm.trans hu
  alone x _ u _ hu := by
    cases x with
    | none => cases hu
    | some x => cases (nothing x).symm.trans hu

end Tally

end LinkedTables
