import LinkedTables.Host.Operation

/-!
# Actions side by side

What an action does is known from running it on a host (`Host.act`); `act_bind` and its companions
run it step by step. `Coupled R x y Q E` compares two actions on two hosts: from hosts that `R`
relates, either both come to values, related by `Q` along with the hosts behind them, or both end
in one and the same fault, with hosts that `E` relates. An action that is coupled with itself and
keeps a relation is `Steady`.

A property of single hosts is the relation `Same P` of a host with itself, so that the rules of
this module serve both for invariants of a run and for the comparison of two runs.
-/

namespace LinkedTables

namespace Host

/-! ### Running an action -/

section Act

variable {α β : Type} (h : Host)

theorem act_bind (x : Action α) (f : α → Action β) :
    h.act (x >>= f) = match h.act x with
      | (.ok a, h') => h'.act (f a)
      | (.error fault, h') => (.error fault, h') := by
  unfold act
  simp only [ExceptT.run_bind, StateT.run_bind]
  show (do let p ← _ ; _ : Id _) = _
  rcases StateT.run (ExceptT.run x) h with ⟨r, h'⟩
  cases r <;> rfl

theorem act_bind_ok {x : Action α} {f : α → Action β} {a : α} {h' : Host}
    (hx : h.act x = (.ok a, h')) : h.act (x >>= f) = h'.act (f a) := by
  rw [act_bind, hx]

theorem act_bind_error {x : Action α} {f : α → Action β} {fault : Fault} {h' : Host}
    (hx : h.act x = (.error fault, h')) : h.act (x >>= f) = (.error fault, h') := by
  rw [act_bind, hx]

theorem act_outcome (x : Action α) :
    h.act (Action.outcome x) = (.ok (h.act x).1, (h.act x).2) := rfl

theorem act_get_bind (f : Host → Action β) : h.act (get >>= f) = h.act (f h) := rfl

end Act

end Host

/-! ### Related endings -/

/-- Two outcomes with the hosts behind them: two values that `Q` relates, or the same fault
twice with hosts that `E` relates. -/
inductive Ends {α β : Type} (Q : α → β → Host → Host → Prop) (E : Host → Host → Prop) :
    Except Fault α → Except Fault β → Host → Host → Prop
  | value {a : α} {b : β} {h g : Host} (q : Q a b h g) : Ends Q E (.ok a) (.ok b) h g
  | fault {f : Fault} {h g : Host} (e : E h g) : Ends Q E (.error f) (.error f) h g

theorem Ends.mono {α β : Type} {Q Q' : α → β → Host → Host → Prop} {E E' : Host → Host → Prop}
    {r : Except Fault α} {r' : Except Fault β} {h g : Host} (ends : Ends Q E r r' h g)
    (hQ : ∀ a b h g, Q a b h g → Q' a b h g) (hE : ∀ h g, E h g → E' h g) :
    Ends Q' E' r r' h g := by
  cases ends with
  | value q => exact .value (hQ _ _ _ _ q)
  | fault e => exact .fault (hE _ _ e)

/-- Where no fault can be, there are values. -/
theorem Ends.of_safe {α β : Type} {Q : α → β → Host → Host → Prop} {r : Except Fault α}
    {r' : Except Fault β} {h g : Host} (ends : Ends Q (fun _ _ => False) r r' h g) :
    ∃ a b, r = .ok a ∧ r' = .ok b ∧ Q a b h g := by
  cases ends with
  | value q => exact ⟨_, _, rfl, rfl, q⟩
  | fault e => exact e.elim

/-- What is known behind a fault. -/
theorem Ends.of_error {α β : Type} {Q : α → β → Host → Host → Prop} {E : Host → Host → Prop}
    {r : Except Fault α} {r' : Except Fault β} {h g : Host} {fault : Fault}
    (ends : Ends Q E r r' h g) (hr : r = .error fault) : E h g := by
  cases ends with
  | value _ => cases hr
  | fault e => exact e

/-- A host and itself, with a property. -/
def Same (P : Host → Prop) (h g : Host) : Prop := h = g ∧ P h

namespace Action

/-- Side by side, from hosts that `R` relates, two actions end alike. -/
def Coupled {α β : Type} (R : Host → Host → Prop) (x : Action α) (y : Action β)
    (Q : α → β → Host → Host → Prop) (E : Host → Host → Prop) : Prop :=
  ∀ ⦃h g : Host⦄, R h g → Ends Q E (h.act x).1 (g.act y).1 (h.act x).2 (g.act y).2

/-- Side by side, two actions come to the same value, with hosts that are related as `R'` says for
the value, or end in the same fault, with hosts that `E` relates. -/
def Leads {α : Type} (R : Host → Host → Prop) (x y : Action α) (R' : α → Host → Host → Prop)
    (E : Host → Host → Prop) : Prop :=
  Coupled R x y (fun a b h g => a = b ∧ R' a h g) E

/-- Side by side, two actions come to the same and keep the relation of the hosts. -/
def Alike {α : Type} (R : Host → Host → Prop) (x y : Action α) : Prop :=
  Leads R x y (fun _ => R) R

/-- An action that is alike to itself. -/
def Steady {α : Type} (R : Host → Host → Prop) (x : Action α) : Prop := Alike R x x

/-- A steady action that never ends in a fault. -/
def Smooth {α : Type} (R : Host → Host → Prop) (x : Action α) : Prop :=
  Leads R x x (fun _ => R) fun _ _ => False

variable {α β γ δ : Type} {R R' E E' : Host → Host → Prop}

/-! ### Rules for two actions -/

namespace Coupled

variable {x : Action α} {y : Action β} {Q Q' : α → β → Host → Host → Prop}

theorem mono (hx : Coupled R x y Q E) (hR : ∀ h g, R' h g → R h g)
    (hQ : ∀ a b h g, Q a b h g → Q' a b h g) (hE : ∀ h g, E h g → E' h g) :
    Coupled R' x y Q' E' :=
  fun h g r => (hx (hR h g r)).mono hQ hE

/-- The relation before an action may be strengthened. -/
theorem before (hx : Coupled R x y Q E) (hR : ∀ h g, R' h g → R h g) : Coupled R' x y Q E :=
  fun h g r => hx (hR h g r)

/-- The relations behind an action may be weakened. -/
theorem behind (hx : Coupled R x y Q E) (hQ : ∀ a b h g, Q a b h g → Q' a b h g)
    (hE : ∀ h g, E h g → E' h g) : Coupled R x y Q' E' :=
  fun _ _ r => (hx r).mono hQ hE

theorem of_pure {a : α} {b : β} (hQ : ∀ h g, R h g → Q a b h g) :
    Coupled R (pure a) (pure b) Q E :=
  fun h g r => .value (hQ h g r)

theorem of_throw {fault : Fault} (hE : ∀ h g, R h g → E h g) :
    Coupled R (throw fault : Action α) (throw fault : Action β) Q E :=
  fun h g r => .fault (hE h g r)

theorem of_modify {f f' : Host → Host} {Q : Unit → Unit → Host → Host → Prop}
    (hQ : ∀ h g, R h g → Q () () (f h) (f' g)) : Coupled R (modify f) (modify f') Q E :=
  fun h g r => .value (hQ h g r)

theorem of_ofExcept {r : Except Fault α} {Q : α → α → Host → Host → Prop}
    (hQ : ∀ a h g, R h g → Q a a h g) (hE : ∀ h g, R h g → E h g) :
    Coupled R (ofExcept r) (ofExcept r) Q E := by
  cases r with
  | ok a => exact of_pure (hQ a)
  | error fault => exact of_throw hE

/-- What follows a value that is known. -/
theorem ok_bind {a : α} {b : β} {f : α → Action γ} {f' : β → Action δ}
    {S : γ → δ → Host → Host → Prop} (hf : Coupled R (f a) (f' b) S E) :
    Coupled R (ofExcept (.ok a) >>= f) (ofExcept (.ok b) >>= f') S E := hf

theorem bind {f : α → Action γ} {f' : β → Action δ} {S : γ → δ → Host → Host → Prop}
    (hx : Coupled R x y Q E) (hf : ∀ a b, Coupled (Q a b) (f a) (f' b) S E) :
    Coupled R (x >>= f) (y >>= f') S E := by
  intro h g r
  have ends := hx r
  rw [Host.act_bind, Host.act_bind]
  generalize h.act x = p, g.act y = q at ends ⊢
  obtain ⟨_, h'⟩ := p
  obtain ⟨_, g'⟩ := q
  cases ends with
  | value q => exact hf _ _ q
  | fault e => exact .fault e

/-- What follows an action whose outcome is looked at. -/
theorem outcome_bind {f : Except Fault α → Action γ} {f' : Except Fault β → Action δ}
    {S : γ → δ → Host → Host → Prop} (hx : Coupled R x y Q E)
    (hf : ∀ a b, Coupled (Q a b) (f (.ok a)) (f' (.ok b)) S E')
    (he : ∀ fault, Coupled E (f (.error fault)) (f' (.error fault)) S E') :
    Coupled R (outcome x >>= f) (outcome y >>= f') S E' := by
  intro h g r
  have ends := hx r
  rw [Host.act_bind, Host.act_bind, Host.act_outcome, Host.act_outcome]
  generalize h.act x = p, g.act y = q at ends ⊢
  obtain ⟨_, h'⟩ := p
  obtain ⟨_, g'⟩ := q
  cases ends with
  | value q => exact hf _ _ q
  | fault e => exact he _ e

/-- What follows an outcome that is known. -/
theorem of_ends {f : Action γ} {f' : Action δ} {S : γ → δ → Host → Host → Prop}
    {r : Except Fault α} {r' : Except Fault β}
    (hf : ∀ a b, r = .ok a → r' = .ok b → Coupled (Q a b) f f' S E')
    (he : ∀ fault, r = .error fault → r' = .error fault → Coupled E f f' S E') :
    Coupled (Ends Q E r r') f f' S E' := by
  intro h g ends
  cases ends with
  | value q => exact hf _ _ rfl rfl q
  | fault e => exact he _ rfl rfl e

/-- An action on the left that is known to come to a value. -/
theorem left_bind {y : Action δ} {f : α → Action γ} {T : α → Host → Host → Prop}
    {S : γ → δ → Host → Host → Prop}
    (hx : ∀ h g, R h g → ∃ a h', h.act x = (.ok a, h') ∧ T a h' g)
    (hf : ∀ a, Coupled (T a) (f a) y S E) : Coupled R (x >>= f) y S E := by
  intro h g r
  obtain ⟨a, h', e, ta⟩ := hx h g r
  rw [Host.act_bind_ok h e]
  exact hf a ta

/-- An action on the right that is known to come to a value. -/
theorem right_bind {x : Action γ} {f : β → Action δ} {T : β → Host → Host → Prop}
    {S : γ → δ → Host → Host → Prop}
    (hy : ∀ h g, R h g → ∃ b g', g.act y = (.ok b, g') ∧ T b h g')
    (hf : ∀ b, Coupled (T b) x (f b) S E) : Coupled R x (y >>= f) S E := by
  intro h g r
  obtain ⟨b, g', e, tb⟩ := hy h g r
  rw [Host.act_bind_ok g e]
  exact hf b tb

/-- A fact about the relation before that does not depend on the hosts. -/
theorem of_and {p : Prop} (hx : p → Coupled R x y Q E) :
    Coupled (fun h g => p ∧ R h g) x y Q E :=
  fun _ _ r => hx r.1 r.2

/-- What follows may depend on the hosts in the way in which they are found. -/
theorem get_bind {f : Host → Action γ} {f' : Host → Action δ} {S : γ → δ → Host → Host → Prop}
    (hf : ∀ h g, R h g → Coupled (fun h' g' => h' = h ∧ g' = g ∧ R h g) (f h) (f' g) S E) :
    Coupled R (get >>= f) (get >>= f') S E := by
  intro h g r
  rw [Host.act_get_bind, Host.act_get_bind]
  exact hf h g r ⟨rfl, rfl, r⟩

/-- What follows depends on the hosts, but needs of them only that they are related. -/
theorem get_bind' {f : Host → Action γ} {f' : Host → Action δ} {S : γ → δ → Host → Host → Prop}
    (hf : ∀ h g, R h g → Coupled R (f h) (f' g) S E) :
    Coupled R (get >>= f) (get >>= f') S E :=
  get_bind fun h g r => (hf h g r).before fun _ _ ⟨hh, hg, r⟩ => by rw [hh, hg]; exact r

theorem modify_bind {u u' : Host → Host} {f : Unit → Action γ} {f' : Unit → Action δ}
    {T : Host → Host → Prop} {S : γ → δ → Host → Host → Prop}
    (hu : ∀ h g, R h g → T (u h) (u' g)) (hf : Coupled T (f ()) (f' ()) S E) :
    Coupled R (modify u >>= f) (modify u' >>= f') S E :=
  bind (Q := fun _ _ => T) (of_modify hu) fun _ _ => hf

/-- Two changes of which only both together are of interest. -/
theorem modify_modify_bind {u u' v v' : Host → Host} {f : Unit → Action γ} {f' : Unit → Action δ}
    {T : Host → Host → Prop} {S : γ → δ → Host → Host → Prop}
    (hu : ∀ h g, R h g → T (v (u h)) (v' (u' g))) (hf : Coupled T (f ()) (f' ()) S E) :
    Coupled R (modify u >>= fun _ => modify v >>= f) (modify u' >>= fun _ => modify v' >>= f')
      S E :=
  fun h g r => hf (hu h g r)

/-- A loop keeps what each of its rounds keeps. -/
theorem of_forM {ι : Type} {f f' : ι → Action Unit} (l : List ι)
    (hf : ∀ i ∈ l, Coupled R (f i) (f' i) (fun _ _ => R) R) :
    Coupled R (l.forM f) (l.forM f') (fun _ _ => R) R := by
  induction l with
  | nil => exact of_pure fun _ _ r => r
  | cons i l ih =>
    show Coupled R (f i >>= fun _ => l.forM f) (f' i >>= fun _ => l.forM f') _ _
    exact bind (hf i (List.mem_cons_self ..)) fun _ _ =>
      ih fun j hj => hf j (List.mem_cons_of_mem _ hj)

end Coupled

/-! ### Rules for two actions that come to the same -/

namespace Leads

variable {x y : Action α} {R₁ R₂ : α → Host → Host → Prop}

theorem behind (hx : Leads R x y R₁ E) (hR : ∀ a h g, R₁ a h g → R₂ a h g)
    (hE : ∀ h g, E h g → E' h g) : Leads R x y R₂ E' :=
  Coupled.behind hx (fun a _ h g q => ⟨q.1, hR a h g q.2⟩) hE

theorem of_pure (a : α) (hR : ∀ h g, R h g → R₁ a h g) : Leads R (pure a) (pure a) R₁ E :=
  Coupled.of_pure fun h g r => ⟨rfl, hR h g r⟩

theorem bind {f : α → Action β} {f' : α → Action γ} {S : β → γ → Host → Host → Prop}
    (hx : Leads R x y R₁ E) (hf : ∀ a, Coupled (R₁ a) (f a) (f' a) S E) :
    Coupled R (x >>= f) (y >>= f') S E := by
  refine Coupled.bind hx fun a b => ?_
  rintro h g ⟨rfl, r⟩
  exact hf a r

theorem outcome_bind {f : Except Fault α → Action β} {f' : Except Fault α → Action γ}
    {S : β → γ → Host → Host → Prop} (hx : Leads R x y R₁ E)
    (hf : ∀ a, Coupled (R₁ a) (f (.ok a)) (f' (.ok a)) S E')
    (he : ∀ fault, Coupled E (f (.error fault)) (f' (.error fault)) S E') :
    Coupled R (outcome x >>= f) (outcome y >>= f') S E' := by
  refine Coupled.outcome_bind hx (fun a b => ?_) he
  rintro h g ⟨rfl, r⟩
  exact hf a r

end Leads

/-- A loop of rounds that are alike. -/
theorem Alike.of_forM {ι : Type} {f f' : ι → Action Unit} (l : List ι)
    (hf : ∀ i, Alike R (f i) (f' i)) : Alike R (l.forM f) (l.forM f') := by
  have rounds := Coupled.of_forM l fun i _ =>
    Coupled.behind (hf i) (fun _ _ _ _ q => q.2) fun _ _ e => e
  exact Coupled.behind rounds (fun _ _ _ _ r => ⟨rfl, r⟩) fun _ _ e => e

/-! ### Rules for an action and itself -/

namespace Steady

variable {x : Action α}

theorem of_pure (a : α) : Steady R (pure a) := Coupled.of_pure fun _ _ r => ⟨rfl, r⟩

theorem of_throw (fault : Fault) : Steady R (throw fault : Action α) :=
  Coupled.of_throw fun _ _ r => r

theorem of_modify {f : Host → Host} (hf : ∀ h g, R h g → R (f h) (f g)) : Steady R (modify f) :=
  Coupled.of_modify fun h g r => ⟨rfl, hf h g r⟩

theorem of_ofExcept (r : Except Fault α) : Steady R (ofExcept r) :=
  Coupled.of_ofExcept (fun _ _ _ r => ⟨rfl, r⟩) fun _ _ r => r

theorem bind {f : α → Action β} (hx : Steady R x) (hf : ∀ a, Steady R (f a)) :
    Steady R (x >>= f) :=
  Leads.bind hx hf

/-- A steady action before two that are coupled. -/
theorem bind_coupled {f : α → Action β} {f' : α → Action γ} {S : β → γ → Host → Host → Prop}
    (hx : Steady R x) (hE : ∀ h g, R h g → E h g) (hf : ∀ a, Coupled R (f a) (f' a) S E) :
    Coupled R (x >>= f) (x >>= f') S E :=
  Leads.bind (Leads.behind hx (fun _ _ _ r => r) hE) hf

/-- The same is found in related hosts. -/
theorem get_bind {f : Host → Action β} (hf : ∀ h g, R h g → f h = f g)
    (hs : ∀ h, Steady R (f h)) : Steady R (get >>= f) :=
  Coupled.get_bind' fun h g r => by rw [hf h g r]; exact hs g

theorem outcome_bind {f : Except Fault α → Action β} (hx : Steady R x)
    (hf : ∀ r, Steady R (f r)) : Steady R (outcome x >>= f) :=
  Leads.outcome_bind hx (fun a => hf (.ok a)) fun fault => hf (.error fault)

theorem of_ite {c : Prop} [Decidable c] {y : Action α} (hx : c → Steady R x)
    (hy : ¬c → Steady R y) : Steady R (if c then x else y) := by
  split
  next hc => exact hx hc
  next hc => exact hy hc

theorem of_mapM {ι : Type} {f : ι → Action α} (l : List ι) (hf : ∀ i, Steady R (f i)) :
    Steady R (l.mapM f) := by
  induction l with
  | nil => rw [List.mapM_nil]; exact of_pure []
  | cons i l ih =>
    rw [List.mapM_cons]
    exact (hf i).bind fun a => ih.bind fun as => of_pure (a :: as)

end Steady

namespace Smooth

variable {x : Action α}

theorem steady (hx : Smooth R x) : Steady R x :=
  Leads.behind hx (fun _ _ _ r => r) fun _ _ e => e.elim

theorem of_pure (a : α) : Smooth R (pure a) := Coupled.of_pure fun _ _ r => ⟨rfl, r⟩

theorem of_modify {f : Host → Host} (hf : ∀ h g, R h g → R (f h) (f g)) : Smooth R (modify f) :=
  Coupled.of_modify fun h g r => ⟨rfl, hf h g r⟩

theorem bind {f : α → Action β} (hx : Smooth R x) (hf : ∀ a, Smooth R (f a)) :
    Smooth R (x >>= f) :=
  Leads.bind hx hf

/-- A smooth action before a steady one. -/
theorem bind_steady {f : α → Action β} (hx : Smooth R x) (hf : ∀ a, Steady R (f a)) :
    Steady R (x >>= f) :=
  Steady.bind hx.steady hf

/-- A smooth action before two that are coupled. -/
theorem bind_coupled {f : α → Action β} {f' : α → Action γ} {S : β → γ → Host → Host → Prop}
    (hx : Smooth R x) (hf : ∀ a, Coupled R (f a) (f' a) S E) :
    Coupled R (x >>= f) (x >>= f') S E :=
  Leads.bind (Leads.behind hx (fun _ _ _ r => r) fun _ _ e => e.elim) hf

theorem get_bind {f : Host → Action β} (hf : ∀ h g, R h g → f h = f g)
    (hs : ∀ h, Smooth R (f h)) : Smooth R (get >>= f) :=
  Coupled.get_bind' fun h g r => by rw [hf h g r]; exact hs g

theorem of_ite {c : Prop} [Decidable c] {y : Action α} (hx : c → Smooth R x)
    (hy : ¬c → Smooth R y) : Smooth R (if c then x else y) := by
  split
  next hc => exact hx hc
  next hc => exact hy hc

theorem of_forM {ι : Type} {f : ι → Action Unit} (l : List ι) (hf : ∀ i, Smooth R (f i)) :
    Smooth R (l.forM f) := by
  induction l with
  | nil => exact of_pure ()
  | cons i l ih => exact bind (hf i) fun _ => ih

end Smooth

/-! ### Invariants -/

/-- What a steady action does to the relation of a host with itself. -/
theorem Steady.same {P : Host → Prop} {x : Action α} (hx : Steady (Same P) x) {h : Host}
    (hh : P h) : P (h.act x).2 := by
  have ends := hx (h := h) (g := h) ⟨rfl, hh⟩
  generalize h.act x = p at ends ⊢
  obtain ⟨_, h'⟩ := p
  cases ends with
  | value q => exact q.2.2
  | fault e => exact e.2

end Action

end LinkedTables
