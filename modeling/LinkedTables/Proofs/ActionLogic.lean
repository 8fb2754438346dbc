import LinkedTables.Proofs.Coupling

/-!
# What an action leaves behind

`Keeps ρ x` says that each host is related by `ρ` to the one behind the action `x`, whether it comes
to a value or to a fault, and `Yields x P` that the values it comes to have the property `P`. For a
relation that is a `Frame`, both are found by going through an action step by step. `Succeeds x`
says that it comes to a value on every host. Where an outcome and the host behind it have to be told
together, `Reaches x h Q` says that from the host `h` they are as `Q` says.
-/

namespace LinkedTables

/-! ### Parts of a run -/

namespace Host

variable {α β : Type} {h h' : Host}

/-- An action in two steps comes to a value only if both do. -/
theorem exists_of_act_bind {x : Action α} {f : α → Action β} {b : β}
    (ok : h.act (x >>= f) = (.ok b, h')) :
    ∃ a h₁, h.act x = (.ok a, h₁) ∧ h₁.act (f a) = (.ok b, h') := by
  rw [act_bind] at ok
  generalize h.act x = p at ok ⊢
  obtain ⟨fault | a, h₁⟩ := p
  · cases ok
  · exact ⟨a, h₁, rfl, ok⟩

theorem act_ofExcept (h : Host) (r : Except Fault α) : h.act (Action.ofExcept r) = (r, h) := by
  cases r <;> rfl

theorem act_outcome_bind (h : Host) (x : Action α) (f : Except Fault α → Action β) :
    h.act (Action.outcome x >>= f) = (h.act x).2.act (f (h.act x).1) := by
  rw [act_bind, act_outcome]

/-- What comes back is made of a value, which does nothing to the host. -/
theorem act_map (h : Host) (x : Action α) (f : α → β) :
    h.act (do return f (← x)) = ((h.act x).1.map f, (h.act x).2) := by
  rw [act_bind]
  generalize h.act x = p
  obtain ⟨_ | _, h'⟩ := p <;> rfl

theorem snd_act_map (h : Host) (x : Action α) (f : α → β) :
    (h.act (do return f (← x))).2 = (h.act x).2 := by rw [act_map]

/-- An action whose result does not matter is done if it comes to no fault. -/
theorem act_silently (h : Host) (x : Action Unit) :
    h.act (Action.silently x) = ((h.act x).1.map fun _ => .done, (h.act x).2) :=
  act_map h x fun _ => Reply.done

/-- What is worked in the name of a link comes to what it comes to under its own name. -/
theorem act_inLink (h : Host) (name : String) (x : Action α) :
    h.act (Action.inLink name x)
      = ((({ h with link := some name } : Host).act x).1,
          { (({ h with link := some name } : Host).act x).2 with link := h.link }) := by
  show ({ h with link := some name } : Host).act (Action.outcome x >>= fun r => do
    modify fun h' => { h' with link := h.link }
    Action.ofExcept r) = _
  rw [act_bind, act_outcome]
  generalize ({ h with link := some name } : Host).act x = p
  obtain ⟨r, h₁⟩ := p
  cases r <;> rfl

theorem exists_of_act_inLink {name : String} {x : Action α} {r : Except Fault α}
    (e : h.act (Action.inLink name x) = (r, h')) :
    ∃ h₁, ({ h with link := some name } : Host).act x = (r, h₁)
      ∧ h' = { h₁ with link := h.link } := by
  rw [act_inLink] at e
  cases e
  exact ⟨_, rfl, rfl⟩

end Host

/-- A relation between a host and a later one. -/
structure Frame (ρ : Host → Host → Prop) : Prop where
  refl : ∀ h, ρ h h
  trans : ∀ {h h' h''}, ρ h h' → ρ h' h'' → ρ h h''

namespace Action

variable {α β : Type}

/-- The host behind an action is a later one. -/
def Keeps (ρ : Host → Host → Prop) (x : Action α) : Prop := ∀ h, ρ h (h.act x).2

/-- The values of an action have a property. -/
def Yields (x : Action α) (P : α → Prop) : Prop := ∀ (h : Host) (a : α), (h.act x).1 = .ok a → P a

/-! ### Values -/

namespace Yields

variable {x : Action α} {P : α → Prop} {Q : β → Prop}

theorem of_pure {a : α} (ha : P a) : Yields (pure a) P := by
  intro h b e
  cases e
  exact ha

theorem of_throw (fault : Fault) : Yields (throw fault : Action α) P := by
  intro h b e
  cases e

theorem of_ofExcept {r : Except Fault α} (hr : ∀ a, r = .ok a → P a) : Yields (ofExcept r) P := by
  cases r with
  | ok a => exact of_pure (hr a rfl)
  | error fault => exact of_throw fault

theorem bind {f : α → Action β} (hx : Yields x P) (hf : ∀ a, P a → Yields (f a) Q) :
    Yields (x >>= f) Q := by
  intro h b e
  have value := hx h
  rw [Host.act_bind] at e
  generalize h.act x = p at e value
  obtain ⟨a | a, h'⟩ := p
  · cases e
  · exact hf a (value a rfl) h' b e

/-- What comes before matters no more than by its value. -/
theorem behind {f : α → Action β} (hf : ∀ a, Yields (f a) Q) : Yields (x >>= f) Q :=
  bind (P := fun _ => True) (fun _ _ _ => trivial) fun a _ => hf a

theorem of_ite {c : Prop} [Decidable c] {y : Action α} (hx : c → Yields x P)
    (hy : ¬c → Yields y P) : Yields (if c then x else y) P := by
  split
  next hc => exact hx hc
  next hc => exact hy hc

/-- Two ways to a value, after which things go on alike. -/
theorem of_either {c : Prop} [Decidable c] {y : Action α} {f : α → Action β}
    (hx : c → Yields x P) (hy : ¬c → Yields y P) (hf : ∀ a, P a → Yields (f a) Q) :
    Yields (if c then x >>= f else y >>= f) Q :=
  of_ite (fun hc => bind (hx hc) hf) fun hc => bind (hy hc) hf

end Yields

/-! ### Hosts -/

namespace Keeps

variable {ρ σ : Host → Host → Prop} {x : Action α}

theorem mono (hx : Keeps ρ x) (hρ : ∀ h h', ρ h h' → σ h h') : Keeps σ x := fun h => hρ _ _ (hx h)

theorem of_act {h h' : Host} {r : Except Fault α} (e : h.act x = (r, h')) (hx : Keeps ρ x) :
    ρ h h' := by
  have kept := hx h
  rw [e] at kept
  exact kept

theorem of_modify {f : Host → Host} (hf : ∀ h, ρ h (f h)) : Keeps ρ (modify f) := hf

theorem of_outcome (hx : Keeps ρ x) : Keeps ρ (outcome x) := hx

/-- What follows may depend on the host that is found. -/
theorem get_bind_at {f : Host → Action α} (hf : ∀ h, ρ h (h.act (f h)).2) :
    Keeps ρ (get >>= f) := hf

theorem get_bind {f : Host → Action α} (hf : ∀ h, Keeps ρ (f h)) : Keeps ρ (get >>= f) :=
  get_bind_at fun h => hf h h

variable (F : Frame ρ)
include F

theorem of_pure (a : α) : Keeps ρ (pure a) := fun h => F.refl h

theorem of_throw (fault : Fault) : Keeps ρ (throw fault : Action α) := fun h => F.refl h

theorem of_ofExcept (r : Except Fault α) : Keeps ρ (ofExcept r) := by
  cases r with
  | ok a => exact of_pure F a
  | error fault => exact of_throw F fault

theorem bind_of {P : α → Prop} {f : α → Action β} (hx : Keeps ρ x) (value : Yields x P)
    (hf : ∀ a, P a → Keeps ρ (f a)) : Keeps ρ (x >>= f) := by
  intro h
  have first := hx h
  have value := value h
  rw [Host.act_bind]
  generalize h.act x = p at first value ⊢
  obtain ⟨fault | a, h'⟩ := p
  · exact first
  · exact F.trans first (hf a (value a rfl) h')

theorem bind {f : α → Action β} (hx : Keeps ρ x) (hf : ∀ a, Keeps ρ (f a)) :
    Keeps ρ (x >>= f) :=
  bind_of F (P := fun _ => True) hx (fun _ _ _ => trivial) fun a _ => hf a

theorem outcome_bind {f : Except Fault α → Action β} (hx : Keeps ρ x)
    (hf : ∀ r, Keeps ρ (f r)) : Keeps ρ (outcome x >>= f) :=
  bind F (of_outcome hx) hf

omit F in
theorem of_ite {c : Prop} [Decidable c] {y : Action α} (hx : Keeps ρ x) (hy : Keeps ρ y) :
    Keeps ρ (if c then x else y) := by
  split
  · exact hx
  · exact hy

/-- Two ways to a value, after which things go on alike. -/
theorem of_either {c : Prop} [Decidable c] {y : Action α} {f : α → Action β} (hx : Keeps ρ x)
    (hy : Keeps ρ y) (hf : ∀ a, Keeps ρ (f a)) : Keeps ρ (if c then x >>= f else y >>= f) :=
  of_ite (bind F hx hf) (bind F hy hf)

theorem of_forM {ι : Type} {f : ι → Action Unit} (l : List ι) (hf : ∀ i, Keeps ρ (f i)) :
    Keeps ρ (l.forM f) := by
  induction l with
  | nil => exact of_pure F ()
  | cons i l ih => exact bind F (hf i) fun _ => ih

theorem of_mapM {ι : Type} {f : ι → Action α} (l : List ι) (hf : ∀ i, Keeps ρ (f i)) :
    Keeps ρ (l.mapM f) := by
  induction l with
  | nil => rw [List.mapM_nil]; exact of_pure F []
  | cons i l ih =>
    rw [List.mapM_cons]
    exact bind F (hf i) fun a => bind F ih fun as => of_pure F (a :: as)

/-- Taking the next outcome of a remote call changes the script only. -/
theorem of_fromScript (script : ∀ h script, ρ h { h with script })
    (call : Remote.Script → α × Remote.Script) : Keeps ρ (fromScript call) := by
  refine get_bind fun h => ?_
  obtain ⟨a, left⟩ := call h.script
  exact bind F (of_modify fun h' => script h' left) fun _ => of_pure F a

/-- Working in the name of a link changes that name only. -/
theorem of_inLink (link : ∀ h link, ρ h { h with link }) (name : String) (hx : Keeps ρ x) :
    Keeps ρ (inLink name x) := by
  refine get_bind fun h => bind F (of_modify fun h' => link h' _) fun _ => ?_
  refine outcome_bind F hx fun r => bind F (of_modify fun h' => link h' _) fun _ => ?_
  exact of_ofExcept F r

/-- Logging changes the log only. -/
theorem of_report (log : ∀ h log, ρ h { h with log }) (notice : Notice) :
    Keeps ρ (report notice) := by
  refine of_modify fun h => ?_
  split
  · exact log h _
  · exact F.refl h

end Keeps

/-! ### Work that cannot fail -/

/-- The action comes to a value on every host. -/
def Succeeds (x : Action α) : Prop := ∀ h : Host, ∃ a, (h.act x).1 = .ok a

namespace Succeeds

theorem of_pure (a : α) : Succeeds (pure a) := fun _ => ⟨a, rfl⟩

theorem of_modify (f : Host → Host) : Succeeds (modify f : Action Unit) := fun _ => ⟨(), rfl⟩

theorem get_bind {f : Host → Action α} (hf : ∀ h, Succeeds (f h)) : Succeeds (get >>= f) :=
  fun h => hf h h

theorem bind {x : Action α} {f : α → Action β} (hx : Succeeds x) (hf : ∀ a, Succeeds (f a)) :
    Succeeds (x >>= f) := by
  intro h
  obtain ⟨a, e⟩ := hx h
  rw [Host.act_bind]
  generalize h.act x = p at e
  obtain ⟨r, h'⟩ := p
  cases e
  exact hf a h'

theorem of_ite {c : Prop} [Decidable c] {x y : Action α} (hx : Succeeds x) (hy : Succeeds y) :
    Succeeds (if c then x else y) := by
  split
  · exact hx
  · exact hy

theorem of_forM {ι : Type} {f : ι → Action Unit} (l : List ι) (hf : ∀ i, Succeeds (f i)) :
    Succeeds (l.forM f) := by
  induction l with
  | nil => exact of_pure ()
  | cons i l ih => exact bind (hf i) fun _ => ih

end Succeeds

/-! ### Outcomes -/

/-- From a host, the outcome of an action and the host behind it are as `Q` says. -/
def Reaches (x : Action α) (h : Host) (Q : Except Fault α → Host → Prop) : Prop :=
  Q (h.act x).1 (h.act x).2

namespace Reaches

variable {ρ : Host → Host → Prop} {x : Action α} {h : Host} {Q : Except Fault β → Host → Prop}

theorem mono {P Q : Except Fault α → Host → Prop} (hx : Reaches x h P)
    (weaker : ∀ r h', P r h' → Q r h') : Reaches x h Q :=
  weaker _ _ hx

/-- What is known of the host behind is known with the outcome. -/
theorem with_host {P : Except Fault α → Host → Prop} {R : Host → Prop} (hx : Reaches x h P)
    (behind : R (h.act x).2) : Reaches x h fun r h' => P r h' ∧ R h' :=
  ⟨hx, behind⟩

theorem bind {P : Except Fault α → Host → Prop} {f : α → Action β} (hx : Reaches x h P)
    (value : ∀ a h', P (.ok a) h' → Reaches (f a) h' Q)
    (fault : ∀ fault h', P (.error fault) h' → Q (.error fault) h') : Reaches (x >>= f) h Q := by
  rw [Reaches] at hx ⊢
  rw [Host.act_bind]
  generalize h.act x = p at hx ⊢
  obtain ⟨e | a, h'⟩ := p
  · exact fault e h' hx
  · exact value a h' hx

/-- What comes before is known. -/
theorem bind_of_act {f : α → Action β} {a : α} {h' : Host} (hx : h.act x = (.ok a, h'))
    (hf : Reaches (f a) h' Q) : Reaches (x >>= f) h Q := by
  rwa [Reaches, Host.act_bind_ok h hx]

theorem get_bind {f : Host → Action β} (hf : Reaches (f h) h Q) : Reaches (get >>= f) h Q := hf

theorem modify_bind {g : Host → Host} {f : Unit → Action β} (hf : Reaches (f ()) (g h) Q) :
    Reaches (modify g >>= f) h Q := hf

/-- The next outcome of a remote call is taken from the script. -/
theorem fromScript_bind {call : Remote.Script → α × Remote.Script} {f : α → Action β}
    (hf : Reaches (f (call h.script).1) { h with script := (call h.script).2 } Q) :
    Reaches (fromScript call >>= f) h Q := hf

/-- Of what comes before, only what it keeps matters. -/
theorem behind {f : α → Action β} (hx : Keeps ρ x)
    (value : ∀ a h', ρ h h' → Reaches (f a) h' Q)
    (fault : ∀ fault h', ρ h h' → Q (.error fault) h') : Reaches (x >>= f) h Q :=
  bind (P := fun _ h' => ρ h h') (hx h) value fault

/-- Of what comes before and cannot fail, only the values matter. -/
theorem bind_of_succeeds {P : α → Host → Prop} {f : α → Action β} (ok : Succeeds x)
    (hx : Reaches x h fun r h' => ∀ a, r = .ok a → P a h')
    (value : ∀ a h', P a h' → Reaches (f a) h' Q) : Reaches (x >>= f) h Q := by
  obtain ⟨a, e⟩ := ok h
  rw [Reaches, Host.act_bind]
  rw [Reaches] at hx
  generalize h.act x = p at e hx
  obtain ⟨r, h'⟩ := p
  cases e
  exact value a h' (hx a rfl)

/-- Of what comes before and cannot fail, only what it keeps matters. -/
theorem past {f : α → Action β} (ok : Succeeds x) (hx : Keeps ρ x)
    (value : ∀ a h', ρ h h' → Reaches (f a) h' Q) : Reaches (x >>= f) h Q :=
  bind_of_succeeds (P := fun _ h' => ρ h h') ok (fun _ _ => hx h) value

/-- What comes behind does nothing but go on with a value. -/
theorem bind_ofExcept {r : Except Fault α} {f : α → Action β}
    (value : ∀ a, r = .ok a → Reaches (f a) h Q)
    (fault : ∀ fault, r = .error fault → Q (.error fault) h) :
    Reaches (ofExcept r >>= f) h Q := by
  cases r with
  | ok a => exact value a rfl
  | error e => exact fault e rfl

theorem outcome_bind {P : Except Fault α → Host → Prop} {f : Except Fault α → Action β}
    (hx : Reaches x h P) (next : ∀ r h', P r h' → Reaches (f r) h' Q) :
    Reaches (outcome x >>= f) h Q := by
  rw [Reaches, Host.act_outcome_bind]
  exact next _ _ hx

theorem of_ite {c : Prop} [Decidable c] {y z : Action β} (hy : c → Reaches y h Q)
    (hz : ¬c → Reaches z h Q) : Reaches (if c then y else z) h Q := by
  split
  next hc => exact hy hc
  next hc => exact hz hc

end Reaches

end Action

end LinkedTables
