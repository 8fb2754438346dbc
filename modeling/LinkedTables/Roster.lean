/-!
# Rosters and ledgers

A `Roster` numbers its members in the order in which they join; none ever leaves. A `Ledger` holds
one value for each of its keys, in the order in which the keys first came. The lemmas say what each
operation does to the members and to the values found.
-/

namespace LinkedTables

/-- Numbered members. -/
abbrev Roster (α : Type) := List α

namespace Roster

variable {α : Type}

/-- The member with a number. -/
def at? (r : Roster α) (i : Nat) : Option α := r[i]?

/-- The number of the member that joins next. -/
def next (r : Roster α) : Nat := r.length

/-- The roster with one more member. -/
def join (r : Roster α) (a : α) : Roster α := r ++ [a]

/-- The roster with the member with a number changed. -/
def revise (r : Roster α) (i : Nat) (f : α → α) : Roster α := r.modify i f

theorem at?_join_next (r : Roster α) (a : α) : (r.join a).at? r.next = some a := by
  simp [at?, join, next]

theorem at?_join_of_lt {r : Roster α} {a : α} {i : Nat} (h : i < r.next) :
    (r.join a).at? i = r.at? i := by
  simp [at?, join, next] at h ⊢
  rw [List.getElem?_append_left h]

theorem at?_revise_self (r : Roster α) (i : Nat) (f : α → α) :
    (r.revise i f).at? i = (r.at? i).map f := by
  simp [at?, revise]

theorem at?_revise_of_ne {r : Roster α} {i j : Nat} (f : α → α) (h : i ≠ j) :
    (r.revise i f).at? j = r.at? j := by
  simp [at?, revise, h]

theorem at?_next (r : Roster α) : r.at? r.next = none := List.getElem?_eq_none (Nat.le_refl _)

theorem at?_join (r : Roster α) (a : α) (i : Nat) :
    (r.join a).at? i = if i = r.next then some a else r.at? i := by
  by_cases e : i = r.next
  · rw [if_pos e, e, at?_join_next]
  · rw [if_neg e]
    by_cases h : i < r.next
    · exact at?_join_of_lt h
    · have hr : r.length ≤ i := Nat.le_of_not_lt h
      have hj : (r.join a).length ≤ i := by
        rw [join, List.length_append, List.length_singleton]
        exact Nat.lt_of_le_of_ne hr fun k => e k.symm
      rw [at?, at?, List.getElem?_eq_none hr, List.getElem?_eq_none hj]

theorem at?_revise (r : Roster α) (i j : Nat) (f : α → α) :
    (r.revise i f).at? j = if i = j then (r.at? j).map f else r.at? j := by
  by_cases h : i = j
  · subst h
    rw [if_pos rfl, at?_revise_self]
  · rw [if_neg h, at?_revise_of_ne f h]

theorem next_revise (r : Roster α) (i : Nat) (f : α → α) : (r.revise i f).next = r.next :=
  List.length_modify f r i

theorem next_join (r : Roster α) (a : α) : (r.join a).next = r.next + 1 := List.length_append

theorem mem_revise {r : Roster α} {i : Nat} {a c : α} (h : a ∈ r.revise i fun _ => c) :
    a = c ∨ a ∈ r := by
  obtain ⟨j, hj⟩ := List.mem_iff_getElem?.mp h
  have e := at?_revise r i j fun _ => c
  rw [at?, hj] at e
  split at e
  next =>
    obtain ⟨b, -, rfl⟩ := Option.map_eq_some_iff.mp e.symm
    exact .inl rfl
  next => exact .inr (List.mem_of_getElem? e.symm)

/-- How often a member occurs when one has been put in the place of another. -/
theorem count_revise [BEq α] [LawfulBEq α] {r : Roster α} {i : Nat} {a : α} (h : r.at? i = some a)
    (b c : α) : (r.revise i fun _ => c).count b + (if a == b then 1 else 0)
      = r.count b + if c == b then 1 else 0 := by
  induction r generalizing i with
  | nil => cases h
  | cons d r ih =>
    cases i with
    | zero =>
      obtain rfl : d = a := by simpa [at?] using h
      simp only [revise, List.modify_zero_cons, List.count_cons]
      omega
    | succ i =>
      have rest := ih (i := i) (by simpa [at?] using h)
      simp only [revise, List.modify_succ_cons, List.count_cons] at rest ⊢
      omega

theorem at?_join_of_some {r : Roster α} {i : Nat} {b : α} (h : r.at? i = some b) (a : α) :
    (r.join a).at? i = some b := by
  rw [at?_join_of_lt (List.getElem?_eq_some_iff.mp h).1, h]

/-- What a member is changed to depends on what it is. -/
theorem revise_of_at? {r : Roster α} {i : Nat} {a : α} (h : r.at? i = some a) (f : α → α) :
    r.revise i f = r.revise i fun _ => f a := by
  apply List.ext_getElem?
  intro j
  have hj := at?_revise r i j f
  have hj' := at?_revise r i j fun _ => f a
  simp only [at?] at hj hj' h
  rw [hj, hj']
  split
  next e => rw [← e, h]; rfl
  next => rfl

theorem revise_revise (r : Roster α) (i : Nat) (f g : α → α) :
    (r.revise i f).revise i g = r.revise i fun a => g (f a) := by
  apply List.ext_getElem?
  intro j
  have hj := at?_revise (r.revise i f) i j g
  have hj' := at?_revise r i j fun a => g (f a)
  have hf := at?_revise r i j f
  simp only [at?] at hj hj' hf
  rw [hj, hj', hf]
  split
  · rw [Option.map_map]
    rfl
  · rfl

/-! What is told of each member follows the changes of the roster. -/

variable {β : Type}

theorem at?_map (r : Roster α) (g : α → β) (i : Nat) : at? (r.map g) i = (r.at? i).map g := by
  simp [at?]

theorem map_join (r : Roster α) (g : α → β) (a : α) : (r.join a).map g = join (r.map g) (g a) :=
  List.map_append

theorem map_revise {g : α → β} {f : α → α} {k : β → β} (h : ∀ a, g (f a) = k (g a))
    (r : Roster α) (i : Nat) : (r.revise i f).map g = revise (r.map g) i k := by
  apply List.ext_getElem?
  intro j
  have hj := at?_revise r i j f
  have hj' := at?_revise (r.map g) i j k
  simp only [at?, List.getElem?_map] at hj hj' ⊢
  rw [hj, hj']
  split <;> simp [Function.comp_def, h]

/-- A change that cannot be told leaves what is told of the members. -/
theorem map_revise_at {g : α → β} {f : α → α} (r : Roster α) (i : Nat)
    (h : ∀ a, r.at? i = some a → g (f a) = g a) : (r.revise i f).map g = r.map g := by
  apply List.ext_getElem?
  intro j
  have hj := at?_revise r i j f
  simp only [at?, List.getElem?_map] at hj h ⊢
  rw [hj]
  split
  next hij =>
    subst hij
    cases ha : r[i]? with
    | none => rfl
    | some a => simp [h a ha]
  next => rfl

theorem map_revise_same {g : α → β} {f : α → α} (h : ∀ a, g (f a) = g a)
    (r : Roster α) (i : Nat) : (r.revise i f).map g = r.map g :=
  map_revise_at r i fun a _ => h a

end Roster

/-- Values by key. -/
abbrev Ledger (κ α : Type) := List (κ × α)

namespace Ledger

variable {κ α : Type} [DecidableEq κ]

/-- The value of a key. -/
def value? (l : Ledger κ α) (k : κ) : Option α :=
  match l with
  | [] => none
  | (k', a) :: rest => if k' = k then some a else value? rest k

/-- The ledger with a value for a key; a key that is there keeps its place. -/
def put (l : Ledger κ α) (k : κ) (a : α) : Ledger κ α :=
  match l with
  | [] => [(k, a)]
  | (k', b) :: rest => if k' = k then (k, a) :: rest else (k', b) :: put rest k a

/-- The ledger without a key. -/
def drop (l : Ledger κ α) (k : κ) : Ledger κ α := l.filter fun e => e.1 ≠ k

theorem value?_put_self (l : Ledger κ α) (k : κ) (a : α) : value? (put l k a) k = some a := by
  induction l with
  | nil => simp [put, value?]
  | cons e rest ih =>
    obtain ⟨k', b⟩ := e
    by_cases h : k' = k <;> simp [put, value?, h, ih]

theorem value?_put_of_ne {k k' : κ} (l : Ledger κ α) (a : α) (h : k ≠ k') :
    value? (put l k a) k' = value? l k' := by
  induction l with
  | nil => simp [put, value?, h]
  | cons e rest ih =>
    obtain ⟨k'', b⟩ := e
    by_cases hk : k'' = k
    · subst hk; simp [put, value?, h]
    · by_cases hk' : k'' = k'
      · subst hk'; simp [put, value?, hk]
      · simp [put, value?, hk, hk', ih]

theorem value?_drop_self (l : Ledger κ α) (k : κ) : value? (drop l k) k = none := by
  induction l with
  | nil => rfl
  | cons e rest ih =>
    obtain ⟨k', b⟩ := e
    by_cases h : k' = k
    · simpa [drop, h] using ih
    · simpa [drop, value?, h] using ih

theorem value?_drop_of_ne {k k' : κ} (l : Ledger κ α) (h : k ≠ k') :
    value? (drop l k) k' = value? l k' := by
  induction l with
  | nil => rfl
  | cons e rest ih =>
    obtain ⟨k'', b⟩ := e
    by_cases hk : k'' = k
    · subst hk; simpa [drop, value?, h] using ih
    · by_cases hk' : k'' = k'
      · subst hk'; simp [drop, value?, hk]
      · simpa [drop, value?, hk, hk'] using ih

/-! A ledger that holds one entry for each key is known by its entries. -/

theorem mem_of_value? {l : Ledger κ α} {k : κ} {a : α} (h : l.value? k = some a) :
    (k, a) ∈ l := by
  induction l with
  | nil => cases h
  | cons e rest ih =>
    obtain ⟨k', b⟩ := e
    by_cases hk : k' = k
    · subst hk
      simp only [value?, if_true, Option.some.injEq] at h
      exact h ▸ List.mem_cons_self ..
    · simp only [value?, hk, if_false] at h
      exact List.mem_cons_of_mem _ (ih h)

theorem value?_of_mem {l : Ledger κ α} (unique : (l.map (·.1)).Nodup) {k : κ} {a : α}
    (h : (k, a) ∈ l) : l.value? k = some a := by
  induction l with
  | nil => cases h
  | cons e rest ih =>
    obtain ⟨k', b⟩ := e
    simp only [List.map_cons, List.nodup_cons] at unique
    obtain ⟨rfl, rfl⟩ | h := List.mem_cons.mp h |>.imp_left Prod.mk.inj
    · simp [value?]
    · have hk : k' ≠ k := by
        rintro rfl
        exact unique.1 (List.mem_map_of_mem (f := Prod.fst) h)
      simp only [value?, hk, if_false]
      exact ih unique.2 h

theorem mem_put {l : Ledger κ α} {k : κ} {a : α} {e : κ × α} (h : e ∈ l.put k a) :
    e = (k, a) ∨ e ∈ l := by
  induction l with
  | nil => exact .inl (List.mem_singleton.mp h)
  | cons e' rest ih =>
    obtain ⟨k', b⟩ := e'
    by_cases hk : k' = k
    · simp only [put, hk, if_true, List.mem_cons] at h ⊢
      exact h.imp_right .inr
    · simp only [put, hk, if_false, List.mem_cons] at h ⊢
      rcases h with h | h
      · exact .inr (.inl h)
      · exact (ih h).imp_right .inr

theorem unique_put {l : Ledger κ α} (unique : (l.map (·.1)).Nodup) (k : κ) (a : α) :
    ((l.put k a).map (·.1)).Nodup := by
  induction l with
  | nil => simp [put]
  | cons e rest ih =>
    obtain ⟨k', b⟩ := e
    simp only [List.map_cons, List.nodup_cons] at unique
    by_cases hk : k' = k
    · subst hk
      simpa [put] using unique
    · simp only [put, hk, if_false, List.map_cons, List.nodup_cons]
      refine ⟨fun h => ?_, ih unique.2⟩
      obtain ⟨e, he, rfl⟩ := List.mem_map.mp h
      obtain rfl | he := mem_put he
      · exact hk rfl
      · exact unique.1 (List.mem_map_of_mem he)

/-- A key that has been put has no other value. -/
theorem mem_put_of_unique {l : Ledger κ α} (unique : (l.map (·.1)).Nodup) {k : κ} {a : α}
    {e : κ × α} (h : e ∈ l.put k a) : e = (k, a) ∨ e ∈ l ∧ e.1 ≠ k := by
  by_cases hk : e.1 = k
  · have value := value?_of_mem (unique_put unique k a) h
    rw [hk, value?_put_self] at value
    exact .inl (Prod.ext hk (Option.some.inj value).symm)
  · obtain rfl | h := mem_put h
    · exact absurd rfl hk
    · exact .inr ⟨h, hk⟩

theorem mem_drop {l : Ledger κ α} {k : κ} {e : κ × α} (h : e ∈ l.drop k) : e ∈ l ∧ e.1 ≠ k := by
  simpa [drop] using h

theorem unique_drop {l : Ledger κ α} (unique : (l.map (·.1)).Nodup) (k : κ) :
    ((l.drop k).map (·.1)).Nodup :=
  (List.filter_sublist.map _).nodup unique

end Ledger

end LinkedTables
