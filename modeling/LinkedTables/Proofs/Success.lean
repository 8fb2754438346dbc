import LinkedTables.Fault
import Mathlib.Data.List.Forall2

/-!
# Computations that succeed

What is known of the parts of a computation that has given a value, and of one whose parts have; a
list through which nobody comes has a member to blame.
-/

namespace LinkedTables.Success

variable {α β : Type}

/-- A computation in two steps gives a value only if both do. -/
theorem exists_of_bind {x : Except Fault α} {f : α → Except Fault β} {b : β}
    (ok : x >>= f = .ok b) : ∃ a, x = .ok a ∧ f a = .ok b := by
  cases x with
  | error fault => cases ok
  | ok a => exact ⟨a, rfl, ok⟩

/-- A computation in two steps ends in the fault of the first or of the second. -/
theorem exists_of_bind_error {x : Except Fault α} {f : α → Except Fault β} {fault : Fault}
    (failed : x >>= f = .error fault) : x = .error fault ∨ ∃ a, x = .ok a ∧ f a = .error fault := by
  cases x with
  | error fault' => exact .inl (by cases failed; rfl)
  | ok a => exact .inr ⟨a, rfl, failed⟩

/-- A list whose members all succeed does so as a whole. -/
theorem exists_mapM_of_ok {f : α → Except Fault β} {xs : List α}
    (ok : ∀ x ∈ xs, ∃ y, f x = .ok y) : ∃ ys, xs.mapM f = .ok ys := by
  induction xs with
  | nil => exact ⟨[], rfl⟩
  | cons x xs ih =>
    obtain ⟨⟨y, here⟩, ok⟩ := List.forall_mem_cons.mp ok
    obtain ⟨ys, later⟩ := ih ok
    exact ⟨y :: ys, by rw [List.mapM_cons, here, later]; rfl⟩

/-- Where what comes of each member is known, so is what comes of the list. -/
theorem mapM_of_ok {f : α → Except Fault β} {g : α → β} {xs : List α}
    (ok : ∀ x ∈ xs, f x = .ok (g x)) : xs.mapM f = .ok (xs.map g) := by
  induction xs with
  | nil => rfl
  | cons x xs ih =>
    obtain ⟨here, ok⟩ := List.forall_mem_cons.mp ok
    rw [List.mapM_cons, here, ih ok]
    rfl

/-- A list succeeds only if the first member and the others do. -/
theorem exists_of_mapM_cons {f : α → Except Fault β} {x : α} {xs : List α} {ys : List β}
    (ok : (x :: xs).mapM f = .ok ys) :
    ∃ y rest, f x = .ok y ∧ xs.mapM f = .ok rest ∧ ys = y :: rest := by
  rw [List.mapM_cons] at ok
  obtain ⟨y, here, ok⟩ := exists_of_bind ok
  obtain ⟨rest, later, ok⟩ := exists_of_bind ok
  cases ok
  exact ⟨y, rest, here, later, rfl⟩

/-- What comes of going through a list comes of one of its members. -/
theorem exists_of_mapM {f : α → Except Fault β} {xs : List α} {ys : List β}
    (ok : xs.mapM f = .ok ys) : ∀ y ∈ ys, ∃ x ∈ xs, f x = .ok y := by
  induction xs generalizing ys with
  | nil =>
    cases ok
    simp
  | cons x xs ih =>
    obtain ⟨first, others, here, later, rfl⟩ := exists_of_mapM_cons ok
    intro y hy
    rcases List.mem_cons.mp hy with rfl | hy
    · exact ⟨x, List.mem_cons_self .., here⟩
    · obtain ⟨x', hx', from_x'⟩ := ih later y hy
      exact ⟨x', List.mem_cons_of_mem _ hx', from_x'⟩

/-- Each member of a list has its part in what comes of going through it. -/
theorem exists_mem_of_mapM {f : α → Except Fault β} {xs : List α} {ys : List β}
    (ok : xs.mapM f = .ok ys) : ∀ x ∈ xs, ∃ y ∈ ys, f x = .ok y := by
  induction xs generalizing ys with
  | nil => exact nofun
  | cons x xs ih =>
    obtain ⟨y, rest, here, later, rfl⟩ := exists_of_mapM_cons ok
    refine List.forall_mem_cons.mpr ⟨⟨y, List.mem_cons_self, here⟩, fun x' hx' => ?_⟩
    obtain ⟨y', hy', of_x'⟩ := ih later x' hx'
    exact ⟨y', List.mem_cons_of_mem y hy', of_x'⟩

/-- Where going through a list ends in a fault, it is that of one of its members. -/
theorem exists_of_mapM_error {f : α → Except Fault β} {xs : List α} {fault : Fault}
    (failed : xs.mapM f = .error fault) : ∃ x ∈ xs, f x = .error fault := by
  induction xs with
  | nil => cases failed
  | cons x xs ih =>
    rw [List.mapM_cons] at failed
    cases here : f x with
    | error fault' =>
      rw [here] at failed
      cases failed
      exact ⟨x, List.mem_cons_self .., here⟩
    | ok y =>
      rw [here] at failed
      cases later : xs.mapM f with
      | error fault' =>
        rw [later] at failed
        cases failed
        obtain ⟨x', among, here⟩ := ih later
        exact ⟨x', List.mem_cons_of_mem x among, here⟩
      | ok ys =>
        rw [later] at failed
        cases failed

/-- A list succeeds with what its members give, one for one. -/
theorem mapM_eq_ok_iff {f : α → Except Fault β} {xs : List α} {ys : List β} :
    xs.mapM f = .ok ys ↔ List.Forall₂ (fun x y => f x = .ok y) xs ys := by
  induction xs generalizing ys with
  | nil =>
    rw [List.forall₂_nil_left_iff]
    exact ⟨fun ok => by cases ok; rfl, by rintro rfl; rfl⟩
  | cons x xs ih =>
    rw [List.forall₂_cons_left_iff]
    constructor
    · intro ok
      obtain ⟨y, rest, here, later, rfl⟩ := exists_of_mapM_cons ok
      exact ⟨y, rest, here, ih.mp later, rfl⟩
    · rintro ⟨y, rest, here, later, rfl⟩
      rw [List.mapM_cons, here, ih.mpr later]
      rfl

/-- A list ends in the fault of the first member that has one. -/
theorem mapM_eq_error_iff {f : α → Except Fault β} {xs : List α} {fault : Fault} :
    xs.mapM f = .error fault ↔ ∃ before x after, xs = before ++ x :: after
      ∧ (∀ b ∈ before, ∃ y, f b = .ok y) ∧ f x = .error fault := by
  induction xs with
  | nil =>
    refine ⟨nofun, ?_⟩
    rintro ⟨before, x, after, split, -⟩
    exact absurd split (by simp)
  | cons x xs ih =>
    constructor
    · intro failed
      rw [List.mapM_cons] at failed
      obtain here | ⟨y, here, failed⟩ := exists_of_bind_error failed
      · exact ⟨[], x, xs, rfl, nofun, here⟩
      · obtain later | ⟨ys, -, failed⟩ := exists_of_bind_error failed
        · obtain ⟨before, x', after, rfl, fine, broken⟩ := ih.mp later
          exact ⟨x :: before, x', after, rfl, List.forall_mem_cons.mpr ⟨⟨y, here⟩, fine⟩, broken⟩
        · cases failed
    · rintro ⟨before, x', after, split, fine, broken⟩
      rw [List.mapM_cons]
      cases before with
      | nil =>
        obtain ⟨rfl, rfl⟩ := List.cons.inj split
        rw [broken]
        rfl
      | cons b before =>
        obtain ⟨rfl, rfl⟩ := List.cons.inj split
        obtain ⟨⟨y, here⟩, fine⟩ := List.forall_mem_cons.mp fine
        rw [here, ih.mpr ⟨before, x', after, rfl, fine, broken⟩]
        rfl

end LinkedTables.Success
