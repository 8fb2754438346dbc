import LinkedTables.Column.Sequence

/-!
# What a sequence has passed

A sequence moves in one direction, and what it hands out lies ahead of all that it has passed. A
value is passed when it is handed out and when it is seen, and it stays so (`Passed.draw`,
`Passed.observe`); to see a value that has been passed changes nothing (`observe_of_passed`). Over a
whole run (`beyond_of_run`), what is handed out lies beyond all that was handed out or seen before.
-/

namespace LinkedTables.Sequence

variable {s : Sequence} {n m : Int}

/-- The sequence lies beyond a value: the next value is further in its direction. -/
def Passed (s : Sequence) (n : Int) : Prop :=
  (0 < s.increment → n < s.next) ∧ (s.increment < 0 → s.next < n)

theorem reaches_iff : s.reaches n = true ↔ ¬ s.Passed n := by
  simp only [reaches, Passed, Bool.or_eq_true, Bool.and_eq_true, decide_eq_true_eq]
  omega

/-- A value that has been passed is seen without any change. -/
theorem observe_of_passed (passed : s.Passed n) : s.observe n = s :=
  if_neg fun reached => reaches_iff.mp reached passed

theorem passed_observe (s : Sequence) (n : Int) : (s.observe n).Passed n := by
  by_cases passed : s.Passed n
  · rwa [observe_of_passed passed]
  · rw [observe, if_pos (reaches_iff.mpr passed)]
    constructor <;> intro direction <;> dsimp only at direction ⊢ <;> omega

/-- A value that has been passed stays so when others are seen. -/
theorem Passed.observe (passed : s.Passed n) (m : Int) : (s.observe m).Passed n := by
  by_cases old : s.Passed m
  · rwa [observe_of_passed old]
  · rw [Sequence.observe, if_pos (reaches_iff.mpr old)]
    simp only [Passed] at passed old ⊢
    omega

/-- A value that has been passed stays so when the next one is handed out. -/
theorem Passed.draw (passed : s.Passed n) : s.draw.2.Passed n := by
  simp only [Passed, Sequence.draw] at passed ⊢
  omega

/-- What is handed out differs from all that has been passed, unless the sequence stands still. -/
theorem Passed.ne_draw (passed : s.Passed n) (moves : s.increment ≠ 0) : s.draw.1 ≠ n := by
  simp only [Passed, Sequence.draw] at passed ⊢
  omega

theorem increment_observe (s : Sequence) (n : Int) : (s.observe n).increment = s.increment := by
  rw [observe]
  split <;> rfl

/-- To see a value again changes nothing. -/
theorem observe_observe (s : Sequence) (n : Int) : (s.observe n).observe n = s.observe n :=
  observe_of_passed (passed_observe s n)

/-- What is handed out has been passed from then on. -/
theorem passed_draw (s : Sequence) : s.draw.2.Passed s.draw.1 := by
  simp only [Passed, Sequence.draw]
  omega

/-- Just the values that have been passed are seen without any change. -/
theorem observe_eq_self_iff : s.observe n = s ↔ s.Passed n :=
  ⟨fun same => same ▸ s.passed_observe n, observe_of_passed⟩

/-! ### Runs -/

/-- One number lies beyond another in the direction of the sequence. -/
def Beyond (s : Sequence) (n m : Int) : Prop :=
  (0 < s.increment ∧ m < n) ∨ (s.increment < 0 ∧ n < m)

/-- What has been passed is what the next number lies beyond. -/
theorem passed_iff_beyond (moves : s.increment ≠ 0) : s.Passed n ↔ s.Beyond s.draw.1 n := by
  simp only [Passed, Beyond, draw]
  omega

/-- A use of a sequence: a number is asked for, or one is shown to it. -/
inductive Use where
  | draw
  | observe (n : Int)
deriving DecidableEq, Repr

/-- The number of a use, handed out or shown, and the sequence after it. -/
def use (s : Sequence) : Use → Int × Sequence
  | .draw => s.draw
  | .observe n => (n, s.observe n)

/-- The sequence after a run. -/
def after (s : Sequence) : List Use → Sequence
  | [] => s
  | u :: us => (s.use u).2.after us

/-- The uses of a run, each with its number. -/
def trace (s : Sequence) : List Use → List (Use × Int)
  | [] => []
  | u :: us => (u, (s.use u).1) :: (s.use u).2.trace us

theorem increment_use (s : Sequence) (u : Use) : (s.use u).2.increment = s.increment := by
  cases u with
  | draw => rfl
  | observe n => exact s.increment_observe n

theorem Passed.use (passed : s.Passed n) (u : Use) : (s.use u).2.Passed n := by
  cases u with
  | draw => exact passed.draw
  | observe m => exact passed.observe m

/-- The number of a use has been passed after it. -/
theorem passed_use (s : Sequence) (u : Use) : (s.use u).2.Passed (s.use u).1 := by
  cases u with
  | draw => exact s.passed_draw
  | observe n => exact s.passed_observe n

theorem beyond_use (s : Sequence) (u : Use) : (s.use u).2.Beyond = s.Beyond := by
  funext n m
  rw [Beyond, Beyond, increment_use]

theorem increment_after (s : Sequence) (us : List Use) :
    (s.after us).increment = s.increment := by
  induction us generalizing s with
  | nil => rfl
  | cons u us ih => exact (ih _).trans (s.increment_use u)

theorem Passed.after (passed : s.Passed n) (us : List Use) : (s.after us).Passed n := by
  induction us generalizing s with
  | nil => exact passed
  | cons u us ih => exact ih (passed.use u)

/-- All numbers of a run have been passed after it. -/
theorem passed_after {us : List Use} {e : Use × Int} (among : e ∈ s.trace us) :
    (s.after us).Passed e.2 := by
  induction us generalizing s with
  | nil => cases among
  | cons u us ih =>
    obtain rfl | later := List.mem_cons.mp among
    · exact (s.passed_use u).after us
    · exact ih later

/-- What is handed out in a run lies beyond all that was passed before it. -/
theorem Passed.beyond (moves : s.increment ≠ 0) (passed : s.Passed m) {us : List Use}
    {e : Use × Int} (among : e ∈ s.trace us) (drawn : e.1 = .draw) : s.Beyond e.2 m := by
  induction us generalizing s with
  | nil => cases among
  | cons u us ih =>
    obtain rfl | later := List.mem_cons.mp among
    · obtain rfl : u = .draw := drawn
      exact (passed_iff_beyond moves).mp passed
    · rw [← beyond_use s u]
      exact ih (increment_use s u ▸ moves) (passed.use u) later

/-- What a run hands out lies beyond all that it handed out or was shown before, the next number
lies beyond all of them, and just the numbers that it lies beyond are seen without any change. -/
theorem beyond_of_run (moves : s.increment ≠ 0) (us : List Use) :
    ((s.trace us).Pairwise fun earlier later =>
      later.1 = .draw → s.Beyond later.2 earlier.2)
    ∧ (∀ e ∈ s.trace us, s.Beyond (s.after us).draw.1 e.2)
    ∧ ∀ n, (s.after us).observe n = s.after us ↔ s.Beyond (s.after us).draw.1 n := by
  have same : (s.after us).Beyond = s.Beyond := by
    funext n m
    rw [Beyond, Beyond, increment_after]
  have moved : (s.after us).increment ≠ 0 := increment_after s us ▸ moves
  refine ⟨?_, fun e among => ?_, fun n => ?_⟩
  · clear same moved
    induction us generalizing s with
    | nil => exact .nil
    | cons u us ih =>
      have moves' : (s.use u).2.increment ≠ 0 := increment_use s u ▸ moves
      rw [← beyond_use s u]
      exact .cons (fun e among drawn => (s.passed_use u).beyond moves' among drawn) (ih moves')
  · rw [← same]
    exact (passed_iff_beyond moved).mp (passed_after among)
  · rw [← same, ← passed_iff_beyond moved]
    exact observe_eq_self_iff

/-- A sequence that goes down: the number shown to it is just the next one, then one that it has
passed. -/
theorem beyond_of_run_down :
    let s : Sequence := ⟨10, -3⟩
    let us : List Use := [.draw, .observe 7, .draw, .observe 20, .draw]
    s.increment ≠ 0
    ∧ s.trace us = [(.draw, 10), (.observe 7, 7), (.draw, 4), (.observe 20, 20), (.draw, 1)]
    ∧ ((s.trace us).Pairwise fun earlier later =>
        later.1 = .draw → s.Beyond later.2 earlier.2)
    ∧ (∀ e ∈ s.trace us, s.Beyond (s.after us).draw.1 e.2)
    ∧ ∀ n, (s.after us).observe n = s.after us ↔ s.Beyond (s.after us).draw.1 n :=
  ⟨by decide, by decide, beyond_of_run (by decide) _⟩

end LinkedTables.Sequence
