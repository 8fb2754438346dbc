import LinkedTables.Proofs.ConversionFaults
import LinkedTables.Proofs.DecimalIntegers
import LinkedTables.Proofs.Sequences

/-!
# Generated keys

A column with a sequence is given values one after the other, explicit ones and marks for the
default, for which the sequence hands out the next key. A column of whole numbers shows its sequence
every value that it accepts, so that the sequence has passed all of them (`Sequence.Onward`), and a
generated key is a new number. A column of exact decimals shows its sequence nothing: there the keys
are the numbers of the sequence whatever else has been accepted. Both are told in `keys_of_run`.
-/

namespace LinkedTables

open Number

/-- The sequence has moved on: it goes the same way, and has passed what it had passed before. -/
structure Sequence.Onward (s s' : Sequence) : Prop where
  increment : s'.increment = s.increment
  passed : ∀ n, s.Passed n → s'.Passed n

namespace Sequence.Onward

variable {s s' s'' : Sequence}

theorem refl (s : Sequence) : s.Onward s := ⟨rfl, fun _ => id⟩

theorem trans (a : s.Onward s') (b : s'.Onward s'') : s.Onward s'' :=
  ⟨b.increment.trans a.increment, fun n passed => b.passed n (a.passed n passed)⟩

theorem observe (s : Sequence) (n : Int) : s.Onward (s.observe n) :=
  ⟨s.increment_observe n, fun _ passed => passed.observe n⟩

theorem draw (s : Sequence) : s.Onward s.draw.2 := ⟨rfl, fun _ passed => passed.draw⟩

end Sequence.Onward

/-- Integers are the same value only if they are the same number. -/
theorem Value.same_int_iff (n m : Int) : (Value.int n).same (.int m) = true ↔ n = m := by
  rw [← same_ofInt]
  rfl

/-- So are their decimals. -/
theorem Value.same_decimal_iff (n m : Int) :
    (Value.decimal (.ofInt n)).same (.decimal (.ofInt m)) = true ↔ n = m := by
  rw [← same_ofInt]
  rfl

namespace Column

variable {c : Column} {f : Filling} {s : Sequence} {v w : Value} {n : Int}

/-- What becomes of values that a column is given one after the other. -/
def results (c : Column) : Filling → List Value → List (Except Fault Value)
  | _, [] => []
  | f, v :: vs => (c.accept f v).1 :: c.results (c.accept f v).2 vs

/-- The mark for the default is replaced by the next number of the sequence. -/
theorem accept_mark (here : f.sequence = some s) :
    c.accept f .useDefault
      = c.convertFor { f with sequence := some s.draw.2 } (.int s.draw.1) := by
  have taken : f.take = (.ok (some (.int s.draw.1)), { f with sequence := some s.draw.2 }) := by
    rw [Filling.take, here]
  rw [accept, taken]

/-! ### Whole numbers -/

section Whole

variable (kind : c.type.kind ∈ KindGroup.whole.kinds)
include kind

/-- Whole numbers convert to themselves. -/
theorem convertFor_int : c.convertFor f (.int n) = (.ok (.int n), f.observe (.int n)) :=
  convertFor_of_ok nofun (ColumnType.Holds.whole n kind).convert

/-- The sequence passes what is converted. -/
theorem onward_convertFor (here : f.sequence = some s) (v : Value) :
    ∃ s', (c.convertFor f v).2.sequence = some s' ∧ s.Onward s'
      ∧ ∀ w, (c.convertFor f v).1 = .ok w → w = .null ∨ ∃ n, w = .int n ∧ s'.Passed n := by
  by_cases given : v = .null
  · subst given
    refine ⟨s, here, .refl s, ?_⟩
    rintro w ⟨⟩
    exact .inl rfl
  cases converted : c.type.convert v with
  | error cause =>
    rw [convertFor_of_error given converted]
    exact ⟨s, here, .refl s, nofun⟩
  | ok w =>
    rw [convertFor_of_ok given converted]
    rw [ColumnType.convert, Kind.group_eq_iff.mpr kind] at converted
    obtain ⟨n, -, rfl⟩ := ColumnType.exists_of_map converted
    refine ⟨s.observe n, congrArg (Option.map _) here, .observe s n, ?_⟩
    rintro w ⟨⟩
    exact .inr ⟨n, rfl, s.passed_observe n⟩

/-- The sequence passes what is accepted. -/
theorem onward_accept (here : f.sequence = some s) (v : Value) :
    ∃ s', (c.accept f v).2.sequence = some s' ∧ s.Onward s'
      ∧ ∀ w, (c.accept f v).1 = .ok w → w = .null ∨ ∃ n, w = .int n ∧ s'.Passed n := by
  by_cases explicit : v = .useDefault
  · subst explicit
    rw [accept_mark here]
    obtain ⟨s', own, onward, passed⟩ :=
      onward_convertFor kind (f := { f with sequence := some s.draw.2 }) rfl (.int s.draw.1)
    exact ⟨s', own, .trans (.draw s) onward, passed⟩
  · rw [accept_eq_convertFor explicit]
    exact onward_convertFor kind here v

/-- A key is new to the sequence, and differs from all that was accepted before. -/
theorem exists_of_mark {vs : List Value} (here : f.sequence = some s) (moves : s.increment ≠ 0)
    {j : Nat} (mark : vs[j]? = some .useDefault) :
    ∃ n, (c.results f vs)[j]? = some (.ok (.int n)) ∧ (∀ m, s.Passed m → n ≠ m)
      ∧ ∀ i < j, ∀ w, (c.results f vs)[i]? = some (.ok w) →
        w = .null ∨ ∃ m, w = .int m ∧ n ≠ m := by
  induction vs generalizing f s j with
  | nil => cases mark
  | cons v vs ih =>
    obtain ⟨s', here', onward, passed⟩ := onward_accept kind here v
    cases j with
    | zero =>
      obtain rfl := Option.some.inj mark
      refine ⟨s.draw.1, ?_, fun m old => old.ne_draw moves,
        fun i before => absurd before (by omega)⟩
      show some (c.accept f .useDefault).1 = _
      rw [accept_mark here, convertFor_int kind]
    | succ j =>
      obtain ⟨n, key, fresh, differs⟩ := ih here' (onward.increment ▸ moves) mark
      refine ⟨n, key, fun m old => fresh m (onward.passed m old), fun i before w earlier => ?_⟩
      cases i with
      | zero =>
        refine (passed w (Option.some.inj earlier)).imp_right ?_
        rintro ⟨m, rfl, old⟩
        exact ⟨m, rfl, fresh m old⟩
      | succ i => exact differs i (by omega) w earlier

end Whole

/-! ### Exact decimals -/

/-- The number of marks for the default among some values. -/
def marks (vs : List Value) : Nat := vs.countP fun v => v matches .useDefault

theorem marks_cons_mark (vs : List Value) : marks (.useDefault :: vs) = marks vs + 1 :=
  List.countP_cons_of_pos rfl

theorem marks_cons_explicit (explicit : v ≠ .useDefault) (vs : List Value) :
    marks (v :: vs) = marks vs := by
  refine List.countP_cons_of_neg ?_
  cases v with
  | useDefault => exact absurd rfl explicit
  | _ => exact Bool.false_ne_true

/-- Every mark counts. -/
theorem marks_take_lt {vs : List Value} {i j : Nat} (before : i < j)
    (mark : vs[i]? = some .useDefault) : marks (vs.take i) < marks (vs.take j) := by
  have through : vs.take (i + 1) = vs.take i ++ [.useDefault] := by
    rw [List.take_add_one, mark]
    rfl
  have one : marks (vs.take (i + 1)) = marks (vs.take i) + 1 := by
    rw [through, marks, List.countP_append]
    rfl
  have more : marks (vs.take (i + 1)) ≤ marks (vs.take j) :=
    (List.take_sublist_take_left before).countP_le
  omega

section Exact

variable (kind : c.type.kind ∈ KindGroup.exact.kinds)
include kind

/-- Decimals are not shown to a sequence. -/
theorem snd_convertFor (f : Filling) (v : Value) : (c.convertFor f v).2 = f := by
  by_cases given : v = .null
  · subst given
    rfl
  cases converted : c.type.convert v with
  | error cause => rw [convertFor_of_error given converted]
  | ok w =>
    rw [convertFor_of_ok given converted]
    rw [ColumnType.convert, Kind.group_eq_iff.mpr kind] at converted
    obtain ⟨d, -, rfl⟩ := ColumnType.exists_of_map converted
    rfl

/-- An integer becomes its decimal, if it can be written. -/
theorem convert_int {text : String} (written : intText? n = some text) :
    c.type.convert (.int n) = .ok (.decimal (.ofInt n)) := by
  rw [ColumnType.convert, Kind.group_eq_iff.mpr kind]
  simp only [ColumnType.toExact, Value.asText?, written, read?_intText written]
  rfl

theorem eq_of_convert_int (ok : c.type.convert (.int n) = .ok w) : w = .decimal (.ofInt n) := by
  cases written : intText? n with
  | some text => exact Except.ok.inj (ok.symm.trans (convert_int kind written))
  | none =>
    rw [ColumnType.convert, Kind.group_eq_iff.mpr kind] at ok
    simp only [ColumnType.toExact, Value.asText?, written] at ok
    cases ok

/-- The keys are the numbers of the sequence, counted by the marks. -/
theorem result_of_mark {vs : List Value} (here : f.sequence = some s) {j : Nat}
    (mark : vs[j]? = some .useDefault) :
    ∃ f', (c.results f vs)[j]?
      = some (c.convertFor f' (.int (s.next + s.increment * marks (vs.take j)))).1 := by
  -- On the values, with the sequence as those before have left it.
  induction vs generalizing f s j with
  | nil => cases mark
  | cons v vs ih =>
    cases j with
    | zero =>
      obtain rfl := Option.some.inj mark
      refine ⟨{ f with sequence := some s.draw.2 }, ?_⟩
      show some (c.accept f .useDefault).1 = _
      rw [accept_mark here]
      simp [marks, Sequence.draw]
    | succ j =>
      by_cases explicit : v = .useDefault
      · subst explicit
        have onward : (c.accept f .useDefault).2.sequence = some s.draw.2 := by
          rw [accept_mark here, snd_convertFor kind]
        obtain ⟨f', key⟩ := ih onward mark
        have number : s.draw.2.next + s.draw.2.increment * marks (vs.take j)
            = s.next + s.increment * marks ((.useDefault :: vs).take (j + 1)) := by
          rw [List.take_succ_cons, marks_cons_mark, Sequence.draw, Int.natCast_succ, Int.mul_add,
            Int.mul_one]
          dsimp only
          omega
        exact ⟨f', number ▸ key⟩
      · have still : (c.accept f v).2.sequence = some s := by
          rw [accept_eq_convertFor explicit, snd_convertFor kind, here]
        obtain ⟨f', key⟩ := ih still mark
        rw [List.take_succ_cons, marks_cons_explicit explicit]
        exact ⟨f', key⟩

/-- A mark comes to the decimal of its number, if that can be written, and to no other value. -/
theorem decimal_of_mark {vs : List Value} (here : f.sequence = some s) {j : Nat}
    (mark : vs[j]? = some .useDefault)
    (number : n = s.next + s.increment * marks (vs.take j)) :
    (∀ w, (c.results f vs)[j]? = some (.ok w) → w = .decimal (.ofInt n))
      ∧ ∀ text, intText? n = some text →
        (c.results f vs)[j]? = some (.ok (.decimal (.ofInt n))) := by
  obtain ⟨f', key⟩ := result_of_mark kind here mark
  rw [← number] at key
  have given : Value.int n ≠ .null := nofun
  constructor
  · intro w accepted
    rw [key] at accepted
    cases converted : c.type.convert (.int n) with
    | error cause =>
      rw [convertFor_of_error given converted] at accepted
      cases accepted
    | ok w' =>
      rw [convertFor_of_ok given converted] at accepted
      cases accepted
      exact eq_of_convert_int kind converted
  · intro text written
    rw [key, convertFor_of_ok given (convert_int kind written)]

end Exact

/-! ### Keys -/

/-- A column of whole numbers whose sequence moves puts an integer in for every mark, and it is
another number than every value accepted before. A column of exact decimals puts in the next number
of its sequence, if that can be written: a number that it has not put in before, but chosen
whatever explicit values it has accepted. -/
theorem keys_of_run (here : f.sequence = some s) (moves : s.increment ≠ 0) (vs : List Value) :
    (c.type.kind ∈ KindGroup.whole.kinds → ∀ j : Nat, vs[j]? = some .useDefault →
      ∃ n, (c.results f vs)[j]? = some (.ok (.int n))
        ∧ ∀ i < j, ∀ w, (c.results f vs)[i]? = some (.ok w) → w.same (.int n) = false)
    ∧ (c.type.kind ∈ KindGroup.exact.kinds → ∀ j : Nat, vs[j]? = some .useDefault →
      let n := s.next + s.increment * marks (vs.take j)
      (∀ w, (c.results f vs)[j]? = some (.ok w) → w = .decimal (.ofInt n))
      ∧ (∀ text, intText? n = some text → (c.results f vs)[j]? = some (.ok (.decimal (.ofInt n))))
      ∧ ∀ i < j, vs[i]? = some .useDefault →
        ∀ w, (c.results f vs)[i]? = some (.ok w) → w.same (.decimal (.ofInt n)) = false) := by
  refine ⟨fun kind j mark => ?_, fun kind j mark => ?_⟩
  · obtain ⟨n, key, -, differs⟩ := exists_of_mark kind here moves mark
    refine ⟨n, key, fun i before w earlier => ?_⟩
    rcases differs i before w earlier with rfl | ⟨m, rfl, other⟩
    · rfl
    · exact Bool.eq_false_iff.mpr fun same => other ((Value.same_int_iff m n).mp same).symm
  · intro n
    obtain ⟨only, put⟩ := decimal_of_mark kind here mark (n := n) rfl
    refine ⟨only, put, fun i before earlier w accepted => ?_⟩
    obtain rfl := (decimal_of_mark kind here earlier rfl).1 w accepted
    refine Bool.eq_false_iff.mpr fun same => ?_
    have counts := marks_take_lt before earlier
    have equal := Int.add_left_cancel ((Value.same_decimal_iff _ _).mp same)
    have numbers := Int.eq_of_mul_eq_mul_left moves equal
    omega

/-- A key behind a truth value and an integer is new to both, and so is the key of a sequence of
decimals that goes down to the key before it. -/
theorem keys_of_counting :
    let whole : Column := ⟨"ID", .ofKind .bigint, 0, "id", false⟩
    let exact : Column := ⟨"ID", .ofKind .numeric, 0, "id", false⟩
    let up : Filling := ⟨none, some ⟨1, 1⟩⟩
    let down : Filling := ⟨none, some ⟨5, -3⟩⟩
    let vs : List Value := [.bool true, .int 5, .useDefault]
    let marked : List Value := [.useDefault, .int 8, .useDefault]
    (up.sequence = some ⟨1, 1⟩ ∧ (1 : Int) ≠ 0 ∧ whole.type.kind ∈ KindGroup.whole.kinds
      ∧ vs[2]? = some .useDefault
      ∧ ∃ n, (whole.results up vs)[2]? = some (.ok (.int n))
        ∧ ∀ i < 2, ∀ w, (whole.results up vs)[i]? = some (.ok w) → w.same (.int n) = false)
    ∧ down.sequence = some ⟨5, -3⟩ ∧ (-3 : Int) ≠ 0 ∧ exact.type.kind ∈ KindGroup.exact.kinds
      ∧ marked[0]? = some .useDefault ∧ marked[2]? = some .useDefault
      ∧ (exact.results down marked)[2]? = some (.ok (.decimal (.ofInt 2)))
      ∧ ∀ w, (exact.results down marked)[0]? = some (.ok w) →
        w.same (.decimal (.ofInt 2)) = false := by
  intro whole exact up down vs marked
  have kind : whole.type.kind ∈ KindGroup.whole.kinds := by decide
  have kind' : exact.type.kind ∈ KindGroup.exact.kinds := by decide
  have written : intText? 2 = some "2" := by decide +kernel
  obtain ⟨n, key, differs⟩ :=
    (keys_of_run (c := whole) (f := up) (s := ⟨1, 1⟩) rfl (by decide) vs).1 kind 2 rfl
  obtain ⟨-, put, differs'⟩ :=
    (keys_of_run (c := exact) (f := down) (s := ⟨5, -3⟩) rfl (by decide) marked).2 kind' 2 rfl
  exact ⟨⟨rfl, by decide, kind, rfl, n, key, differs⟩, rfl, by decide, kind', rfl, rfl,
    put "2" written, differs' 0 (by decide) rfl⟩

/-- A sequence of decimals does not see the key that it is given, and generates it again. -/
theorem decimal_key_repeats :
    let id : Column := ⟨"ID", .ofKind .decimal, 0, "id", false⟩
    let f : Filling := ⟨none, some ⟨1, 1⟩⟩
    id.type.kind ∈ KindGroup.exact.kinds ∧ f.sequence = some ⟨1, 1⟩
      ∧ ∃ w w', id.results f [.int 1, .useDefault] = [.ok w, .ok w'] ∧ w.same w' = true := by
  intro id f
  have kind : id.type.kind ∈ KindGroup.exact.kinds := by decide
  have written : intText? 1 = some "1" := by decide +kernel
  have converted : id.type.convert (.int 1) = .ok (.decimal (.ofInt 1)) := convert_int kind written
  have given : Value.int 1 ≠ .null := nofun
  have first : id.accept f (.int 1) = (.ok (.decimal (.ofInt 1)), f) :=
    convertFor_of_ok given converted
  have second : (id.accept f .useDefault).1 = .ok (.decimal (.ofInt 1)) := by
    rw [accept_mark (s := ⟨1, 1⟩) rfl]
    exact congrArg Prod.fst (convertFor_of_ok given converted)
  have same := (Value.same_decimal_iff 1 1).mpr rfl
  refine ⟨kind, rfl, .decimal (.ofInt 1), .decimal (.ofInt 1), ?_, same⟩
  rw [results, results, results, first, second]

end Column

end LinkedTables
