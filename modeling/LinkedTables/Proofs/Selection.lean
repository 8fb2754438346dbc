import LinkedTables.Proofs.Parameters
import LinkedTables.Proofs.RowEffect

/-!
# The rows that conditions select

A remote side reads a condition in three truth values: a comparison with null on either side is
neither true nor false, and a row is selected only where the condition is true. `conjunction` reads
the terms of a condition from left to right as they are written, and binds each marker to the next
of the values that go with them.

Read so, every marker has its value and none is left over, and the whole is true where each test is
(`conjunction_of_conditions`). The tests for a row pass the rows that agree with it on every column
but the large objects, where null agrees with null (`truth_of_telling`), and those of a search the
rows within its bounds (`truth_of_search`). Hence the two kinds of conditions select the rows that
they are meant to select (`meant_of_conditions`).
-/

namespace LinkedTables.Sql

/-! ### Truth values -/

/-- What a remote side makes of a condition. -/
inductive Truth where
  | yes | no | unknown
deriving DecidableEq, Repr, Inhabited

namespace Truth

/-- Something that is known to hold or not to hold. -/
def ofBool (b : Bool) : Truth := if b then yes else no

/-- Both hold. One that does not decides, whatever is unknown. -/
def and : Truth → Truth → Truth
  | no, _ => no
  | _, no => no
  | yes, a => a
  | unknown, _ => unknown

theorem and_eq_yes {a b : Truth} : a.and b = yes ↔ a = yes ∧ b = yes := by
  cases a <;> cases b <;> simp [and]

theorem ofBool_eq_yes {b : Bool} : ofBool b = yes ↔ b = true := by
  cases b <;> simp [ofBool]

end Truth

/-- Whether a relation holds between two values, of which null has no relation to anything. -/
def compared (relation : Value → Value → Bool) (v w : Value) : Truth :=
  if v.isNull || w.isNull then .unknown else .ofBool (relation v w)

theorem compared_eq_yes {relation : Value → Value → Bool} {v w : Value} :
    compared relation v w = .yes ↔ v.isNull = false ∧ w.isNull = false ∧ relation v w = true := by
  unfold compared
  cases v.isNull <;> cases w.isNull <;> simp [Truth.ofBool_eq_yes]

/-! ### Terms -/

/-- What is written behind the name of a column. -/
inductive Sign where
  | isNull | equal | atLeast | atMost
deriving DecidableEq, Repr, Inhabited

/-- A sign as it is written; all but the first end in a marker. -/
def Sign.text : Sign → String
  | isNull => " IS NULL"
  | equal => "=?"
  | atLeast => ">=?"
  | atMost => "<=?"

/-- A column by its remote name, and what is asked of it. -/
structure Term where
  name : String
  sign : Sign
deriving DecidableEq, Repr, Inhabited

/-- The terms of a condition as they are written. -/
def termsText (quote : String → String) (terms : List Term) : String :=
  " AND ".intercalate (terms.map fun term => quote term.name ++ term.sign.text)

/-- The condition of a query as it is written; without terms there is none. -/
def whereText (quote : String → String) (terms : List Term) : String :=
  if terms = [] then "" else " WHERE " ++ termsText quote terms

/-- The sign of a test. -/
def Test.sign : Test → Sign
  | isNull => .isNull
  | equals _ => .equal
  | atLeast _ => .atLeast
  | atMost _ => .atMost

/-- A condition as it is written, without its value. -/
def Condition.term (c : Condition) : Term := ⟨c.column.remoteName, c.test.sign⟩

theorem allText_eq_termsText (quote : String → String) (cs : List Condition) :
    allText quote cs = termsText quote (cs.map Condition.term) := by
  have each (c : Condition) : c.text quote = quote c.term.name ++ c.term.sign.text := by
    rcases c with ⟨column, _ | v | v | v⟩ <;> rfl
  rw [allText, termsText, List.map_map]
  exact congrArg _ (List.map_congr_left fun c _ => each c)

/-- A query with its condition as it is written. -/
theorem text_select (quote : String → String) (table : String) (cs : List Condition) :
    (RowStatement.select cs).text quote table
      = "SELECT * FROM " ++ table ++ " T" ++ whereText quote (cs.map Condition.term) := by
  cases cs with
  | nil => exact String.append_empty.symm
  | cons c cs =>
    have words : " T WHERE " = " T" ++ " WHERE " := rfl
    have some_terms : (c :: cs).map Condition.term ≠ [] := List.cons_ne_nil _ _
    have text : (RowStatement.select (c :: cs)).text quote table
        = "SELECT * FROM " ++ table ++ " T WHERE " ++ allText quote (c :: cs) := rfl
    rw [text, whereText, if_neg some_terms, ← allText_eq_termsText, words]
    simp only [String.append_assoc]

section Reading

variable (equal upTo : Value → Value → Bool) (remote : String → Value)

/-- The truth of a term for a remote row, and the values that it leaves to later markers. There is
none if its own marker has no value. -/
def Term.read (term : Term) (params : List Value) : Option (Truth × List Value) :=
  match term.sign, params with
  | .isNull, later => some (.ofBool (remote term.name).isNull, later)
  | .equal, v :: later => some (compared equal (remote term.name) v, later)
  | .atLeast, v :: later => some (compared upTo v (remote term.name), later)
  | .atMost, v :: later => some (compared upTo (remote term.name) v, later)
  | _, [] => none

/-- The truth of terms that hold together, each marker bound to the next of the values. There is
none if there are too few values or too many. No terms are true of every row. -/
def conjunction : List Term → List Value → Option Truth
  | [], [] => some .yes
  | [], _ :: _ => none
  | term :: terms, params => do
    let (first, later) ← term.read equal upTo remote params
    let rest ← conjunction terms later
    return first.and rest

/-- The truth of a test of a value. -/
def Test.truth (v : Value) : Test → Truth
  | isNull => .ofBool v.isNull
  | equals w => compared equal v w
  | atLeast w => compared upTo w v
  | atMost w => compared upTo v w

/-- A term takes the value of its own condition. -/
theorem read_term (c : Condition) (later : List Value) :
    c.term.read equal upTo remote (c.test.param?.toList ++ later)
      = some (c.test.truth equal upTo (remote c.column.remoteName), later) := by
  rcases c with ⟨column, _ | v | v | v⟩ <;> rfl

/-- Every marker of a condition has its value, and none is left over; the condition is true where
each of its tests is. -/
theorem conjunction_of_conditions (cs : List Condition) :
    ∃ truth, conjunction equal upTo remote (cs.map Condition.term) (allParams cs) = some truth
      ∧ (truth = .yes
        ↔ ∀ c ∈ cs, c.test.truth equal upTo (remote c.column.remoteName) = .yes) := by
  induction cs with
  | nil => exact ⟨.yes, rfl, by simp⟩
  | cons c cs ih =>
    obtain ⟨rest, read, true_of_rest⟩ := ih
    have params : allParams (c :: cs) = c.test.param?.toList ++ allParams cs := by
      rw [allParams, List.filterMap_cons]
      cases c.test.param? <;> rfl
    refine ⟨(c.test.truth equal upTo (remote c.column.remoteName)).and rest, ?_, ?_⟩
    · rw [List.map_cons, params, conjunction, read_term]
      dsimp only [Option.bind_eq_bind, Option.bind_some]
      rw [read]
      rfl
    · rw [Truth.and_eq_yes, true_of_rest, List.forall_mem_cons]

end Reading

/-! ### Telling a row -/

section Telling

variable (equal upTo : Value → Value → Bool)

/-- Values that cannot be told apart: both null, or neither of them and equal. -/
def Alike (v w : Value) : Prop :=
  v.isNull = true ∧ w.isNull = true
    ∨ v.isNull = false ∧ w.isNull = false ∧ equal v w = true

/-- The test for a value passes what is like it. -/
theorem truth_testOf (v w : Value) :
    (testOf w).truth equal upTo v = .yes ↔ Alike equal v w := by
  cases w with
  | null => simp [testOf, Test.truth, Alike, Truth.ofBool_eq_yes, Value.isNull]
  | _ => simp [testOf, Test.truth, Alike, compared_eq_yes, Value.isNull]

/-- A row that is wide enough has a value for each column. -/
theorem valueAt_of_wide {row : List Value} {c : Column} (wide : c.ordinal < row.length) :
    valueAt row c = .ok (valueOf row c.ordinal) := by
  rw [valueAt, valueOf, List.getD_eq_getElem?_getD, List.getElem?_eq_getElem wide]
  rfl

/-- The conditions of a row that is wide enough, on a table with a column to compare. -/
theorem identifying_of_wide (table : String) {columns : List Column} {row : List Value}
    (wide : ∀ c ∈ columns, c.ordinal < row.length)
    (telling : ∃ c ∈ columns, c.type.kind.isLarge = false) :
    identifying (.ok ()) table columns row
      = .ok ((columns.filter fun c => !c.type.kind.isLarge).map fun c =>
          ⟨c, testOf (valueOf row c.ordinal)⟩) := by
  have made : conditionsOf (.ok ()) columns row
      = .ok ((columns.filter fun c => !c.type.kind.isLarge).map fun c =>
          ⟨c, testOf (valueOf row c.ordinal)⟩) := by
    refine Success.mapM_of_ok fun c here => ?_
    rw [valueAt_of_wide (wide c (List.mem_filter.mp here).1)]
    rfl
  obtain ⟨c, here, small⟩ := telling
  have among : c ∈ columns.filter fun c => !c.type.kind.isLarge :=
    List.mem_filter.mpr ⟨here, by rw [small]; rfl⟩
  rw [identifying, made]
  cases told : columns.filter fun c => !c.type.kind.isLarge with
  | nil =>
    rw [told] at among
    cases among
  | cons _ _ => rfl

/-- The tests for the values of a row pass the rows that are like it on all columns but the large
objects. -/
theorem truth_of_telling (columns : List Column) (row : List Value) (remote : String → Value) :
    (∀ condition ∈ (columns.filter fun c => !c.type.kind.isLarge).map fun c =>
        (⟨c, testOf (valueOf row c.ordinal)⟩ : Condition),
      condition.test.truth equal upTo (remote condition.column.remoteName) = .yes)
    ↔ ∀ c ∈ columns, c.type.kind.isLarge = false →
        Alike equal (remote c.remoteName) (valueOf row c.ordinal) := by
  simp only [List.forall_mem_map, List.mem_filter, truth_testOf, Bool.not_eq_true', and_imp]

end Telling

/-! ### Searching between bounds -/

section Searching

variable (equal upTo : Value → Value → Bool)

/-- A bound gives a value for a column, which is not null. -/
def Bounds (bound : Option (List Value)) (c : Column) (v : Value) : Prop :=
  ∃ row, bound = some row ∧ row[c.ordinal]? = some v ∧ v.isNull = false

/-- A value of a column within bounds: not null if there is a bound, and on the right side of it. -/
def Within (first last : Option (List Value)) (c : Column) (v : Value) : Prop :=
  (∀ low, Bounds first c low → v.isNull = false ∧ upTo low v = true)
    ∧ ∀ high, Bounds last c high → v.isNull = false ∧ upTo v high = true

/-- The conditions of one side of a column are those on the value of its bound. -/
theorem mem_of_sideOf {make : Value → Test} {bound : Option (List Value)} {c : Column}
    {cs : List Condition} (ok : sideOf make bound c = .ok cs) (condition : Condition) :
    condition ∈ cs ↔ ∃ v, Bounds bound c v ∧ condition = ⟨c, make v⟩ := by
  cases bound with
  | none =>
    cases ok
    simp [Bounds]
  | some row =>
    obtain ⟨v, value, ok⟩ := Success.exists_of_bind ok
    have value : row[c.ordinal]? = some v := eq_some_of_valueAt value
    have bounds (w : Value) : Bounds (some row) c w ↔ w = v ∧ v.isNull = false := by
      constructor
      · rintro ⟨_, same, found, given⟩
        obtain rfl := Option.some.inj same
        obtain rfl := Option.some.inj (value.symm.trans found)
        exact ⟨rfl, given⟩
      · rintro ⟨rfl, given⟩
        exact ⟨row, rfl, value, given⟩
    simp only [bounds]
    cases v with
    | null =>
      cases ok
      simp [Value.isNull]
    | _ =>
      cases ok
      simp [Value.isNull]

/-- A side for which the bound is wide enough can be told. -/
theorem exists_sideOf (make : Value → Test) {bound : Option (List Value)} {c : Column}
    (wide : ∀ row, bound = some row → c.ordinal < row.length) :
    ∃ cs, sideOf make bound c = .ok cs := by
  cases bound with
  | none => exact ⟨[], rfl⟩
  | some row =>
    rw [sideOf, valueAt_of_wide (wide row rfl)]
    cases valueOf row c.ordinal <;> exact ⟨_, rfl⟩

/-- The conditions on both sides of a column are true of what is within the bounds. -/
theorem truth_of_sides {first last : Option (List Value)} {c : Column} {below above : List Condition}
    (from_first : sideOf .atLeast first c = .ok below)
    (from_last : sideOf .atMost last c = .ok above) (remote : String → Value) :
    (∀ condition ∈ below ++ above,
        condition.test.truth equal upTo (remote condition.column.remoteName) = .yes)
      ↔ Within upTo first last c (remote c.remoteName) := by
  rw [List.forall_mem_append]
  refine and_congr ⟨fun all low given => ?_, fun within condition here => ?_⟩
    ⟨fun all high given => ?_, fun within condition here => ?_⟩
  · have true_below := all _ ((mem_of_sideOf from_first _).mpr ⟨low, given, rfl⟩)
    obtain ⟨-, known, ordered⟩ := compared_eq_yes.mp true_below
    exact ⟨known, ordered⟩
  · obtain ⟨low, given, rfl⟩ := (mem_of_sideOf from_first condition).mp here
    obtain ⟨known, ordered⟩ := within low given
    obtain ⟨_, _, _, some_value⟩ := given
    exact compared_eq_yes.mpr ⟨some_value, known, ordered⟩
  · have true_above := all _ ((mem_of_sideOf from_last _).mpr ⟨high, given, rfl⟩)
    obtain ⟨known, -, ordered⟩ := compared_eq_yes.mp true_above
    exact ⟨known, ordered⟩
  · obtain ⟨high, given, rfl⟩ := (mem_of_sideOf from_last condition).mp here
    obtain ⟨known, ordered⟩ := within high given
    obtain ⟨_, _, _, some_value⟩ := given
    exact compared_eq_yes.mpr ⟨known, some_value, ordered⟩

/-- The conditions of a search, one column after the other. -/
theorem truth_of_search {ready : Except Fault Unit} {columns : List Column}
    {first last : Option (List Value)} {statement : RowStatement}
    (ok : selectBetween ready columns first last = .ok statement) :
    ∃ cs, statement = .select cs ∧ ∀ remote : String → Value,
      (∀ condition ∈ cs,
          condition.test.truth equal upTo (remote condition.column.remoteName) = .yes)
        ↔ ∀ c ∈ columns, Within upTo first last c (remote c.remoteName) := by
  obtain ⟨sides, each, made⟩ := Success.exists_of_bind ok
  cases made
  refine ⟨sides.flatten, rfl, fun remote => ?_⟩
  clear ok
  induction columns generalizing sides with
  | nil =>
    cases each
    simp
  | cons c columns ih =>
    obtain ⟨here, rest, side, later, rfl⟩ := Success.exists_of_mapM_cons each
    obtain ⟨-, -, side⟩ := Success.exists_of_bind side
    obtain ⟨below, from_first, side⟩ := Success.exists_of_bind side
    obtain ⟨above, from_last, side⟩ := Success.exists_of_bind side
    cases side
    rw [List.flatten_cons, List.forall_mem_append, List.forall_mem_cons, ih rest later,
      truth_of_sides equal upTo from_first from_last]

/-- A search between bounds that are wide enough can be told. -/
theorem exists_selectBetween {columns : List Column} {first last : Option (List Value)}
    (first_wide : ∀ row, first = some row → ∀ c ∈ columns, c.ordinal < row.length)
    (last_wide : ∀ row, last = some row → ∀ c ∈ columns, c.ordinal < row.length) :
    ∃ statement, selectBetween (.ok ()) columns first last = .ok statement := by
  have each : ∀ c ∈ columns, ∃ cs, (do
      return (← sideOf .atLeast first c) ++ (← sideOf .atMost last c)) = Except.ok cs := by
    intro c here
    obtain ⟨below, from_first⟩ := exists_sideOf .atLeast fun row given => first_wide row given c here
    obtain ⟨above, from_last⟩ := exists_sideOf .atMost fun row given => last_wide row given c here
    exact ⟨below ++ above, by rw [from_first, from_last]; rfl⟩
  obtain ⟨sides, made⟩ := Success.exists_mapM_of_ok each
  refine ⟨.select sides.flatten, ?_⟩
  show (columns.mapM fun c => do
    return (← sideOf .atLeast first c) ++ (← sideOf .atMost last c)) >>= _ = _
  rw [made]
  rfl

end Searching

/-! ### What conditions mean -/

/-- Conditions as a remote side reads them: they are written as terms, each marker of which gets the
value that is meant for it, and are true of exactly the rows that are meant. -/
structure Means (equal upTo : Value → Value → Bool) (cs : List Condition)
    (Meant : (String → Value) → Prop) : Prop where
  written : ∀ quote, allText quote cs = termsText quote (cs.map Condition.term)
  read : ∀ remote, ∃ truth,
    conjunction equal upTo remote (cs.map Condition.term) (allParams cs) = some truth
      ∧ (truth = .yes ↔ Meant remote)

theorem means_of_truth {equal upTo : Value → Value → Bool} {cs : List Condition}
    {Meant : (String → Value) → Prop}
    (all_true : ∀ remote, (∀ c ∈ cs,
      c.test.truth equal upTo (remote c.column.remoteName) = .yes) ↔ Meant remote) :
    Means equal upTo cs Meant where
  written quote := allText_eq_termsText quote cs
  read remote := by
    obtain ⟨truth, read, true_of_tests⟩ := conjunction_of_conditions equal upTo remote cs
    exact ⟨truth, read, true_of_tests.trans (all_true remote)⟩

/-- The rows that conditions select, whatever equality and order a remote side has for values that
are not null. The condition that tells a row selects the remote rows that are like it on every
column but the large objects. The condition of a search selects those within the bounds on every
column of the index, of which a null bounds nothing; without bounds that is every row. -/
theorem meant_of_conditions (equal upTo : Value → Value → Bool) :
    (∀ table columns row, (∀ c ∈ columns, c.ordinal < row.length) →
        (∃ c ∈ columns, c.type.kind.isLarge = false) →
        ∃ cs, identifying (.ok ()) table columns row = .ok cs ∧ cs ≠ []
          ∧ Means equal upTo cs fun remote => ∀ c ∈ columns, c.type.kind.isLarge = false →
            Alike equal (remote c.remoteName) (valueOf row c.ordinal))
      ∧ (∀ ready columns first last statement,
        selectBetween ready columns first last = .ok statement →
        ∃ cs, statement.params = allParams cs
          ∧ (∀ quote table, statement.text quote table
              = "SELECT * FROM " ++ table ++ " T" ++ whereText quote (cs.map Condition.term))
          ∧ Means equal upTo cs fun remote =>
            ∀ c ∈ columns, Within upTo first last c (remote c.remoteName))
      ∧ ∀ columns first last,
        (∀ bound ∈ [first, last], ∀ row, bound = some row → ∀ c ∈ columns,
          c.ordinal < row.length) →
        ∃ statement, selectBetween (.ok ()) columns first last = .ok statement := by
  refine ⟨fun table columns row wide telling => ?_,
    fun ready columns first last statement ok => ?_, fun columns first last wide => ?_⟩
  · have made := identifying_of_wide table wide telling
    refine ⟨_, made, fun none => ?_, means_of_truth (truth_of_telling equal upTo columns row)⟩
    obtain ⟨c, here, small⟩ := telling
    have among : c ∈ columns.filter fun c => !c.type.kind.isLarge :=
      List.mem_filter.mpr ⟨here, by rw [small]; rfl⟩
    rw [List.map_eq_nil_iff.mp none] at among
    cases among
  · obtain ⟨cs, rfl, all_true⟩ := truth_of_search equal upTo ok
    exact ⟨cs, rfl, fun quote table => text_select quote table cs, means_of_truth all_true⟩
  · exact exists_selectBetween (wide first (by simp)) (wide last (by simp))

/-- A row with a null and a large object, and a search with a null among its bounds. -/
theorem meant_of_null_and_large :
    let upTo (v w : Value) : Bool := decide (v.int?.getD 0 ≤ w.int?.getD 0)
    let large : Column := { wholeColumn 1 "B" with type := ⟨.clob, 0, 0, ""⟩ }
    let columns := [wholeColumn 0 "A", large, wholeColumn 2 "C"]
    let row : List Value := [.int 1, .text "long", .null]
    (∀ c ∈ columns, c.ordinal < row.length)
      ∧ (∃ c ∈ columns, c.type.kind.isLarge = false)
      ∧ (∃ cs, identifying (.ok ()) "T" columns row = .ok cs ∧ allText id cs = "A=? AND C IS NULL"
        ∧ Means Value.same upTo cs fun remote => ∀ c ∈ columns, c.type.kind.isLarge = false →
          Alike Value.same (remote c.remoteName) (valueOf row c.ordinal))
      ∧ ∃ statement cs, selectBetween (.ok ()) columns (some row) (some row) = .ok statement
        ∧ statement.params = allParams cs
        ∧ statement.text id "T" = "SELECT * FROM T T WHERE A>=? AND A<=? AND B>=? AND B<=?"
        ∧ Means Value.same upTo cs fun remote =>
          ∀ c ∈ columns, Within upTo (some row) (some row) c (remote c.remoteName) := by
  intro upTo large columns row
  have wide : ∀ c ∈ columns, c.ordinal < row.length := by decide
  have telling : ∃ c ∈ columns, c.type.kind.isLarge = false := by decide
  obtain ⟨tells, searches, -⟩ := meant_of_conditions Value.same upTo
  obtain ⟨cs, told, -, means⟩ := tells "T" columns row wide telling
  obtain ⟨cs', params, -, means'⟩ := searches (.ok ()) columns (some row) (some row) _ rfl
  refine ⟨wide, telling, ⟨cs, told, ?_, means⟩, _, cs', rfl, params, rfl, means'⟩
  cases told
  rfl

end LinkedTables.Sql
