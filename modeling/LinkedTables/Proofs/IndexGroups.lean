import LinkedTables.Proofs.Inspection
import Mathlib.Data.List.SplitBy

/-!
# Rows of one index

The rows of the other indexes come one behind the other, and among them statistics and the rows of
the primary key. The reading goes through them once, with the run that the next row may continue
(`runsFrom`). It comes to this: pass over what belongs to no index of its own (`ownRows`), cut the
rest wherever the name changes (`groups`), and make an index of each group (`groupIndex`).

The invariant is the group behind the current run: its rows bear one name, and the run is made of
them (`runsFrom_of_group`). The main statement is `readOthers_of_groups`.
-/

namespace LinkedTables.Reconstruction

/-! ### Groups -/

/-- The rows that belong to an index of their own. -/
def ownRows (key : Option String) (rows : List IndexRow) : List IndexRow :=
  rows.filter fun row => row.kind ≠ .statistic ∧ (key = none ∨ row.index ≠ key)

/-- Neighbouring rows of one name, as many as there are. -/
def groups (rows : List IndexRow) : List (List IndexRow) :=
  rows.splitBy fun a b => a.index == b.index

/-- The index of a group: the last row says whether it is unique, and it is over the columns found
up to the first that is not, if there are any. -/
def groupIndex (resolve : Resolver) (group : List IndexRow) : Option Index :=
  group.getLast?.bind fun last =>
    let columns := found resolve (group.map (·.column))
    if columns = [] then none
    else some ⟨if last.nonUnique then .nonUnique else .unique, columns, last.index⟩

/-- The rows bear one name. -/
def OfOneName (group : List IndexRow) : Prop := group.IsChain fun a b => a.index = b.index

theorem groups_of_one {group : List IndexRow} (some_rows : group ≠ []) (one : OfOneName group) :
    groups group = [group] := by
  refine List.splitBy_of_isChain some_rows ?_
  refine one.imp ?_
  intro a b same
  simpa using same

/-- A row of another name begins another group. -/
theorem groups_of_other {group : List IndexRow} (some_rows : group ≠ []) (one : OfOneName group)
    {row : IndexRow} (other : ∀ last ∈ group.getLast?, last.index ≠ row.index)
    (rest : List IndexRow) : groups (group ++ row :: rest) = group :: groups (row :: rest) := by
  have cut : groups (group ++ row :: rest) = groups group ++ groups (row :: rest) := by
    refine List.splitBy_append_cons rest ?_
    intro last here
    simpa using other last here
  rw [cut, groups_of_one some_rows one]
  rfl

/-- A row of the name of a group goes on with it. -/
theorem OfOneName.append {group : List IndexRow} (one : OfOneName group) {row : IndexRow}
    (same : ∀ last ∈ group.getLast?, last.index = row.index) : OfOneName (group ++ [row]) := by
  refine List.isChain_append.mpr ⟨one, List.isChain_singleton row, ?_⟩
  intro last here next there
  rw [List.head?_singleton, Option.mem_some] at there
  exact there ▸ same last here

/-! ### Runs -/

theorem ownRows_cons (key : Option String) (row : IndexRow) (rows : List IndexRow) :
    ownRows key (row :: rows)
      = if isPassedOver key row then ownRows key rows else row :: ownRows key rows := by
  have same : decide (row.kind ≠ .statistic ∧ (key = none ∨ row.index ≠ key))
      = !isPassedOver key row := by
    rw [Bool.eq_iff_iff]
    cases key <;> simp [isPassedOver]
  rw [ownRows, List.filter_cons, same]
  cases isPassedOver key row <;> rfl

/-- The run is made of the rows of a group. -/
structure MadeOf (run : Run) (group : List IndexRow) : Prop where
  last : ∀ row ∈ group.getLast?, run.name = row.index ∧ run.unique = !row.nonUnique
  columns : run.columns = group.map (·.column)

theorem madeOf_ofRow (row : IndexRow) : MadeOf (.ofRow row) [row] where
  last last here := by
    rw [List.getLast?_singleton, Option.mem_some] at here
    exact here ▸ ⟨rfl, rfl⟩
  columns := rfl

theorem MadeOf.extend {run : Run} {group : List IndexRow} (made : MadeOf run group)
    {row : IndexRow} (same : run.name = row.index) : MadeOf (run.extend row) (group ++ [row]) where
  last last here := by
    rw [List.getLast?_append, List.getLast?_singleton, Option.some_or, Option.mem_some] at here
    exact here ▸ ⟨same, rfl⟩
  columns := by
    rw [Run.extend, made.columns, List.map_append]
    rfl

/-- The index of a run is that of the group it is made of. -/
theorem index?_of_group (resolve : Resolver) {run : Run} {group : List IndexRow}
    (made : MadeOf run group) (some_rows : group ≠ []) :
    (run.binding resolve).index? = groupIndex resolve group := by
  have last := List.getLast?_eq_some_getLast some_rows
  obtain ⟨name, unique⟩ := made.last _ last
  have some_columns : (KeyReport.mk run.name run.columns run.unique).columns ≠ [] := by
    show run.columns ≠ []
    rw [made.columns]
    simpa using some_rows
  have kind : IndexKind.ofUnique run.unique
      = if (group.getLast some_rows).nonUnique then .nonUnique else .unique := by
    rw [unique]
    cases (group.getLast some_rows).nonUnique <;> rfl
  have bound : (run.binding resolve).index?
      = indexFor resolve (.ofUnique run.unique) ⟨run.name, run.columns, run.unique⟩ :=
    index?_of_names resolve _ some_columns
  rw [bound, indexFor, groupIndex, last, kind, name, made.columns]
  rfl

/-- The indexes of runs. -/
def runIndexes (resolve : Resolver) (runs : List Run) : List Index :=
  (runs.map (Run.binding resolve)).filterMap (·.index?)

theorem runIndexes_cons (resolve : Resolver) {run : Run} {group : List IndexRow}
    (made : MadeOf run group) (some_rows : group ≠ []) (runs : List Run) :
    runIndexes resolve (run :: runs)
      = (groupIndex resolve group).toList ++ runIndexes resolve runs := by
  rw [runIndexes, List.map_cons, List.filterMap_cons, index?_of_group resolve made some_rows]
  cases groupIndex resolve group <;> rfl

theorem filterMap_groupIndex_cons (resolve : Resolver) (group : List IndexRow)
    (rest : List (List IndexRow)) :
    (group :: rest).filterMap (groupIndex resolve)
      = (groupIndex resolve group).toList ++ rest.filterMap (groupIndex resolve) := by
  rw [List.filterMap_cons]
  cases groupIndex resolve group <;> rfl

/-- From a run that is made of a group, the rows are read as the group with the rows of its name
behind it, and the groups after it. -/
theorem runIndexes_of_group (resolve : Resolver) (key : Option String) {run : Run}
    {group : List IndexRow} (made : MadeOf run group) (some_rows : group ≠ [])
    (one : OfOneName group) (rows : List IndexRow) :
    runIndexes resolve (runsFrom key (some run) rows)
      = (groups (group ++ ownRows key rows)).filterMap (groupIndex resolve) := by
  induction rows generalizing run group with
  | nil =>
    show runIndexes resolve [run] = (groups (group ++ [])).filterMap (groupIndex resolve)
    rw [runIndexes_cons resolve made some_rows, List.append_nil, groups_of_one some_rows one,
      filterMap_groupIndex_cons]
    rfl
  | cons row rows ih =>
    rw [ownRows_cons]
    cases passed : isPassedOver key row with
    | true =>
      rw [runsFrom_passed passed, if_pos rfl]
      exact ih made some_rows one
    | false =>
      rw [if_neg Bool.false_ne_true]
      by_cases same : run.name = row.index
      · -- The row goes on with the run, and with the group.
        have longer : OfOneName (group ++ [row]) :=
          one.append fun last here => (made.last last here).1.symm.trans same
        rw [runsFrom_same passed same, ih (made.extend same) (by simp) longer, List.append_assoc]
        rfl
      · -- The run is complete, and so is the group.
        have other : ∀ last ∈ group.getLast?, last.index ≠ row.index := by
          intro last here e
          exact same ((made.last last here).1.trans e)
        have others : runsFrom key (some run) (row :: rows)
            = [run] ++ runsFrom key (some (.ofRow row)) rows := by
          refine runsFrom_other passed ?_
          rintro run' ⟨⟩
          exact same
        have next := ih (madeOf_ofRow row) (List.cons_ne_nil row []) (List.isChain_singleton row)
        rw [others, groups_of_other some_rows one other, filterMap_groupIndex_cons]
        show runIndexes resolve (run :: runsFrom key (some (.ofRow row)) rows) = _
        rw [runIndexes_cons resolve made some_rows, next]
        rfl

/-- The rows are read as their groups. -/
theorem runIndexes_runs (resolve : Resolver) (key : Option String) (rows : List IndexRow) :
    runIndexes resolve (runs key rows)
      = (groups (ownRows key rows)).filterMap (groupIndex resolve) := by
  unfold runs
  induction rows with
  | nil => rfl
  | cons row rows ih =>
    rw [ownRows_cons]
    cases passed : isPassedOver key row with
    | true =>
      rw [runsFrom_passed passed, if_pos rfl]
      exact ih
    | false =>
      have begun : runsFrom key none (row :: rows) = runsFrom key (some (.ofRow row)) rows :=
        runsFrom_other passed (by simp)
      have read := runIndexes_of_group resolve key (madeOf_ofRow row) (List.cons_ne_nil row [])
        (List.isChain_singleton row) rows
      rw [if_neg Bool.false_ne_true, begun]
      exact read

/-! ### The indexes of a table -/

/-- The row belongs to no index of its own: it is a statistics row, or bears the name of the primary
key. -/
def Foreign (key : Option String) (row : IndexRow) : Prop :=
  row.kind = .statistic ∨ ∃ name, key = some name ∧ row.index = some name

theorem ownRows_of_foreign {key : Option String} {rows : List IndexRow}
    (foreign : ∀ row ∈ rows, Foreign key row) : ownRows key rows = [] := by
  refine List.filter_eq_nil_iff.mpr ?_
  intro row here
  rw [decide_eq_true_eq]
  rintro ⟨noStatistic, own⟩
  rcases foreign row here with statistic | ⟨name, rfl, named⟩
  · exact noStatistic statistic
  · rcases own with none_given | other
    · cases none_given
    · exact other named

/-- The other indexes that the rows of a catalog report: those of their groups, rows that belong to
no index of their own left out. Such rows may stand anywhere, also within a group. -/
theorem readOthers_of_groups (resolve : Resolver) (table : String) (key : Option String)
    (rows : List IndexRow) :
    (readOthers resolve table key (.ok (rows.map .ok))).1
        = .ok ((groups (ownRows key rows)).filterMap (groupIndex resolve))
      ∧ ∀ before foreign after, rows = before ++ after → (∀ row ∈ foreign, Foreign key row) →
        (readOthers resolve table key (.ok ((before ++ foreign ++ after).map .ok))).1
          = (readOthers resolve table key (.ok (rows.map .ok))).1 := by
  have read (rows : List IndexRow) : (readOthers resolve table key (.ok (rows.map .ok))).1
      = .ok ((groups (ownRows key rows)).filterMap (groupIndex resolve)) := by
    rw [readOthers, rowsOrNotice, toList_of_ok, ← runIndexes_runs]
    rfl
  refine ⟨read rows, ?_⟩
  rintro before foreign after rfl are_foreign
  have left_out : ownRows key (before ++ foreign ++ after) = ownRows key (before ++ after) := by
    have none_own := ownRows_of_foreign are_foreign
    unfold ownRows at none_own ⊢
    rw [List.filter_append, List.filter_append, none_own, List.append_nil, List.filter_append]
  rw [read, read, left_out]

/-- Statistics and a row of the primary key within an index, the last row of which says that it is
unique, and an expression behind the first column of another. -/
theorem readOthers_of_mixed_rows :
    let row (index column : Option String) (nonUnique : Bool) : IndexRow :=
      ⟨index, column, nonUnique, .other, 0⟩
    let before := [row (some "IX") (some "A") true]
    let foreign := [⟨none, none, true, .statistic, 0⟩, row (some "PK") (some "A") false]
    let after := [row (some "IX") (some "A") false, row none (some "A") true, row none none true]
    (∀ r ∈ foreign, Foreign (some "PK") r)
      ∧ (readOthers resolveA "T" (some "PK") (.ok ((before ++ foreign ++ after).map .ok))).1
        = .ok [⟨.unique, [default, default], some "IX"⟩, ⟨.nonUnique, [default], none⟩] := by
  intro row before foreign after
  have are_foreign : ∀ r ∈ foreign, Foreign (some "PK") r := by
    intro r here
    simp only [foreign, List.mem_cons, List.not_mem_nil, or_false] at here
    rcases here with rfl | rfl
    · exact .inl rfl
    · exact .inr ⟨"PK", rfl, rfl⟩
  obtain ⟨read, anywhere⟩ := readOthers_of_groups resolveA "T" (some "PK") (before ++ after)
  refine ⟨are_foreign, (anywhere before foreign after rfl are_foreign).trans ?_⟩
  rw [read]
  rfl

end LinkedTables.Reconstruction
