import LinkedTables.Catalog.Inspection
import LinkedTables.Proofs.PrimaryKeyOrder
import Mathlib.Data.List.ReduceOption

/-!
# Indexes by inspection

An inspector reports the primary key, the indexes and the unique constraints of a table each as a
whole; its catalog breaks the reports up into one row for each column, and the reading of indexes
puts the rows together again by the names that neighbours share. `readIndexes_of_reports` says that
nothing is lost or mixed up on the way: as long as no two indexes and no two constraints share a
name, what is read is `inspected`, which is told from the reports alone. Only indexes are over
expressions, which are reported as columns without a name; the columns of a primary key all have
names.

Two facts carry it. The places of a reported key are those of its columns (`keyColumns_of_places`).
And the rows of one report make up one run, however the names of the reports before it end
(`runsFrom_rows`), because the names are distinct and a report without columns leaves no rows
(`runs_of_reports`).
-/

namespace LinkedTables.Reconstruction

/-! ### What the reports amount to -/

section Reports

variable (resolve : Resolver)

/-- The columns found for reported names, up to the first name for which there is none. -/
def found (names : List (Option String)) : List Column :=
  ((names.map (resolved resolve)).takeWhile Option.isSome).reduceOption

/-- The index over the columns found for a report, if there are any. -/
def indexFor (kind : IndexKind) (report : KeyReport) : Option Index :=
  if found resolve report.columns = [] then none
  else some ⟨kind, found resolve report.columns, report.name⟩

/-- The name of a primary key that has columns. -/
def nameTaken (key : Option KeyReport) : Option String :=
  key.bind fun report => if report.columns = [] then none else report.name

/-- The report bears a name that is taken. -/
def bears (taken : Option String) (report : KeyReport) : Bool :=
  taken.isSome && report.name == taken

/-- The constraint has a name that is not empty and that no index bears. -/
def hasOwnName (indexes : List KeyReport) (constraint : KeyReport) : Bool :=
  constraint.name.any fun name => name ≠ "" ∧ ∀ index ∈ indexes, index.name ≠ some name

/-- The indexes that the reports amount to: the primary key, then the indexes in their order, then
the unique constraints. -/
def inspected (key : Option KeyReport) (indexes uniques : List KeyReport) : List Index :=
  (key.bind (indexFor resolve .primaryKey)).toList
    ++ ((indexes.filter fun index => !bears (nameTaken key) index).filterMap fun index =>
      indexFor resolve (.ofUnique index.unique) index)
    ++ ((uniques.filter fun u => hasOwnName indexes u && !bears (nameTaken key) u).filterMap
      (indexFor resolve .unique))

end Reports

/-! ### Bindings -/

theorem leading_eq_reduceOption {α : Type} (xs : List (Option α)) :
    leading xs = (xs.takeWhile Option.isSome).reduceOption := by
  induction xs with
  | nil => rfl
  | cons x xs ih =>
    cases x with
    | none => rfl
    | some a =>
      rw [leading, ih]
      rfl

/-- The index of a binding over reported names is the one over the columns found for them. -/
theorem index?_of_names (resolve : Resolver) (kind : IndexKind) {report : KeyReport}
    (some_columns : report.columns ≠ []) :
    Binding.index? ⟨kind, report.columns.map (resolved resolve), report.name⟩
      = indexFor resolve kind report := by
  obtain ⟨name, columns, unique⟩ := report
  cases columns with
  | nil => exact absurd rfl some_columns
  | cons first rest =>
    unfold Binding.index? indexFor found
    rw [List.map_cons, ← leading_eq_reduceOption]
    cases resolved resolve first <;> simp [leading]

/-! ### Rows that can be read -/

theorem readable_of_ok {α : Type} (rows : List α) :
    readable (rows.map Except.ok) = (rows, none) := by
  induction rows with
  | nil => rfl
  | cons row rows ih => rw [List.map_cons, readable, ih]

theorem toList_of_ok {α : Type} (rows : List α) :
    Feed.toList (.ok (rows.map Except.ok)) = .ok rows := by
  simp only [Feed.toList, readable_of_ok]

/-! ### The primary key -/

/-- The rows of a key over named columns, whose places are counted from a number on. -/
def placedRows (keyName : Option String) (start : Nat) (names : List String) : List KeyRow :=
  (names.zipIdx start).map fun (name, i) => ⟨name, ↑(i + 1), keyName⟩

/-- A column whose place is the next one is put behind the others. -/
theorem placed_next (columns : List (Option Column)) (column : Option Column) :
    placed columns ↑(columns.length + 1) column = .ok (columns ++ [column]) := by
  have positive : (0 : Int) < ↑(columns.length + 1) := by omega
  rw [placed, if_neg (by omega), if_pos positive, Int.toNat_natCast, padded]
  simp

/-- Each column of a key gets the place of its name. -/
theorem keyColumns_of_places (resolve : Resolver) (keyName : Option String) (names : List String) :
    keyColumns resolve (placedRows keyName 0 names) = .ok (names.map resolve) := by
  -- the columns so far are as many as the places that are taken
  have from_there : ∀ columns : List (Option Column),
      (placedRows keyName columns.length names).foldlM
        (fun columns row => placed columns row.place (resolve row.column)) columns
          = .ok (columns ++ names.map resolve) := by
    induction names with
    | nil =>
      intro columns
      rw [List.map_nil, List.append_nil]
      rfl
    | cons name names ih =>
      intro columns
      have next := ih (columns ++ [resolve name])
      rw [List.length_append, List.length_singleton, List.append_assoc] at next
      rw [placedRows, List.zipIdx_cons, List.map_cons, List.foldlM_cons, placed_next]
      exact next
  exact from_there []

/-- Where all rows of a key give one name, that is the name of the key. -/
theorem keyName_of_all {rows : List KeyRow} {name : Option String} (some_rows : rows ≠ [])
    (same : ∀ row ∈ rows, row.keyName = name) : keyName rows = name := by
  induction rows with
  | nil => exact absurd rfl some_rows
  | cons row rows ih =>
    obtain ⟨here, same⟩ := List.forall_mem_cons.mp same
    cases rows with
    | nil => exact here
    | cons second rest =>
      have later := ih (List.cons_ne_nil _ _) same
      rw [keyName, here, later]
      · cases name with
        | none => rfl
        | some text => exact ite_self _
      · exact List.cons_ne_nil _ _

/-- Columns none of which lacks a name are given by their names. -/
theorem exists_names {columns : List (Option String)} (named : none ∉ columns) :
    ∃ names : List String, columns = names.map some := by
  induction columns with
  | nil => exact ⟨[], rfl⟩
  | cons column columns ih =>
    obtain ⟨names, rfl⟩ := ih fun later => named (List.mem_cons_of_mem _ later)
    cases column with
    | none => exact absurd (List.mem_cons_self ..) named
    | some name => exact ⟨name :: names, rfl⟩

/-- The rows of a reported key all of whose columns have names. -/
theorem keyRows_of_names {inspector : Inspector} {report : KeyReport} {names : List String}
    (reported : inspector.primaryKey = .ok (some report))
    (named : report.columns = names.map some) :
    inspector.keyRows = .ok ((placedRows report.name 0 names).map Except.ok) := by
  rw [Inspector.keyRows, reported, placedRows, List.map_map]
  show Except.ok (report.columns.zipIdx.map _) = _
  rw [named, List.zipIdx_map, List.map_map]
  rfl

theorem placedRows_ne_nil {keyName : Option String} {start : Nat} {names : List String}
    (some_names : names ≠ []) : placedRows keyName start names ≠ [] := by
  obtain ⟨name, rest, rfl⟩ := List.exists_cons_of_ne_nil some_names
  exact List.cons_ne_nil _ _

/-- The rows of a reported key that has columns are read as the key over the columns found for
them. -/
theorem keyRead_of_report (resolve : Resolver) {report : KeyReport} {names : List String}
    (named : report.columns = names.map some) (some_names : names ≠ []) :
    keyRead resolve (placedRows report.name 0 names)
      = .ok (indexFor resolve .primaryKey report, report.name) := by
  -- All rows of the report bear its name, and their places are in order.
  have one_name : keyName (placedRows report.name 0 names) = report.name := by
    refine keyName_of_all (placedRows_ne_nil some_names) fun row here => ?_
    obtain ⟨_, _, rfl⟩ := List.mem_map.mp here
    rfl
  have columns : names.map resolve = report.columns.map (resolved resolve) := by
    rw [named, List.map_map]
    rfl
  have some_columns : report.columns ≠ [] := by rwa [named, ne_eq, List.map_eq_nil_iff]
  rw [keyRead, keyBinding, keyColumns_of_places, one_name, columns,
    ← index?_of_names resolve .primaryKey some_columns]
  rfl

/-- The primary key that is read is over the columns found for the reported ones, and its name is
taken if it has columns. -/
theorem readKey_of_report {inspector : Inspector} {key : Option KeyReport} (resolve : Resolver)
    (table : String) (reported : inspector.primaryKey = .ok key)
    (named : ∀ report ∈ key, none ∉ report.columns) :
    (readKey resolve table inspector.keyRows).1
      = .ok (key.bind (indexFor resolve .primaryKey), nameTaken key) := by
  cases key with
  | none =>
    rw [Inspector.keyRows, reported]
    rfl
  | some report =>
    obtain ⟨names, e⟩ := exists_names (named report rfl)
    have rows : inspector.keyRows.toList = .ok (placedRows report.name 0 names) := by
      rw [keyRows_of_names reported e, toList_of_ok]
    by_cases some_names : names = []
    · subst some_names
      have no_columns : report.columns = [] := e
      have nothing : indexFor resolve .primaryKey report = none := by
        rw [indexFor, no_columns]
        rfl
      rw [readKey, rowsOrNotice, rows, Option.bind_some, nothing, nameTaken, Option.bind_some,
        if_pos no_columns]
      rfl
    · have some_columns : report.columns ≠ [] := by rwa [e, ne_eq, List.map_eq_nil_iff]
      have taken : nameTaken (some report) = report.name := if_neg some_columns
      rw [readKey_of_rows resolve table (placedRows_ne_nil some_names) rows,
        keyRead_of_report resolve e some_names, Option.bind_some, taken]

/-! ### Runs of rows -/

section Runs

variable {key : Option String} {current : Option Run} {report : KeyReport} {rest : List IndexRow}

/-- The run that the rows of a report make up. -/
def runOf (report : KeyReport) : Run := ⟨report.name, report.unique, report.columns⟩

/-- The row of a report for a column at a place. -/
def rowAt (report : KeyReport) (column : Option String) (place : Nat) : IndexRow :=
  ⟨report.name, column, !report.unique, .other, place⟩

/-- The rows of a report, whose places are counted from a number on. -/
def rowsFrom (report : KeyReport) (start : Nat) (columns : List (Option String)) : List IndexRow :=
  (columns.zipIdx start).map fun (column, i) => rowAt report column (i + 1)

theorem rowsFrom_cons (report : KeyReport) (start : Nat) (column : Option String)
    (columns : List (Option String)) :
    rowsFrom report start (column :: columns)
      = rowAt report column (start + 1) :: rowsFrom report (start + 1) columns := rfl

theorem indexRows_eq (report : KeyReport) :
    Inspector.indexRows report.unique report = rowsFrom report 0 report.columns := rfl

theorem isPassedOver_rowAt (column : Option String) (place : Nat) :
    isPassedOver key (rowAt report column place) = bears key report := rfl

/-- A row that is passed over leaves the current run as it is. -/
theorem runsFrom_passed {row : IndexRow} (passed : isPassedOver key row = true) :
    runsFrom key current (row :: rest) = runsFrom key current rest := by
  cases current <;> rw [runsFrom, if_pos passed]

/-- A row of the name of the current run continues it. -/
theorem runsFrom_same {row : IndexRow} {run : Run} (kept : isPassedOver key row = false)
    (same : run.name = row.index) :
    runsFrom key (some run) (row :: rest) = runsFrom key (some (run.extend row)) rest := by
  rw [runsFrom, if_neg (by rw [kept]; decide), if_pos same]

/-- A row of another name ends the current run and begins one. -/
theorem runsFrom_other {row : IndexRow} (kept : isPassedOver key row = false)
    (other : ∀ run, current = some run → run.name ≠ row.index) :
    runsFrom key current (row :: rest)
      = current.toList ++ runsFrom key (some (.ofRow row)) rest := by
  cases current with
  | none =>
    rw [runsFrom, if_neg (by rw [kept]; decide)]
    rfl
  | some run =>
    rw [runsFrom, if_neg (by rw [kept]; decide), if_neg (other run rfl)]
    rfl

theorem runsFrom_append_of_passed {rows : List IndexRow}
    (passed : ∀ row ∈ rows, isPassedOver key row = true) :
    runsFrom key current (rows ++ rest) = runsFrom key current rest := by
  induction rows with
  | nil => rfl
  | cons row rows ih =>
    obtain ⟨here, passed⟩ := List.forall_mem_cons.mp passed
    rw [List.cons_append, runsFrom_passed here, ih passed]

/-- The rows of a report continue the run that it has begun. -/
theorem runsFrom_continued (shown : bears key report = false) (start : Nat)
    (columns before : List (Option String)) :
    runsFrom key (some ⟨report.name, report.unique, before⟩)
        (rowsFrom report start columns ++ rest)
      = runsFrom key (some ⟨report.name, report.unique, before ++ columns⟩) rest := by
  induction columns generalizing start before with
  | nil =>
    rw [List.append_nil]
    rfl
  | cons column columns ih =>
    have later := ih (start + 1) (before ++ [column])
    rw [List.append_assoc, List.singleton_append] at later
    have kept := (isPassedOver_rowAt column (start + 1)).trans shown
    rw [← later, rowsFrom_cons, List.cons_append, runsFrom_same kept rfl, Run.extend, rowAt,
      Bool.not_not]

/-- The rows of a report that has columns end the current run, which bears another name, and make up
one run. -/
theorem runsFrom_rows (shown : bears key report = false) (some_columns : report.columns ≠ [])
    (other : ∀ run, current = some run → run.name ≠ report.name) :
    runsFrom key current (Inspector.indexRows report.unique report ++ rest)
      = current.toList ++ runsFrom key (some (runOf report)) rest := by
  obtain ⟨first, others, e⟩ := List.exists_cons_of_ne_nil some_columns
  have kept := (isPassedOver_rowAt first 1).trans shown
  rw [indexRows_eq, runOf, e, rowsFrom_cons, List.cons_append, runsFrom_other kept other, Run.ofRow,
    rowAt, Bool.not_not, runsFrom_continued shown]
  rfl

/-- The rows of reports with distinct names make up the runs of those that have columns and are not
passed over. -/
theorem runs_of_reports {reports : List KeyReport} (distinct : (reports.map (·.name)).Nodup)
    (fresh : ∀ run, current = some run → run.name ∉ reports.map (·.name)) :
    runsFrom key current (reports.flatMap fun report => Inspector.indexRows report.unique report)
      = current.toList
        ++ (reports.filter fun r => !bears key r && r.columns ≠ []).map runOf := by
  induction reports generalizing current with
  | nil => simp [runsFrom]
  | cons report reports ih =>
    rw [List.map_cons, List.nodup_cons] at distinct
    obtain ⟨new, distinct⟩ := distinct
    have fresh_later : ∀ run, current = some run → run.name ∉ reports.map (·.name) :=
      fun run e h => fresh run e (List.mem_cons_of_mem _ h)
    rw [List.flatMap_cons, List.filter_cons]
    -- A report begins a run of its own, as its name is new, unless none of its rows count.
    by_cases leaves : bears key report = false ∧ report.columns ≠ []
    · obtain ⟨shown, some_columns⟩ := leaves
      have other : ∀ run, current = some run → run.name ≠ report.name :=
        fun run e h => fresh run e (h ▸ List.mem_cons_self ..)
      have next : ∀ run, some (runOf report) = some run → run.name ∉ reports.map (·.name) := by
        rintro run ⟨⟩
        exact new
      rw [runsFrom_rows shown some_columns other, ih distinct next, if_pos (by simp [*])]
      rfl
    · have passed : ∀ row ∈ Inspector.indexRows report.unique report,
          isPassedOver key row = true := by
        intro row here
        obtain ⟨⟨column, i⟩, inside, rfl⟩ := List.mem_map.mp here
        refine (isPassedOver_rowAt column (i + 1)).trans ?_
        by_contra shown
        refine leaves ⟨by simpa using shown, fun none_left => ?_⟩
        rw [none_left] at inside
        cases inside
      rw [runsFrom_append_of_passed passed, ih distinct fresh_later, if_neg (by simpa using leaves)]

end Runs

/-! ### The other indexes -/

section Others

variable {inspector : Inspector} {indexes uniques : List KeyReport}

/-- The reports of the other indexes: the indexes, and the constraints that stand apart from them,
which are unique. -/
def otherReports (indexes uniques : List KeyReport) : List KeyReport :=
  indexes ++ (uniques.filter (hasOwnName indexes)).map fun u => { u with unique := true }

theorem isApart_eq_hasOwnName (indexes : List KeyReport) (constraint : KeyReport) :
    Inspector.isApart indexes constraint = hasOwnName indexes constraint := by
  unfold Inspector.isApart hasOwnName
  cases constraint.name with
  | none => rfl
  | some name =>
    rw [Bool.eq_iff_iff]
    simp

theorem allIndexRows_of_reports (hi : inspector.indexes = .ok indexes)
    (hu : inspector.uniques = .ok uniques) :
    inspector.allIndexRows
      = .ok (((otherReports indexes uniques).flatMap fun report =>
          Inspector.indexRows report.unique report).map Except.ok) := by
  have same : Inspector.isApart indexes = hasOwnName indexes :=
    funext (isApart_eq_hasOwnName indexes)
  rw [Inspector.allIndexRows, hi]
  simp only [Except.map, hu, same, otherReports, List.flatMap_append, List.map_append,
    List.flatMap_map]
  rfl

/-- No two of the other reports share a name. -/
theorem nodup_otherReports (names : (indexes.map (·.name)).Nodup)
    (unique_names : (uniques.map (·.name)).Nodup) :
    ((otherReports indexes uniques).map (·.name)).Nodup := by
  rw [otherReports, List.map_append, List.map_map]
  refine List.nodup_append.mpr ⟨names, ?_, ?_⟩
  · exact unique_names.sublist (List.filter_sublist.map _)
  · rintro name of_index _ of_unique rfl
    obtain ⟨index, hi, e⟩ := List.mem_map.mp of_index
    obtain ⟨u, hu, rfl⟩ := List.mem_map.mp of_unique
    obtain ⟨text, named, own⟩ := (Option.any_eq_true _ _).mp (List.mem_filter.mp hu).2
    exact (of_decide_eq_true own).2 index hi (e.trans named)

/-- The index of a kind over a report is made of its run, and a report without columns has none. -/
theorem filterMap_of_reports (resolve : Resolver) (key : Option String)
    (reports : List KeyReport) :
    ((((reports.filter fun r => !bears key r && r.columns ≠ []).map runOf).map
        (Run.binding resolve)).filterMap (·.index?))
      = (reports.filter fun r => !bears key r).filterMap fun r =>
          indexFor resolve (.ofUnique r.unique) r := by
  induction reports with
  | nil => rfl
  | cons report reports ih =>
    rw [List.filter_cons, List.filter_cons]
    cases bears key report with
    | true => exact ih
    | false =>
      by_cases none_left : report.columns = []
      · have left_out : indexFor resolve (.ofUnique report.unique) report = none := by
          rw [indexFor, none_left]
          rfl
        simpa [none_left, left_out] using ih
      · have made : (Run.binding resolve (runOf report)).index?
            = indexFor resolve (.ofUnique report.unique) report := index?_of_names _ _ none_left
        rw [if_pos (by simp [none_left]), if_pos (show (!false) = true from rfl), List.map_cons,
          List.map_cons, List.filterMap_cons, List.filterMap_cons, made, ih]

/-- The other indexes that are read are those of the reports that have columns and do not bear the
name of the primary key. -/
theorem readOthers_of_reports (resolve : Resolver) (table : String) (key : Option String)
    (hi : inspector.indexes = .ok indexes) (hu : inspector.uniques = .ok uniques)
    (names : (indexes.map (·.name)).Nodup) (unique_names : (uniques.map (·.name)).Nodup) :
    (readOthers resolve table key inspector.allIndexRows).1
      = .ok (((otherReports indexes uniques).filter fun r => !bears key r).filterMap fun r =>
          indexFor resolve (.ofUnique r.unique) r) := by
  have all_runs : runsFrom key none ((otherReports indexes uniques).flatMap fun report =>
        Inspector.indexRows report.unique report)
      = Option.toList none ++ ((otherReports indexes uniques).filter fun r =>
          !bears key r && r.columns ≠ []).map runOf :=
    runs_of_reports (nodup_otherReports names unique_names) (by simp)
  rw [allIndexRows_of_reports hi hu, readOthers, rowsOrNotice, toList_of_ok]
  dsimp only
  rw [indexBindings, runs, all_runs, Option.toList_none, List.nil_append, filterMap_of_reports]

end Others

/-! ### Both parts -/

section Both

variable {inspector : Inspector} {key : Option KeyReport} {indexes uniques : List KeyReport}

/-- The constraints that stand apart come after the indexes as unique ones. -/
theorem inspected_eq (resolve : Resolver) (key : Option KeyReport)
    (indexes uniques : List KeyReport) :
    inspected resolve key indexes uniques
      = (key.bind (indexFor resolve .primaryKey)).toList
        ++ ((otherReports indexes uniques).filter fun r => !bears (nameTaken key) r).filterMap
            fun r => indexFor resolve (.ofUnique r.unique) r := by
  have swapped : (uniques.filter fun u => hasOwnName indexes u && !bears (nameTaken key) u)
      = (uniques.filter (hasOwnName indexes)).filter fun u => !bears (nameTaken key) u := by
    rw [List.filter_filter]
    exact List.filter_congr fun u _ => Bool.and_comm ..
  rw [inspected, otherReports, List.filter_append, List.filterMap_append, List.filter_map,
    List.filterMap_map, swapped, List.append_assoc]
  rfl

/-- Whatever an inspector reports, without two indexes or two constraints of one name, its catalog
leads to the indexes that the reports amount to. -/
theorem readIndexes_of_reports (resolve : Resolver) (flags : Dialect.Flags)
    (schema : Option String) (table : String) (hk : inspector.primaryKey = .ok key)
    (hi : inspector.indexes = .ok indexes) (hu : inspector.uniques = .ok uniques)
    (named : ∀ report ∈ key, none ∉ report.columns)
    (names : (indexes.map (·.name)).Nodup) (unique_names : (uniques.map (·.name)).Nodup) :
    (readIndexes resolve table ((inspector.catalog flags).primaryKeys schema table)
        ((inspector.catalog flags).indexInfo schema table)).1
      = .ok (inspected resolve key indexes uniques) := by
  show (readIndexes resolve table inspector.keyRows inspector.allIndexRows).1 = _
  have primary := readKey_of_report resolve table hk named
  have others := readOthers_of_reports resolve table (nameTaken key) hi hu names unique_names
  unfold readIndexes
  rw [inspected_eq]
  generalize readKey resolve table inspector.keyRows = first at primary ⊢
  obtain ⟨_, notices⟩ := first
  cases primary
  dsimp only
  generalize readOthers resolve table (nameTaken key) inspector.allIndexRows = second at others ⊢
  obtain ⟨_, more⟩ := second
  cases others
  rfl

end Both

/-! ### A table -/

/-- An inspector that reports a primary key, indexes and unique constraints, and nothing else. -/
def inspectorOf (key : Option KeyReport) (indexes uniques : List KeyReport) : Inspector where
  schemas := .ok []
  hasTable _ _ := .ok true
  columns _ := .ok []
  primaryKey := .ok key
  indexes := .ok indexes
  uniques := .ok uniques

/-- The only column that is known: `A`. -/
def resolveA : Resolver := fun name => if name = "A" then some default else none

/-- An index of the name of the primary key is left out, an index ends before an expression, and a
constraint of the name of an index is left out. -/
theorem readIndexes_of_key_and_expression :
    let key : KeyReport := ⟨some "PK", [some "A", some "B"], true⟩
    let indexes : List KeyReport :=
      [⟨some "PK", [some "A"], true⟩, ⟨some "IX", [some "A", none, some "A"], false⟩,
        ⟨none, [none], true⟩]
    let uniques : List KeyReport := [⟨some "IX", [some "A"], true⟩, ⟨some "UX", [some "A"], true⟩]
    let catalog := (inspectorOf (some key) indexes uniques).catalog .none
    (readIndexes resolveA "T" (catalog.primaryKeys none "T") (catalog.indexInfo none "T")).1
      = .ok [⟨.primaryKey, [default], some "PK"⟩, ⟨.nonUnique, [default], some "IX"⟩,
          ⟨.unique, [default], some "UX"⟩] := by
  intro key indexes uniques catalog
  refine (readIndexes_of_reports resolveA .none none "T" rfl rfl rfl ?_ ?_ ?_).trans rfl
  · rintro _ ⟨⟩
    decide
  · decide
  · decide

end LinkedTables.Reconstruction
