import LinkedTables.Proofs.CanonicalNames
import Mathlib.Order.Bounds.Basic

/-!
# The order of a primary key

A catalog reports the columns of a primary key in any order, each with its place. The reading puts
them one by one into a list that grows with the places and has holes where no row has come yet. The
invariant is what stands where: behind any rows with distinct places, the column at a place is the
one of the row that has it (`columnAt_keyColumns`).

So the key has the columns at the places 1 to `k`, up to the first that no known column fills, in
whatever order the rows come (`key_of_places`). No rows at all are the key over no columns
(`key_of_no_rows`), which is never asked for: without rows there is no key to read.
-/

namespace LinkedTables.Reconstruction

/-! ### Columns at places -/

/-- The known column at an index, if there is one. -/
def columnAt {α : Type} (columns : List (Option α)) (i : Nat) : Option α := columns[i]?.join

section Places

variable {α : Type} (columns : List (Option α))

/-- Making a list longer makes nothing known. -/
theorem columnAt_padded (n i : Nat) : columnAt (padded n columns) i = columnAt columns i := by
  unfold columnAt padded
  by_cases inside : i < columns.length
  · rw [List.getElem?_append_left inside]
  · have outside : columns.length ≤ i := Nat.le_of_not_lt inside
    rw [List.getElem?_append_right outside, List.getElem?_eq_none outside, List.getElem?_replicate]
    split <;> rfl

/-- A column that is put at its place stands there, and all others stand where they did. -/
theorem columnAt_placed (i : Nat) (column : Option α) :
    ∃ next, placed columns ↑(i + 1) column = .ok next
      ∧ ∀ j, columnAt next j = if j = i then column else columnAt columns j := by
  refine ⟨(padded (i + 1) columns).set i column, ?_, fun j => ?_⟩
  · rw [placed, if_neg (by omega), if_pos (by omega), Int.toNat_natCast, Nat.add_sub_cancel]
  · have long : i < (padded (i + 1) columns).length := by
      rw [padded, List.length_append, List.length_replicate]
      omega
    split
    next here =>
      subst here
      rw [columnAt, List.getElem?_set_self long]
      rfl
    next other =>
      rw [columnAt, List.getElem?_set_ne (Ne.symm other)]
      exact columnAt_padded columns (i + 1) j

/-- The leading known columns stand one behind the other. -/
theorem columnAt_of_leading {i : Nat} {a : α} (here : (leading columns)[i]? = some a) :
    columnAt columns i = some a := by
  rw [columnAt, getElem?_of_leading here]
  rfl

/-- Behind the leading known columns there is no known one. -/
theorem columnAt_length_leading : columnAt columns (leading columns).length = none := by
  induction columns with
  | nil => rfl
  | cons column columns ih =>
    cases column with
    | none => rfl
    | some a => exact ih

end Places

/-! ### The rows of a key -/

/-- A row puts a known column at a place. -/
def Fills (resolve : Resolver) (rows : List KeyRow) (place : Nat) (c : Column) : Prop :=
  ∃ row ∈ rows, row.place = place ∧ resolve row.column = some c

/-- The rows have places, and no two of them the same. -/
structure Placed (rows : List KeyRow) : Prop where
  counted : ∀ row ∈ rows, 1 ≤ row.place
  distinct : (rows.map (·.place)).Nodup

theorem Placed.perm {rows rows' : List KeyRow} (places : Placed rows) (perm : rows'.Perm rows) :
    Placed rows' where
  counted row here := places.counted row (perm.mem_iff.mp here)
  distinct := (perm.map (·.place)).nodup_iff.mpr places.distinct

/-- The row that has a place. -/
def rowAt? (rows : List KeyRow) (place : Nat) : Option KeyRow :=
  rows.find? fun row => row.place == place

theorem place_of_rowAt? {rows : List KeyRow} {row : KeyRow} {place : Nat}
    (found : rowAt? rows place = some row) : row.place = place := by
  have here := List.find?_some found
  exact beq_iff_eq.mp here

/-- Of rows with distinct places, a row is the one that has its place. -/
theorem rowAt?_eq_some {rows : List KeyRow} (places : Placed rows) {row : KeyRow} {place : Nat} :
    rowAt? rows place = some row ↔ row ∈ rows ∧ row.place = place := by
  constructor
  · intro found
    exact ⟨List.mem_of_find?_eq_some found, place_of_rowAt? found⟩
  · rintro ⟨here, its_place⟩
    cases found : rowAt? rows place with
    | none => exact absurd (beq_iff_eq.mpr its_place) (List.find?_eq_none.mp found row here)
    | some other =>
      have there := List.mem_of_find?_eq_some found
      have same : other.place = row.place := (place_of_rowAt? found).trans its_place.symm
      rw [List.inj_on_of_nodup_map places.distinct there here same]

section Rows

variable (resolve : Resolver) {rows : List KeyRow} (places : Placed rows)
include places

/-- Going through rows with distinct places puts the column of each at its place. -/
theorem columnAt_foldlM (columns : List (Option Column)) :
    ∃ next, rows.foldlM (fun columns row => placed columns row.place (resolve row.column)) columns
        = .ok next
      ∧ ∀ i, columnAt next i = match rowAt? rows (i + 1) with
        | some row => resolve row.column
        | none => columnAt columns i := by
  induction rows generalizing columns with
  | nil => exact ⟨columns, rfl, fun _ => rfl⟩
  | cons row rows ih =>
    obtain ⟨apart, distinct⟩ := List.nodup_cons.mp places.distinct
    have later : Placed rows :=
      ⟨fun other here => places.counted other (List.mem_cons_of_mem _ here), distinct⟩
    obtain ⟨k, its_place⟩ : ∃ k : Nat, row.place = ↑(k + 1) := by
      have counted := places.counted row List.mem_cons_self
      exact ⟨(row.place - 1).toNat, by omega⟩
    obtain ⟨first, here, at_first⟩ := columnAt_placed columns k (resolve row.column)
    obtain ⟨next, rest, at_next⟩ := ih later first
    refine ⟨next, by rw [List.foldlM_cons, its_place, here]; exact rest, fun i => ?_⟩
    rw [at_next i]
    by_cases own : i = k
    · -- No later row has the place of this one.
      have none_later : rowAt? rows (i + 1) = none := by
        refine List.find?_eq_none.mpr fun other there same => ?_
        rw [own, ← its_place] at same
        exact apart (List.mem_map.mpr ⟨other, there, beq_iff_eq.mp same⟩)
      have found : rowAt? (row :: rows) (i + 1) = some row :=
        List.find?_cons_of_pos (by rw [its_place, own, beq_self_eq_true])
      rw [none_later, found]
      dsimp only
      rw [at_first i, if_pos own]
    · have passed : rowAt? (row :: rows) (i + 1) = rowAt? rows (i + 1) := by
        refine List.find?_cons_of_neg fun same => own ?_
        have same : row.place = ↑(i + 1) := beq_iff_eq.mp same
        omega
      rw [passed, at_first i, if_neg own]

/-- The column at a place of the key is that of the row with the place. -/
theorem columnAt_keyColumns : ∃ columns, keyColumns resolve rows = .ok columns
    ∧ ∀ i c, columnAt columns i = some c ↔ Fills resolve rows (i + 1) c := by
  obtain ⟨columns, read, at_each⟩ := columnAt_foldlM resolve places []
  refine ⟨columns, read, fun i c => ?_⟩
  rw [at_each i]
  constructor
  · intro here
    split at here
    next row found =>
      obtain ⟨there, its_place⟩ := (rowAt?_eq_some places).mp found
      exact ⟨row, there, its_place, here⟩
    next => cases here
  · rintro ⟨row, there, its_place, found⟩
    rw [(rowAt?_eq_some places).mpr ⟨there, its_place⟩]
    exact found

end Rows

/-! ### The key -/

/-- The index of a primary key; over no columns there is none. -/
def keyOver (columns : List Column) (name : Option String) : Option Index :=
  if columns = [] then none else some ⟨.primaryKey, columns, name⟩

/-- The index of a binding that has columns is the one over its leading known columns. -/
theorem index?_eq_keyOver {columns : List (Option Column)} (some_columns : columns ≠ [])
    (name : Option String) :
    Binding.index? ⟨.primaryKey, columns, name⟩ = keyOver (leading columns) name := by
  cases columns with
  | nil => exact absurd rfl some_columns
  | cons column columns => cases column <;> rfl

/-- A name that says something. -/
def saidName (row : KeyRow) : Option String := row.keyName.filter fun name => !name.isEmpty

theorem keyName_cons {row : KeyRow} {rows : List KeyRow} (more : rows ≠ []) :
    keyName (row :: rows) = (saidName row).or (keyName rows) := by
  rw [keyName]
  · rw [saidName]
    cases row.keyName with
    | none => rfl
    | some name =>
      dsimp only
      rw [Option.filter_some]
      cases name.isEmpty <;> rfl
  · exact more

/-- The name of a key is the first that says something. -/
theorem keyName_of_said {rows : List KeyRow} {name : String}
    (said : rows.findSome? saidName = some name) : keyName rows = some name := by
  induction rows with
  | nil => cases said
  | cons row rows ih =>
    rw [List.findSome?_cons] at said
    by_cases more : rows = []
    · subst more
      cases here : saidName row with
      | none => rw [here] at said; cases said
      | some first =>
        rw [here] at said
        exact (Option.filter_eq_some_iff.mp here).1.trans said
    · rw [keyName_cons more]
      cases here : saidName row with
      | none =>
        rw [here] at said
        exact ih said
      | some first =>
        rw [here] at said
        exact said

/-- Rows that all have place zero are taken in their order. -/
theorem keyColumns_of_zero (resolve : Resolver) {rows : List KeyRow}
    (zero : ∀ row ∈ rows, row.place = 0) :
    keyColumns resolve rows = .ok (rows.map fun row => resolve row.column) := by
  have from_there : ∀ columns : List (Option Column),
      rows.foldlM (fun columns row => placed columns row.place (resolve row.column)) columns
        = .ok (columns ++ rows.map fun row => resolve row.column) := by
    induction rows with
    | nil =>
      intro columns
      rw [List.map_nil, List.append_nil]
      rfl
    | cons row rows ih =>
      intro columns
      obtain ⟨here, later⟩ := List.forall_mem_cons.mp zero
      have next := ih later (columns ++ [resolve row.column])
      rw [List.append_assoc] at next
      rw [List.foldlM_cons, placed, if_pos here]
      exact next
  exact from_there []

/-- What the rows of a key are read as: the index, if there is one, and the name of the key. -/
def keyRead (resolve : Resolver) (rows : List KeyRow) :
    Except Fault (Option Index × Option String) :=
  (keyBinding resolve rows).map fun binding => (binding.index?, binding.name)

/-- A catalog is read as its rows are, if it reports any. -/
theorem readKey_of_rows (resolve : Resolver) (table : String) {feed : Feed KeyRow}
    {rows : List KeyRow} (some_rows : rows ≠ []) (read : feed.toList = .ok rows) :
    (readKey resolve table feed).1 = keyRead resolve rows := by
  have given : rowsOrNotice "primary key" table feed = (.ok rows, []) := by rw [rowsOrNotice, read]
  unfold readKey
  rw [given, keyRead]
  cases rows with
  | nil => exact absurd rfl some_rows
  | cons row rows =>
    dsimp only
    cases keyBinding resolve (row :: rows) <;> rfl

/-- A list into which a column has been put is not empty. -/
theorem placed_ne_nil {columns next : List (Option Column)} {place : Int} {column : Option Column}
    (ok : placed columns place column = .ok next) : next ≠ [] := by
  have known : ∀ c, some c ∈ columns → c ∈ columns.filterMap id ++ column.toList := fun c here =>
    List.mem_append_left _ (List.mem_filterMap.mpr ⟨some c, here, rfl⟩)
  have new : ∀ c, column = some c → c ∈ columns.filterMap id ++ column.toList := fun c here =>
    List.mem_append_right _ (Option.mem_toList.mpr here)
  exact (places_of_placed known new ok).1

theorem keyColumns_ne_nil {resolve : Resolver} {rows : List KeyRow} (some_rows : rows ≠ [])
    {columns : List (Option Column)} (read : keyColumns resolve rows = .ok columns) :
    columns ≠ [] := by
  obtain rfl | ⟨before, row, rfl⟩ := List.eq_nil_or_concat rows
  · exact absurd rfl some_rows
  · rw [keyColumns, List.concat_eq_append, List.foldlM_append] at read
    obtain ⟨_, -, last⟩ := Success.exists_of_bind read
    obtain ⟨_, put, e⟩ := Success.exists_of_bind last
    cases e
    exact placed_ne_nil put

/-- The index of a key is over its leading known columns. -/
theorem keyRead_of_columns {resolve : Resolver} {rows : List KeyRow} (some_rows : rows ≠ [])
    {columns : List (Option Column)} (read : keyColumns resolve rows = .ok columns) :
    keyRead resolve rows = .ok (keyOver (leading columns) (keyName rows), keyName rows) := by
  have index := index?_eq_keyOver (keyColumns_ne_nil some_rows read) (keyName rows)
  rw [keyRead, keyBinding, read]
  exact congrArg (fun index => Except.ok (index, keyName rows)) index

/-- The numbers of places, counted from one, all of which known columns fill. -/
def Reach (resolve : Resolver) (rows : List KeyRow) : Set Nat :=
  {k | ∀ place, 1 ≤ place → place ≤ k → ∃ c, Fills resolve rows place c}

/-- The columns of a key stand at the places from one on, up to the first that no known column
fills. -/
structure InPlace (resolve : Resolver) (rows : List KeyRow) (columns : List Column) : Prop where
  fills : ∀ i c, columns[i]? = some c → Fills resolve rows (i + 1) c
  greatest : IsGreatest (Reach resolve rows) columns.length

theorem inPlace_of_rows (resolve : Resolver) {rows : List KeyRow} (places : Placed rows) :
    ∃ columns, keyColumns resolve rows = .ok columns ∧ InPlace resolve rows (leading columns) := by
  obtain ⟨columns, read, at_each⟩ := columnAt_keyColumns resolve places
  have fills (i : Nat) (c : Column) (here : (leading columns)[i]? = some c) :
      Fills resolve rows (i + 1) c :=
    (at_each i c).mp (columnAt_of_leading columns here)
  refine ⟨columns, read, fills, fun place counted inside => ?_, fun k reached => ?_⟩
  · obtain ⟨i, rfl⟩ : ∃ i, place = i + 1 := ⟨place - 1, by omega⟩
    exact ⟨_, fills i _ (List.getElem?_eq_getElem inside)⟩
  · -- Behind the leading columns comes a place that nothing fills.
    refine Nat.le_of_not_lt fun beyond => ?_
    obtain ⟨c, filled⟩ := reached ((leading columns).length + 1) (by omega) beyond
    have here := (at_each _ c).mpr filled
    rw [columnAt_length_leading] at here
    cases here

/-- Rows of which each has its place leave no choice of columns, whatever their order. -/
theorem InPlace.unique {resolve : Resolver} {rows rows' : List KeyRow}
    {columns columns' : List Column} (places : Placed rows) (perm : rows'.Perm rows)
    (a : InPlace resolve rows columns) (b : InPlace resolve rows' columns') :
    columns' = columns := by
  have same_fills (place : Nat) (c : Column) :
      Fills resolve rows' place c ↔ Fills resolve rows place c := by
    simp only [Fills, perm.mem_iff]
  have same_reach : Reach resolve rows' = Reach resolve rows := by
    simp only [Reach, same_fills]
  have width : columns'.length = columns.length :=
    (same_reach ▸ b.greatest).unique a.greatest
  refine List.ext_getElem width fun i inside' inside => ?_
  obtain ⟨row', there', its_place', found'⟩ :=
    (same_fills _ _).mp (b.fills i _ (List.getElem?_eq_getElem inside'))
  obtain ⟨row, there, its_place, found⟩ := a.fills i _ (List.getElem?_eq_getElem inside)
  obtain rfl := List.inj_on_of_nodup_map places.distinct there' there
    (its_place'.trans its_place.symm)
  exact Option.some.inj (found'.symm.trans found)

/-- The key that some rows report. With distinct places it has the columns at the places 1 to `k`,
where `k` is the greatest number of places that are filled without a gap, and none at all if `k` is
zero; other orders of the rows give the same columns. With the place zero throughout it has the
columns in the order of the rows, up to the first that is not known. Its name is the first that
says something. -/
theorem key_of_places (resolve : Resolver) {rows : List KeyRow} (some_rows : rows ≠ []) :
    (Placed rows → ∃ columns, keyRead resolve rows
          = .ok (keyOver columns (keyName rows), keyName rows)
        ∧ InPlace resolve rows columns
        ∧ ∀ rows', rows'.Perm rows →
          keyRead resolve rows' = .ok (keyOver columns (keyName rows'), keyName rows'))
      ∧ ((∀ row ∈ rows, row.place = 0) → keyRead resolve rows
          = .ok (keyOver (leading (rows.map fun row => resolve row.column)) (keyName rows),
            keyName rows))
      ∧ ∀ name, rows.findSome? saidName = some name → keyName rows = some name := by
  refine ⟨fun places => ?_, fun zero => ?_, fun name => keyName_of_said⟩
  · obtain ⟨columns, read, inPlace⟩ := inPlace_of_rows resolve places
    refine ⟨leading columns, keyRead_of_columns some_rows read, inPlace, fun rows' perm => ?_⟩
    obtain ⟨columns', read', inPlace'⟩ := inPlace_of_rows resolve (places.perm perm)
    have some_rows' : rows' ≠ [] := fun none => some_rows (none ▸ perm).symm.eq_nil
    rw [keyRead_of_columns some_rows' read', inPlace.unique places perm inPlace']
  · exact keyRead_of_columns some_rows (keyColumns_of_zero resolve zero)

/-- Four rows in disorder, with a gap behind the third place; the first name says nothing. -/
theorem key_of_disorder :
    let resolve : Resolver := fun name => some { (default : Column) with name }
    let rows : List KeyRow :=
      [⟨"C", 3, some ""⟩, ⟨"A", 1, some "PK"⟩, ⟨"E", 5, none⟩, ⟨"B", 2, none⟩]
    rows ≠ [] ∧ Placed rows ∧ ∃ columns, columns.map (·.name) = ["A", "B", "C"]
      ∧ InPlace resolve rows columns ∧ ∀ rows', rows'.Perm rows →
        keyRead resolve rows' = .ok (keyOver columns (keyName rows'), keyName rows') := by
  intro resolve rows
  have some_rows : rows ≠ [] := List.cons_ne_nil _ _
  have places : Placed rows := ⟨by decide, by decide⟩
  obtain ⟨columns, read, inPlace, any_order⟩ := (key_of_places resolve some_rows).1 places
  have names : (keyRead resolve rows).map (fun key => key.1.map (·.columnNames))
      = .ok (some ["A", "B", "C"]) := rfl
  refine ⟨some_rows, places, columns, ?_, inPlace, any_order⟩
  rw [read] at names
  cases columns with
  | nil => cases names
  | cons c columns => exact Option.some.inj (Except.ok.inj names)

/-- No rows fill no place, and are read as a key over no columns. -/
theorem key_of_no_rows : ¬ ∀ (resolve : Resolver) (rows : List KeyRow), Placed rows →
    IsGreatest (Reach resolve rows) 0 → ∃ name, keyRead resolve rows = .ok (none, name) := by
  intro without
  have reach : IsGreatest (Reach (fun _ => none) []) 0 := by
    refine ⟨fun place counted none => by omega, fun k reached => Nat.le_of_not_lt fun more => ?_⟩
    obtain ⟨c, row, there, -⟩ := reached 1 (Nat.le_refl 1) more
    cases there
  obtain ⟨name, read⟩ := without (fun _ => none) [] ⟨by simp, by simp⟩ reach
  cases read

end LinkedTables.Reconstruction
