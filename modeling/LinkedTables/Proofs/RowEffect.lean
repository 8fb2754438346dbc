import LinkedTables.Proofs.Shapes
import LinkedTables.Sql.RowStatement

/-!
# What statements do to rows

`RowStatement.effect` is the standard meaning of a statement for the rows of a remote table: a row
is selected where each of the conditions holds, a comparison with null never holds, and a column
that is given no value gets its default. Two rows are like each other if a condition on every column
tells them to be the same (`rowLike`). For a table whose columns are numbered, none of them a large
object, the statement that deletes a row deletes the rows that are like it, and the one that updates
a row turns them into the new one (`effect_deleteRow`, `effect_updateRow`).
-/

namespace LinkedTables.Sql

/-- What a remote side makes of values: which of them are equal, which are in order, and what a
column gets by default. -/
structure Meaning where
  equal : Value → Value → Bool
  upTo : Value → Value → Bool
  default : Column → Value
  equivalence : Equivalence fun v w => equal v w = true

/-- Whether the value of a column passes a test. -/
def Test.holds (m : Meaning) (v : Value) : Test → Bool
  | isNull => v.isNull
  | equals w => !v.isNull && !w.isNull && m.equal v w
  | atLeast w => !v.isNull && !w.isNull && m.upTo w v
  | atMost w => !v.isNull && !w.isNull && m.upTo v w

/-- The value of a row at a place. -/
def valueOf (row : List Value) (i : Nat) : Value := row.getD i .null

/-- Whether a row satisfies a condition. -/
def Condition.holds (m : Meaning) (row : List Value) (c : Condition) : Bool :=
  c.test.holds m (valueOf row c.column.ordinal)

/-- A row behind assignments. -/
def assigning (m : Meaning) (assignments : List (Column × Option Value)) (row : List Value) :
    List Value :=
  row.mapIdx fun i v =>
    match assignments.find? fun a => a.1.ordinal == i with
    | some a => a.2.getD (m.default a.1)
    | none => v

/-- The row that is made of cells. -/
def inserted (m : Meaning) (columns : List Column) (cells : List (Column × Value)) : List Value :=
  columns.map fun c =>
    match cells.find? fun cell => cell.1.ordinal == c.ordinal with
    | some cell => cell.2
    | none => m.default c

/-- The rows of a table with the given columns behind a statement. -/
def RowStatement.effect (m : Meaning) (columns : List Column) (rows : List (List Value)) :
    RowStatement → List (List Value)
  | select _ => rows
  | insert cells => rows ++ [inserted m columns cells]
  | update assignments cs =>
    rows.map fun row => if cs.all (Condition.holds m row) then assigning m assignments row else row
  | delete cs => rows.filter fun row => !cs.all (Condition.holds m row)

/-! ### Rows that are alike -/

/-- Rows that cannot be told apart by conditions on so many columns. -/
def rowLike (m : Meaning) (width : Nat) (row other : List Value) : Bool :=
  (List.range width).all fun i => (testOf (valueOf row i)).holds m (valueOf other i)

section Likeness

variable (m : Meaning)

theorem testOf_holds (v w : Value) :
    (testOf v).holds m w
      = (v.isNull && w.isNull || !v.isNull && !w.isNull && m.equal w v) := by
  cases v <;> simp [testOf, Test.holds, Value.isNull, Bool.and_comm]

theorem valueLike_equivalence : Equivalence fun v w => (testOf v).holds m w = true where
  refl v := by
    rw [testOf_holds, m.equivalence.refl]
    cases v.isNull <;> rfl
  symm := by
    intro v w h
    rw [testOf_holds] at h ⊢
    cases hv : v.isNull <;> cases hw : w.isNull <;> rw [hv, hw] at h <;> simp_all
    exact m.equivalence.symm h
  trans := by
    intro v w x h k
    rw [testOf_holds] at h k ⊢
    cases hv : v.isNull <;> cases hw : w.isNull <;> cases hx : x.isNull <;> simp_all
    exact m.equivalence.trans k h

/-- Being alike is an equivalence of rows. -/
theorem rowLike_equivalence (width : Nat) :
    Equivalence fun row other => rowLike m width row other = true where
  refl _ := List.all_eq_true.mpr fun _ _ => (valueLike_equivalence m).refl _
  symm h := List.all_eq_true.mpr fun i hi =>
    (valueLike_equivalence m).symm (List.all_eq_true.mp h i hi)
  trans h k := List.all_eq_true.mpr fun i hi =>
    (valueLike_equivalence m).trans (List.all_eq_true.mp h i hi) (List.all_eq_true.mp k i hi)

end Likeness

/-! ### Numbered columns -/

section Columns

variable {columns : List Column} (numbered : Numbered columns)
include numbered

/-- The places of numbered columns. -/
theorem map_ordinal : columns.map (·.ordinal) = List.range columns.length := by
  refine List.ext_getElem? fun i => ?_
  rw [List.getElem?_map]
  cases found : columns[i]? with
  | none =>
    rw [List.getElem?_eq_none]
    · rfl
    · rw [List.length_range]
      exact List.getElem?_eq_none_iff.mp found
  | some c =>
    obtain ⟨inside, -⟩ := List.getElem?_eq_some_iff.mp found
    rw [List.getElem?_range inside, Option.map_some, numbered i c found]

theorem ordinal_lt {c : Column} (hc : c ∈ columns) : c.ordinal < columns.length := by
  have place : c.ordinal ∈ columns.map (·.ordinal) := List.mem_map_of_mem hc
  rw [map_ordinal numbered] at place
  exact List.mem_range.mp place

/-- The column at a place. -/
theorem find?_ordinal (i : Nat) : (columns.find? fun c => c.ordinal == i) = columns[i]? := by
  cases found : columns.find? fun c => c.ordinal == i with
  | some c =>
    have here := List.find?_some found
    obtain ⟨j, hj⟩ := List.mem_iff_getElem?.mp (List.mem_of_find?_eq_some found)
    obtain rfl : j = i := (numbered j c hj).symm.trans (beq_iff_eq.mp here)
    exact hj.symm
  | none =>
    cases there : columns[i]? with
    | none => rfl
    | some c =>
      have missed := List.find?_eq_none.mp found c (List.mem_of_getElem? there)
      exact absurd (beq_iff_eq.mpr (numbered i c there)) missed

/-- What stands for the column at a place. -/
theorem find?_cells {α : Type} (g : Column → α) (i : Nat) :
    ((columns.map fun c => (c, g c)).find? fun a => a.1.ordinal == i)
      = columns[i]?.map fun c => (c, g c) := by
  rw [List.find?_map, ← find?_ordinal numbered]
  rfl

/-- The row that is made of the values of a row. -/
theorem inserted_values (m : Meaning) {row : List Value} (width : row.length = columns.length) :
    inserted m columns (columns.map fun c => (c, valueOf row c.ordinal)) = row := by
  refine List.ext_getElem (by rw [inserted, List.length_map, width]) fun i inside inside' => ?_
  have known : i < columns.length := width ▸ inside'
  have place := numbered i _ (List.getElem?_eq_getElem known)
  simp only [inserted, List.getElem_map, find?_cells numbered, place,
    List.getElem?_eq_getElem known, Option.map_some]
  rw [valueOf, List.getD_eq_getElem?_getD, List.getElem?_eq_getElem inside', Option.getD_some]

/-- A row that is assigned the values of another becomes that one. -/
theorem assigning_values (m : Meaning) {row other : List Value}
    (width : row.length = columns.length) (width' : other.length = columns.length) :
    assigning m (columns.map fun c => (c, some (valueOf row c.ordinal))) other = row := by
  refine List.ext_getElem (by rw [assigning, List.length_mapIdx, width, width'])
    fun i inside inside' => ?_
  have known : i < columns.length := width ▸ inside'
  have place := numbered i _ (List.getElem?_eq_getElem known)
  simp only [assigning, List.getElem_mapIdx, find?_cells numbered,
    List.getElem?_eq_getElem known, Option.map_some, Option.getD_some]
  rw [valueOf, place, List.getD_eq_getElem?_getD, List.getElem?_eq_getElem inside',
    Option.getD_some]

/-- A row satisfies the conditions that tell another if the two are alike. -/
theorem all_conditions (m : Meaning) (row other : List Value) :
    (columns.map fun c => (⟨c, testOf (valueOf row c.ordinal)⟩ : Condition)).all
      (Condition.holds m other) = rowLike m columns.length row other := by
  rw [rowLike, ← map_ordinal numbered, List.all_map, List.all_map]
  rfl

/-! ### Statements for rows -/

theorem valueAt_ok {row : List Value} (width : row.length = columns.length) {c : Column}
    (hc : c ∈ columns) : valueAt row c = .ok (valueOf row c.ordinal) := by
  have inside : c.ordinal < row.length := width ▸ ordinal_lt numbered hc
  rw [valueAt, valueOf, List.getD_eq_getElem?_getD, List.getElem?_eq_getElem inside]
  rfl

theorem valueOf_mem {row : List Value} (width : row.length = columns.length) {c : Column}
    (hc : c ∈ columns) : valueOf row c.ordinal ∈ row := by
  have inside : c.ordinal < row.length := width ▸ ordinal_lt numbered hc
  rw [valueOf, List.getD_eq_getElem?_getD, List.getElem?_eq_getElem inside]
  exact List.getElem_mem inside

/-- The values of the conditions that tell a row are its own. -/
theorem mem_of_mem_allParams {row : List Value} (width : row.length = columns.length) {v : Value}
    (hv : v ∈ allParams (columns.map fun c => ⟨c, testOf (valueOf row c.ordinal)⟩)) : v ∈ row := by
  rw [allParams, List.filterMap_map] at hv
  obtain ⟨c, hc, found⟩ := List.mem_filterMap.mp hv
  have own : v = valueOf row c.ordinal := by
    have param : (testOf (valueOf row c.ordinal)).param? = some v := found
    generalize valueOf row c.ordinal = w at param
    cases w <;> cases param <;> rfl
  rw [own]
  exact valueOf_mem numbered width hc

/-- The statement that inserts a row without defaults inserts just that. -/
theorem effect_insertRow (m : Meaning) {row : List Value} (width : row.length = columns.length)
    (explicit : ∀ v ∈ row, v ≠ .useDefault) :
    ∃ statement, insertRow (.ok ()) columns row = .ok statement
      ∧ (∀ v ∈ statement.params, v ∈ row)
      ∧ ∀ rows, statement.effect m columns rows = rows ++ [row] := by
  have cells : columns.mapM (cellOf (.ok ()) row)
      = .ok (columns.map fun c => some (c, valueOf row c.ordinal)) := by
    refine Success.mapM_of_ok fun c hc => ?_
    have given := explicit _ (valueOf_mem numbered width hc)
    rw [cellOf, valueAt_ok numbered width hc]
    generalize valueOf row c.ordinal = v at given
    cases v with
    | useDefault => exact absurd rfl given
    | _ => rfl
  refine ⟨.insert (columns.map fun c => (c, valueOf row c.ordinal)), ?_, fun v hv => ?_,
    fun rows => ?_⟩
  · rw [insertRow, cells]
    show Except.ok (RowStatement.insert ((columns.map fun c =>
      some (c, valueOf row c.ordinal)).filterMap id)) = _
    rw [List.filterMap_map]
    exact congrArg (fun cells => Except.ok (RowStatement.insert cells))
      (congrFun (List.filterMap_eq_map (f := fun c : Column => (c, valueOf row c.ordinal)))
        columns)
  · rw [RowStatement.params, List.map_map] at hv
    obtain ⟨c, hc, rfl⟩ := List.mem_map.mp hv
    exact valueOf_mem numbered width hc
  · rw [RowStatement.effect, inserted_values numbered m width]

section Identifying

variable (small : ∀ c ∈ columns, c.type.kind.isLarge = false) (some_column : columns ≠ [])
include small some_column

/-- Without large objects all columns tell a row. -/
theorem identifying_ok (table : String) {row : List Value} (width : row.length = columns.length) :
    identifying (.ok ()) table columns row
      = .ok (columns.map fun c => ⟨c, testOf (valueOf row c.ordinal)⟩) := by
  have all : columns.filter (fun c => !c.type.kind.isLarge) = columns :=
    List.filter_eq_self.mpr fun c hc => by rw [small c hc]; rfl
  have conditions : conditionsOf (.ok ()) columns row
      = .ok (columns.map fun c => ⟨c, testOf (valueOf row c.ordinal)⟩) := by
    rw [conditionsOf, all]
    refine Success.mapM_of_ok fun c hc => ?_
    rw [valueAt_ok numbered width hc]
    rfl
  rw [identifying, conditions]
  cases columns with
  | nil => exact absurd rfl some_column
  | cons c columns => rfl

/-- The statement that deletes a row deletes the rows that are like it. -/
theorem effect_deleteRow (m : Meaning) (table : String) {row : List Value}
    (width : row.length = columns.length) :
    ∃ statement, deleteRow (.ok ()) table columns row = .ok statement
      ∧ (∀ v ∈ statement.params, v ∈ row)
      ∧ ∀ rows, statement.effect m columns rows
        = rows.filter fun other => !rowLike m columns.length row other := by
  refine ⟨.delete (columns.map fun c => ⟨c, testOf (valueOf row c.ordinal)⟩), ?_,
    fun v => mem_of_mem_allParams numbered width, fun rows => ?_⟩
  · rw [deleteRow, identifying_ok numbered small some_column table width]
    rfl
  · simp only [RowStatement.effect, all_conditions numbered]

/-- The statement that updates a row turns the rows that are like it into the new one. -/
theorem effect_updateRow (m : Meaning) (table : String) {old new : List Value}
    (width : old.length = columns.length) (width' : new.length = columns.length)
    (explicit : ∀ v ∈ new, v ≠ .useDefault) :
    ∃ statement, updateRow (.ok ()) table columns old new = .ok statement
      ∧ (∀ v ∈ statement.params, v ∈ old ++ new)
      ∧ ∀ rows, (∀ row ∈ rows, row.length = columns.length) → statement.effect m columns rows
        = rows.map fun row => if rowLike m columns.length old row then new else row := by
  -- As no value of the new row asks for a default, every column is assigned one.
  have assignments : (columns.mapM fun c => do
      let v ← valueAt new c
      (.ok () : Except Fault Unit)
      return (c, assigned v)) = .ok (columns.map fun c => (c, some (valueOf new c.ordinal))) := by
    refine Success.mapM_of_ok fun c hc => ?_
    have given := explicit _ (valueOf_mem numbered width' hc)
    rw [valueAt_ok numbered width' hc]
    generalize valueOf new c.ordinal = v at given
    cases v with
    | useDefault => exact absurd rfl given
    | _ => rfl
  refine ⟨.update (columns.map fun c => (c, some (valueOf new c.ordinal)))
    (columns.map fun c => ⟨c, testOf (valueOf old c.ordinal)⟩), ?_, fun v hv => ?_,
    fun rows widths => ?_⟩
  · rw [updateRow, assignments, identifying_ok numbered small some_column table width]
    rfl
  · rcases List.mem_append.mp hv with hv | hv
    · rw [List.filterMap_map] at hv
      obtain ⟨c, hc, found⟩ := List.mem_filterMap.mp hv
      cases found
      exact List.mem_append_right _ (valueOf_mem numbered width' hc)
    · exact List.mem_append_left _ (mem_of_mem_allParams numbered width hv)
  · refine List.map_congr_left fun row hr => ?_
    rw [all_conditions numbered, assigning_values numbered m width' (widths row hr)]

end Identifying

end Columns

end LinkedTables.Sql
