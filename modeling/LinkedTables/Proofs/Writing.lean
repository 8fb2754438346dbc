import LinkedTables.Proofs.Parameters
import LinkedTables.Proofs.Refusals

/-!
# What statements for rows need and bind

A request looks at values of its rows, each for a column and a clause (`RowRequest.LooksAt`). If its
statement cannot be written, the link is not ready, one of these values is missing, or a row is to
be told that no column can tell (`unwritable_of_request`). If it is written, all of these values are
there, and those that no clause leaves out are its parameters (`RowRequest.Written`).
-/

namespace LinkedTables.Sql

/-! ### What is looked at -/

/-- The value for which a clause has no marker. -/
def Clause.omitted : Clause → Value
  | cell | assigned => .useDefault
  | equal | atLeast | atMost => .null

namespace RowRequest

/-- The row from which a request takes the values of a clause. -/
def row? : RowRequest → Clause → Option (List Value)
  | add row, .cell | remove row, .equal => some row
  | update old _, .equal => some old
  | update _ new, .assigned => some new
  | find first _, .atLeast => first
  | find _ last, .atMost => last
  | _, _ => none

/-- A request looks at the value of a row for a column. Large objects are not compared. -/
structure LooksAt (request : RowRequest) (columns : List Column) (clause : Clause)
    (row : List Value) (c : Column) : Prop where
  takes : request.row? clause = some row
  among : c ∈ columns
  small : clause = .equal → c.type.kind.isLarge = false

/-- A request binds a value: one that it looks at, and that is not left out. -/
def Binds (request : RowRequest) (columns : List Column) (v : Value) : Prop :=
  ∃ clause row c, request.LooksAt columns clause row c ∧ row[c.ordinal]? = some v
    ∧ v ≠ clause.omitted

/-- Large objects matter only where rows are compared. -/
theorem LooksAt.of_ne {request : RowRequest} {columns : List Column} {clause : Clause}
    {row : List Value} {c : Column} (takes : request.row? clause = some row) (among : c ∈ columns)
    (other : clause ≠ .equal) : request.LooksAt columns clause row c :=
  ⟨takes, among, fun equal => absurd equal other⟩

/-- What is known of a request whose statement was written. -/
structure Written (request : RowRequest) (columns : List Column) (statement : RowStatement) :
    Prop where
  wide : ∀ {clause row c}, request.LooksAt columns clause row c → ∃ v, row[c.ordinal]? = some v
  told : ∀ {row}, request.row? .equal = some row → ∃ c ∈ columns, c.type.kind.isLarge = false
  params : ∀ v, v ∈ statement.params ↔ request.Binds columns v

end RowRequest

/-- Why the statement of a request cannot be written. -/
inductive Unwritable (ready : Except Fault Unit) (table : String) (columns : List Column)
    (request : RowRequest) : Fault → Prop
  | unready {fault : Fault} (refuses : ready = .error fault) :
    Unwritable ready table columns request fault
  | short {clause : Clause} {row : List Value} {c : Column}
      (looks : request.LooksAt columns clause row c) (missing : row[c.ordinal]? = none) :
    Unwritable ready table columns request (.outOfRange false)
  | untold {row : List Value} (tells : request.row? .equal = some row)
      (large : ∀ c ∈ columns, c.type.kind.isLarge = true) :
    Unwritable ready table columns request (untold table)

section Requests

variable {ready : Except Fault Unit} {table : String} {columns : List Column} {fault : Fault}
  {request : RowRequest} {row : List Value}

/-! ### Statements that cannot be written -/

theorem unwritable_of_valueAt (clause : Clause) {c : Column}
    (looks : request.LooksAt columns clause row c) (failed : valueAt row c = .error fault) :
    Unwritable ready table columns request fault := by
  unfold valueAt at failed
  split at failed
  · cases failed
  next missing =>
    cases failed
    exact .short looks missing

/-- Only large objects give no condition. -/
theorem all_large_of_conditionsOf (made : conditionsOf ready columns row = .ok []) :
    ∀ c ∈ columns, c.type.kind.isLarge = true := by
  intro c among
  cases size : c.type.kind.isLarge with
  | true => rfl
  | false =>
    have telling : c ∈ columns.filter fun c => !c.type.kind.isLarge :=
      List.mem_filter.mpr ⟨among, by rw [size]; rfl⟩
    obtain ⟨condition, none, -⟩ := Success.exists_mem_of_mapM made c telling
    cases none

theorem unwritable_of_identifying (tells : request.row? .equal = some row)
    (failed : identifying ready table columns row = .error fault) :
    Unwritable ready table columns request fault := by
  rcases Success.exists_of_bind_error failed with failed | ⟨conditions, made, failed⟩
  · obtain ⟨c, telling, failed⟩ := Success.exists_of_mapM_error failed
    obtain ⟨among, small⟩ := List.mem_filter.mp telling
    rcases Success.exists_of_bind_error failed with refuses | ⟨_, -, failed⟩
    · exact .unready refuses
    rcases Success.exists_of_bind_error failed with failed | ⟨v, -, failed⟩
    · exact unwritable_of_valueAt .equal ⟨tells, among, fun _ => by simpa using small⟩ failed
    · cases failed
  · split at failed
    · cases failed
      exact .untold tells (all_large_of_conditionsOf made)
    · cases failed

theorem unwritable_of_side {make : Value → Test} {bound : Option (List Value)} (clause : Clause)
    {c : Column} (takes : request.row? clause = bound) (among : c ∈ columns)
    (ranged : clause ≠ .equal) (failed : sideOf make bound c = .error fault) :
    Unwritable ready table columns request fault := by
  cases bound with
  | none => cases failed
  | some row =>
    rcases Success.exists_of_bind_error failed with failed | ⟨v, -, failed⟩
    · exact unwritable_of_valueAt clause (.of_ne takes among ranged) failed
    · split at failed <;> cases failed

/-- A statement cannot be written because the link is not ready, because a value is missing that the
request looks at, or because no column can tell a row. -/
theorem unwritable_of_request (failed : request.statement ready table columns = .error fault) :
    Unwritable ready table columns request fault := by
  -- The first column that fails gives the fault; where rows are told, it may be that none can tell.
  cases request with
  | add row =>
    rcases Success.exists_of_bind_error failed with failed | ⟨cells, -, failed⟩
    · obtain ⟨c, among, failed⟩ := Success.exists_of_mapM_error failed
      rcases Success.exists_of_bind_error failed with failed | ⟨v, -, failed⟩
      · exact unwritable_of_valueAt .cell (.of_ne rfl among (by decide)) failed
      · split at failed
        · cases failed
        · rcases Success.exists_of_bind_error failed with refuses | ⟨_, -, failed⟩
          · exact .unready refuses
          · cases failed
    · cases failed
  | remove row =>
    rcases Success.exists_of_bind_error failed with failed | ⟨conditions, -, failed⟩
    · exact unwritable_of_identifying rfl failed
    · cases failed
  | update old new =>
    rcases Success.exists_of_bind_error failed with failed | ⟨assignments, -, failed⟩
    · obtain ⟨c, among, failed⟩ := Success.exists_of_mapM_error failed
      rcases Success.exists_of_bind_error failed with failed | ⟨v, -, failed⟩
      · exact unwritable_of_valueAt .assigned (.of_ne rfl among (by decide)) failed
      · rcases Success.exists_of_bind_error failed with refuses | ⟨_, -, failed⟩
        · exact .unready refuses
        · cases failed
    · rcases Success.exists_of_bind_error failed with failed | ⟨conditions, -, failed⟩
      · exact unwritable_of_identifying rfl failed
      · cases failed
  | find first last =>
    rcases Success.exists_of_bind_error failed with failed | ⟨sides, -, failed⟩
    · obtain ⟨c, among, failed⟩ := Success.exists_of_mapM_error failed
      rcases Success.exists_of_bind_error failed with refuses | ⟨_, -, failed⟩
      · exact .unready refuses
      rcases Success.exists_of_bind_error failed with failed | ⟨lower, -, failed⟩
      · exact unwritable_of_side .atLeast rfl among (by decide) failed
      rcases Success.exists_of_bind_error failed with failed | ⟨upper, -, failed⟩
      · exact unwritable_of_side .atMost rfl among (by decide) failed
      · cases failed
    · cases failed

/-! ### Statements that are written -/

/-- A column is assigned the value of a row, unless its default is asked for. -/
theorem assigned_eq_some {v w : Value} :
    assigned w = some v ↔ w = v ∧ v ≠ Clause.assigned.omitted := by
  constructor
  · intro e
    cases w <;> cases e <;> exact ⟨rfl, nofun⟩
  · rintro ⟨rfl, kept⟩
    cases w with
    | useDefault => exact absurd rfl kept
    | _ => rfl

/-- A value is tested for, unless it is null. -/
theorem param?_testOf {v w : Value} :
    (testOf w).param? = some v ↔ w = v ∧ v ≠ Clause.equal.omitted := by
  constructor
  · intro e
    cases w <;> cases e <;> exact ⟨rfl, nofun⟩
  · rintro ⟨rfl, kept⟩
    cases w with
    | null => exact absurd rfl kept
    | _ => rfl

/-- What a value of a row makes of a clause on a column. -/
structure Gives (row : List Value) (clause : Clause) (c : Column) (binds : Value → Prop) :
    Prop where
  there : ∃ v, row[c.ordinal]? = some v
  binds : ∀ v, binds v ↔ row[c.ordinal]? = some v ∧ v ≠ clause.omitted

theorem Gives.of_value {clause : Clause} {c : Column} {w : Value} {binds : Value → Prop}
    (read : valueAt row c = .ok w) (made : ∀ v, binds v ↔ w = v ∧ v ≠ clause.omitted) :
    Gives row clause c binds := by
  have found := eq_some_of_valueAt read
  refine ⟨⟨w, found⟩, fun v => ?_⟩
  rw [made, found, Option.some.injEq]

theorem gives_condition {c : Column} {condition : Condition}
    (made : (do ready; return Condition.mk c (testOf (← valueAt row c))) = .ok condition) :
    Gives row .equal c fun v => condition.test.param? = some v := by
  obtain ⟨_, -, made⟩ := Success.exists_of_bind made
  obtain ⟨w, read, made⟩ := Success.exists_of_bind made
  cases made
  exact .of_value read fun _ => param?_testOf

theorem gives_assignment {c : Column} {a : Column × Option Value}
    (made : (do let v ← valueAt row c; ready; return (c, assigned v)) = .ok a) :
    Gives row .assigned c fun v => a.2 = some v := by
  obtain ⟨w, read, made⟩ := Success.exists_of_bind made
  obtain ⟨_, -, made⟩ := Success.exists_of_bind made
  cases made
  exact .of_value read fun _ => assigned_eq_some

theorem gives_cell {c : Column} {cell : Option (Column × Value)}
    (made : cellOf ready row c = .ok cell) :
    Gives row .cell c fun v => cell.map (·.2) = some v := by
  obtain ⟨w, read, made⟩ := Success.exists_of_bind made
  have value : cell.map (·.2) = assigned w := by
    split at made
    · cases made
      rfl
    next given =>
      obtain ⟨_, -, made⟩ := Success.exists_of_bind made
      cases made
      exact (assigned_eq_some.mpr ⟨rfl, given⟩).symm
  exact .of_value read fun _ => value ▸ assigned_eq_some

/-- What the values of a row make of a clause on all of some columns. -/
theorem gives_all {β : Type} {clause : Clause} {f : Column → Except Fault β}
    {binds : β → Value → Prop} {cs : List Column} {ys : List β}
    (each : ∀ c y, f c = .ok y → Gives row clause c (binds y)) (ok : cs.mapM f = .ok ys) :
    (∀ c ∈ cs, ∃ v, row[c.ordinal]? = some v) ∧
      ∀ v, (∃ y ∈ ys, binds y v) ↔ ∃ c ∈ cs, row[c.ordinal]? = some v ∧ v ≠ clause.omitted := by
  refine ⟨fun c hc => ?_, fun v => ⟨?_, ?_⟩⟩
  · obtain ⟨y, -, made⟩ := Success.exists_mem_of_mapM ok c hc
    exact (each c y made).there
  · rintro ⟨y, hy, here⟩
    obtain ⟨c, hc, made⟩ := Success.exists_of_mapM ok y hy
    exact ⟨c, hc, ((each c y made).binds v).mp here⟩
  · rintro ⟨c, hc, here⟩
    obtain ⟨y, hy, made⟩ := Success.exists_mem_of_mapM ok c hc
    exact ⟨y, hy, ((each c y made).binds v).mpr here⟩

/-- The conditions that tell a row, of which there are some. -/
theorem written_identifying {cs : List Condition}
    (ok : identifying ready table columns row = .ok cs) :
    (∃ c ∈ columns, c.type.kind.isLarge = false) ∧
      (∀ c ∈ columns, c.type.kind.isLarge = false → ∃ v, row[c.ordinal]? = some v) ∧
      ∀ v, v ∈ allParams cs ↔ ∃ c ∈ columns, c.type.kind.isLarge = false ∧
        row[c.ordinal]? = some v ∧ v ≠ Clause.equal.omitted := by
  obtain ⟨conditions, made, ok⟩ := Success.exists_of_bind ok
  have small (c : Column) : c ∈ columns.filter (fun c => !c.type.kind.isLarge)
      ↔ c ∈ columns ∧ c.type.kind.isLarge = false := by
    rw [List.mem_filter, Bool.not_eq_true']
  obtain ⟨wide, params⟩ := gives_all (fun _ _ => gives_condition) made
  split at ok
  · cases ok
  next some_condition =>
    cases ok
    refine ⟨?_, fun c hc hs => wide c ((small c).mpr ⟨hc, hs⟩), fun v => ?_⟩
    · obtain ⟨condition, among⟩ := List.exists_mem_of_ne_nil _ some_condition
      obtain ⟨c, hc, -⟩ := Success.exists_of_mapM made condition among
      exact ⟨c, (small c).mp hc⟩
    · rw [allParams, List.mem_filterMap, params]
      simp only [small, and_assoc]

/-- What a bound makes of one side of a column. -/
theorem gives_side {make : Value → Test} (marks : ∀ v, (make v).param? = some v)
    {bound : Option (List Value)} {c : Column} {cs : List Condition}
    (made : sideOf make bound c = .ok cs) :
    (∀ row, bound = some row → ∃ v, row[c.ordinal]? = some v) ∧
      ∀ v, v ∈ allParams cs ↔ ∃ row, bound = some row ∧ row[c.ordinal]? = some v ∧ v ≠ .null := by
  cases bound with
  | none =>
    cases made
    exact ⟨nofun, fun v => ⟨nofun, nofun⟩⟩
  | some row =>
    obtain ⟨w, read, made⟩ := Success.exists_of_bind made
    have found := eq_some_of_valueAt read
    refine ⟨fun _ same => Option.some.inj same ▸ ⟨w, found⟩, fun v => ?_⟩
    -- A bound that is null leaves the side open.
    split at made
    · cases made
      refine ⟨nofun, ?_⟩
      rintro ⟨_, ⟨⟩, here, kept⟩
      exact absurd (Option.some.inj (here.symm.trans found)) kept
    next given =>
      cases made
      rw [allParams, List.filterMap_cons, marks]
      constructor
      · rintro among
        obtain rfl := List.mem_singleton.mp among
        exact ⟨row, rfl, found, given⟩
      · rintro ⟨_, ⟨⟩, here, -⟩
        rw [found] at here
        exact List.mem_singleton.mpr (Option.some.inj here).symm

theorem mem_params_insert {cells : List (Option (Column × Value))} {v : Value} :
    v ∈ (RowStatement.insert (cells.filterMap id)).params
      ↔ ∃ cell ∈ cells, cell.map (·.2) = some v := by
  rw [RowStatement.params, List.mem_map]
  constructor
  · rintro ⟨cell, among, rfl⟩
    obtain ⟨_, among, rfl⟩ := List.mem_filterMap.mp among
    exact ⟨some cell, among, rfl⟩
  · rintro ⟨_, among, given⟩
    obtain ⟨cell, rfl, rfl⟩ := Option.map_eq_some_iff.mp given
    exact ⟨cell, List.mem_filterMap.mpr ⟨_, among, rfl⟩, rfl⟩

theorem mem_params_select {sides : List (List Condition)} {v : Value} :
    v ∈ (RowStatement.select sides.flatten).params ↔ ∃ cs ∈ sides, v ∈ allParams cs := by
  rw [RowStatement.params, allParams, List.filterMap_flatten, List.mem_flatten]
  constructor
  · rintro ⟨_, side, there⟩
    obtain ⟨cs, among, rfl⟩ := List.mem_map.mp side
    exact ⟨cs, among, there⟩
  · rintro ⟨cs, among, there⟩
    exact ⟨_, List.mem_map_of_mem among, there⟩

/-- What two bounds make of a column. -/
theorem gives_sides {first last : Option (List Value)} {c : Column} {cs : List Condition}
    (made : (do
      ready
      return (← sideOf .atLeast first c) ++ (← sideOf .atMost last c)) = .ok cs) :
    (∀ row, first = some row ∨ last = some row → ∃ v, row[c.ordinal]? = some v) ∧
      ∀ v, v ∈ allParams cs ↔ ∃ row, (first = some row ∨ last = some row) ∧
        row[c.ordinal]? = some v ∧ v ≠ .null := by
  obtain ⟨_, -, made⟩ := Success.exists_of_bind made
  obtain ⟨lower, fromFirst, made⟩ := Success.exists_of_bind made
  obtain ⟨upper, fromLast, made⟩ := Success.exists_of_bind made
  cases made
  obtain ⟨wide, params⟩ := gives_side (fun _ => rfl) fromFirst
  obtain ⟨wide', params'⟩ := gives_side (fun _ => rfl) fromLast
  refine ⟨fun row given => given.elim (wide row) (wide' row), fun v => ?_⟩
  rw [allParams, List.filterMap_append, List.mem_append, ← allParams, ← allParams, params, params',
    ← exists_or]
  simp only [or_and_right]

theorem written_add {statement : RowStatement} (ok : insertRow ready columns row = .ok statement) :
    (RowRequest.add row).Written columns statement := by
  obtain ⟨cells, made, ok⟩ := Success.exists_of_bind ok
  cases ok
  obtain ⟨wide, params⟩ := gives_all (fun _ _ => gives_cell) made
  refine ⟨?_, fun takes => (by cases takes), fun v => ?_⟩
  · rintro clause row c ⟨takes, among, -⟩
    cases clause <;> cases takes
    exact wide c among
  · rw [mem_params_insert, params]
    constructor
    · rintro ⟨c, among, found, kept⟩
      exact ⟨.cell, row, c, .of_ne rfl among (by decide), found, kept⟩
    · rintro ⟨clause, row, c, ⟨takes, among, -⟩, found, kept⟩
      cases clause <;> cases takes
      exact ⟨c, among, found, kept⟩

theorem written_remove {statement : RowStatement}
    (ok : deleteRow ready table columns row = .ok statement) :
    (RowRequest.remove row).Written columns statement := by
  obtain ⟨conditions, made, ok⟩ := Success.exists_of_bind ok
  cases ok
  obtain ⟨told, wide, params⟩ := written_identifying made
  refine ⟨?_, fun _ => told, fun v => ?_⟩
  · rintro clause row c ⟨takes, among, small⟩
    cases clause <;> cases takes
    exact wide c among (small rfl)
  · rw [RowStatement.params, params]
    constructor
    · rintro ⟨c, among, small, found, kept⟩
      exact ⟨.equal, row, c, ⟨rfl, among, fun _ => small⟩, found, kept⟩
    · rintro ⟨clause, row, c, ⟨takes, among, small⟩, found, kept⟩
      cases clause <;> cases takes
      exact ⟨c, among, small rfl, found, kept⟩

theorem written_update {old new : List Value} {statement : RowStatement}
    (ok : updateRow ready table columns old new = .ok statement) :
    (RowRequest.update old new).Written columns statement := by
  obtain ⟨assignments, assigned, ok⟩ := Success.exists_of_bind ok
  obtain ⟨conditions, made, ok⟩ := Success.exists_of_bind ok
  cases ok
  obtain ⟨wideNew, paramsNew⟩ := gives_all (fun _ _ => gives_assignment) assigned
  obtain ⟨told, wide, params⟩ := written_identifying made
  refine ⟨?_, fun _ => told, fun v => ?_⟩
  · rintro clause row c ⟨takes, among, small⟩
    cases clause <;> cases takes
    · exact wideNew c among
    · exact wide c among (small rfl)
  · rw [RowStatement.params, List.mem_append, List.mem_filterMap, paramsNew, params]
    constructor
    · rintro (⟨c, among, found, kept⟩ | ⟨c, among, small, found, kept⟩)
      · exact ⟨.assigned, new, c, .of_ne rfl among (by decide), found, kept⟩
      · exact ⟨.equal, old, c, ⟨rfl, among, fun _ => small⟩, found, kept⟩
    · rintro ⟨clause, row, c, ⟨takes, among, small⟩, found, kept⟩
      cases clause <;> cases takes
      · exact .inl ⟨c, among, found, kept⟩
      · exact .inr ⟨c, among, small rfl, found, kept⟩

theorem written_find {first last : Option (List Value)} {statement : RowStatement}
    (ok : selectBetween ready columns first last = .ok statement) :
    (RowRequest.find first last).Written columns statement := by
  obtain ⟨sides, made, ok⟩ := Success.exists_of_bind ok
  cases ok
  refine ⟨?_, fun takes => (by cases takes), fun v => ?_⟩
  · rintro clause row c ⟨takes, among, -⟩
    obtain ⟨cs, -, made⟩ := Success.exists_mem_of_mapM made c among
    cases clause with
    | atLeast => exact (gives_sides made).1 row (.inl takes)
    | atMost => exact (gives_sides made).1 row (.inr takes)
    | _ => cases takes
  · rw [mem_params_select]
    constructor
    · rintro ⟨cs, among, there⟩
      obtain ⟨c, among, made⟩ := Success.exists_of_mapM made cs among
      obtain ⟨row, given | given, found, kept⟩ := ((gives_sides made).2 v).mp there
      · exact ⟨.atLeast, row, c, .of_ne given among (by decide), found, kept⟩
      · exact ⟨.atMost, row, c, .of_ne given among (by decide), found, kept⟩
    · rintro ⟨clause, row, c, ⟨takes, among, -⟩, found, kept⟩
      obtain ⟨cs, there, made⟩ := Success.exists_mem_of_mapM made c among
      refine ⟨cs, there, ((gives_sides made).2 v).mpr ?_⟩
      cases clause with
      | atLeast => exact ⟨row, .inl takes, found, kept⟩
      | atMost => exact ⟨row, .inr takes, found, kept⟩
      | _ => cases takes

/-- What is known of a request whose statement is written. -/
theorem written_of_request {statement : RowStatement}
    (ok : request.statement ready table columns = .ok statement) :
    request.Written columns statement := by
  cases request with
  | add row => exact written_add ok
  | remove row => exact written_remove ok
  | update old new => exact written_update ok
  | find first last => exact written_find ok

end Requests

end LinkedTables.Sql
