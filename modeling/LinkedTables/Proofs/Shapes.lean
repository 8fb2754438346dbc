import LinkedTables.Proofs.ActionLogic
import LinkedTables.Proofs.Success

/-!
# Well-formed shapes

A shape is well-formed if the columns are numbered in their order, each index behind the one over
all columns has columns and only those of the table, and only the first of those indexes can be a
primary key. Whatever a catalog reports, a shape that is read is well-formed
(`Shape.IsRead.isWellFormed`).
-/

namespace LinkedTables

open Reconstruction

/-- Columns numbered in their order. -/
def Numbered (columns : List Column) : Prop :=
  ∀ (i : Nat) (c : Column), columns[i]? = some c → c.ordinal = i

/-- An index that has columns, and only those of a table. -/
def Index.Over (index : Index) (columns : List Column) : Prop :=
  index.columns ≠ [] ∧ ∀ c ∈ index.columns, c ∈ columns

/-- A shape with numbered columns, whose indexes have columns of the table, and of which only the
index right behind the one over all columns can be a primary key. -/
structure Shape.IsWellFormed (shape : Shape) : Prop where
  numbered : Numbered shape.columns
  covered : ∀ index ∈ shape.others, index.Over shape.columns
  key : ∀ i index, shape.others[i]? = some index → index.kind = .primaryKey → i = 0

/-! ### Columns -/

theorem numbered_nil : Numbered [] := by
  intro i c e
  cases e

theorem numbered_columnsOf (canonicalName : String → String) (rows : List ColumnRow) :
    Numbered (Shape.columnsOf canonicalName rows) := by
  intro i c e
  rw [Shape.columnsOf, List.getElem?_map, List.getElem?_zipIdx] at e
  obtain ⟨⟨row, j⟩, here, rfl⟩ := Option.map_eq_some_iff.mp e
  obtain ⟨row', _, same⟩ := Option.map_eq_some_iff.mp here
  cases same
  exact Nat.zero_add i

theorem mem_of_column? {columns : List Column} {name : String} {c : Column}
    (found : Shape.column? columns name = some c) : c ∈ columns :=
  List.mem_reverse.mp (List.mem_of_find?_eq_some found)

/-! ### Bindings -/

/-- A binding with places for columns, in which only columns of a table are known. -/
def Binding.Over (b : Binding) (columns : List Column) : Prop :=
  b.columns ≠ [] ∧ ∀ c, some c ∈ b.columns → c ∈ columns

theorem mem_of_leading {α : Type} {xs : List (Option α)} {a : α} (h : a ∈ leading xs) :
    some a ∈ xs := by
  induction xs with
  | nil => cases h
  | cons x xs ih =>
    cases x with
    | none => cases h
    | some b =>
      rcases List.mem_cons.mp h with rfl | h
      · exact List.mem_cons_self ..
      · exact List.mem_cons_of_mem _ (ih h)

/-- The index of a binding is of its kind, over columns of the table. -/
theorem index_of_binding {b : Binding} {columns : List Column} {index : Index}
    (covered : b.Over columns) (made : b.index? = some index) :
    index.Over columns ∧ index.kind = b.kind := by
  obtain ⟨some_columns, known⟩ := covered
  unfold Binding.index? at made
  split at made
  next => cases made
  next first =>
    cases made
    refine ⟨⟨?_, fun c hc => known c (mem_of_leading hc)⟩, rfl⟩
    cases e : b.columns with
    | nil => exact absurd e some_columns
    | cons c rest =>
      cases c with
      | none => exact absurd e (first rest)
      | some c => exact List.cons_ne_nil _ _

/-! ### The primary key -/

section Key

variable {columns : List Column} {resolve : Resolver}

/-- Putting a column at its place leaves places, and columns of the table only. -/
theorem places_of_placed {cs cs' : List (Option Column)} {place : Int} {column : Option Column}
    (known : ∀ c, some c ∈ cs → c ∈ columns) (new : ∀ c, column = some c → c ∈ columns)
    (ok : placed cs place column = .ok cs') :
    cs' ≠ [] ∧ ∀ c, some c ∈ cs' → c ∈ columns := by
  -- Place zero is behind the columns, a positive place may need padding, and a negative one counts
  -- back.
  unfold placed at ok
  split at ok
  next =>
    cases ok
    refine ⟨by simp, fun c hc => ?_⟩
    rcases List.mem_append.mp hc with hc | hc
    · exact known c hc
    · exact new c (List.mem_singleton.mp hc).symm
  next nonzero =>
    split at ok
    next positive =>
      cases ok
      refine ⟨?_, fun c hc => ?_⟩
      · rw [ne_eq, ← List.length_eq_zero_iff, List.length_set, padded, List.length_append,
          List.length_replicate]
        omega
      · rcases List.mem_or_eq_of_mem_set hc with hc | hc
        · rcases List.mem_append.mp hc with hc | hc
          · exact known c hc
          · cases List.eq_of_mem_replicate hc
        · exact new c hc.symm
    next =>
      split at ok
      next inside =>
        cases ok
        refine ⟨?_, fun c hc => ?_⟩
        · rw [ne_eq, ← List.length_eq_zero_iff, List.length_set]
          omega
        · rcases List.mem_or_eq_of_mem_set hc with hc | hc
          · exact known c hc
          · exact new c hc.symm
      next => cases ok

/-- Going through the rows of a key fills places with columns of the table. -/
theorem places_of_rows (resolves : ∀ name c, resolve name = some c → c ∈ columns)
    {rows : List KeyRow} {cs cs' : List (Option Column)} (known : ∀ c, some c ∈ cs → c ∈ columns)
    (ok : rows.foldlM (fun cs row => placed cs row.place (resolve row.column)) cs = .ok cs') :
    (rows ≠ [] ∨ cs ≠ [] → cs' ≠ []) ∧ ∀ c, some c ∈ cs' → c ∈ columns := by
  induction rows generalizing cs with
  | nil =>
    cases ok
    exact ⟨fun h => h.resolve_left fun h => h rfl, known⟩
  | cons row rows ih =>
    rw [List.foldlM_cons] at ok
    obtain ⟨first, here, rest⟩ := Success.exists_of_bind ok
    obtain ⟨some_first, known⟩ := places_of_placed known (resolves row.column) here
    obtain ⟨some_rest, known⟩ := ih known rest
    exact ⟨fun _ => some_rest (.inr some_first), known⟩

/-- The binding of a key that has rows is over columns of the table. -/
theorem binding_of_key (resolves : ∀ name c, resolve name = some c → c ∈ columns)
    {rows : List KeyRow} (some_rows : rows ≠ []) {b : Binding}
    (ok : keyBinding resolve rows = .ok b) : b.Over columns := by
  unfold keyBinding at ok
  cases e : keyColumns resolve rows with
  | error fault =>
    rw [e] at ok
    cases ok
  | ok cs =>
    rw [e] at ok
    cases ok
    obtain ⟨some_places, known⟩ := places_of_rows resolves (by simp) e
    exact ⟨some_places (.inl some_rows), known⟩

/-- The primary key that is read, if there is one, is over columns of the table. -/
theorem primary_of_readKey (resolves : ∀ name c, resolve name = some c → c ∈ columns)
    {table : String} {feed : Feed KeyRow} {primary : Option Index} {key : Option String}
    (ok : (readKey resolve table feed).1 = .ok (primary, key)) :
    ∀ index, primary = some index → index.Over columns := by
  unfold readKey at ok
  intro index e
  subst e
  split at ok
  next => cases ok
  next => cases ok
  next rows notices none_left _ =>
    split at ok
    next => cases ok
    next binding bound =>
      have some_rows : rows ≠ [] := by
        rintro rfl
        exact none_left rfl
      injection ok with ok
      injection ok with made _
      exact (index_of_binding (binding_of_key resolves some_rows bound) made).1

end Key

/-! ### The other indexes -/

section Others

variable {columns : List Column} {resolve : Resolver}

/-- Every run has a row. -/
theorem columns_of_runs {key : Option String} {rows : List IndexRow} {current : Option Run}
    (some_columns : ∀ run, current = some run → run.columns ≠ []) :
    ∀ run ∈ runsFrom key current rows, run.columns ≠ [] := by
  -- A run begins with a row, and further rows add to its columns.
  induction rows generalizing current with
  | nil =>
    intro run hr
    exact some_columns run (Option.mem_toList.mp hr)
  | cons row rows ih =>
    intro run hr
    unfold runsFrom at hr
    split at hr
    next => exact ih some_columns run hr
    next =>
      have fresh : ∀ run, some (Run.ofRow row) = some run → run.columns ≠ [] := by
        rintro run ⟨⟩
        exact List.cons_ne_nil _ _
      split at hr
      next => exact ih fresh run hr
      next last =>
        split at hr
        next =>
          have longer : ∀ run, some (last.extend row) = some run → run.columns ≠ [] := by
            rintro run ⟨⟩
            simp [Run.extend]
          exact ih longer run hr
        next =>
          rcases List.mem_cons.mp hr with rfl | hr
          · exact some_columns _ rfl
          · exact ih fresh run hr

/-- The other indexes that are read are over columns of the table, and none is a primary key. -/
theorem others_of_readOthers (resolves : ∀ name c, resolve name = some c → c ∈ columns)
    {table : String} {key : Option String} {feed : Feed IndexRow} {others : List Index}
    (ok : (readOthers resolve table key feed).1 = .ok others) :
    ∀ index ∈ others, index.Over columns ∧ index.kind ≠ .primaryKey := by
  unfold readOthers at ok
  intro index hi
  split at ok
  next => cases ok
  next rows notices _ =>
    cases ok
    obtain ⟨binding, hb, made⟩ := List.mem_filterMap.mp hi
    obtain ⟨run, hr, rfl⟩ := List.mem_map.mp hb
    have covered : (run.binding resolve).Over columns := by
      refine ⟨?_, fun c hc => ?_⟩
      · have some_columns := columns_of_runs (by simp) run hr
        simpa [Run.binding] using some_columns
      · obtain ⟨name, _, e⟩ := List.mem_map.mp hc
        obtain ⟨name, rfl, e⟩ := Option.bind_eq_some_iff.mp e
        exact resolves name c e
    obtain ⟨index_over, kind⟩ := index_of_binding covered made
    refine ⟨index_over, ?_⟩
    rw [kind, Run.binding, IndexKind.ofUnique]
    split <;> simp

end Others

/-! ### Reading -/

/-- How the columns of a shape are found by the names that its catalog reports. -/
def Shape.resolver (shape : Shape) : Resolver := fun name =>
  Shape.column? shape.columns (Dialect.canonical shape.flags shape.vendor name)

/-- Indexes as they are read from a catalog: the primary key, if there is one, and the others. -/
def Index.AreRead (indexes : List Index) (catalog : Catalog) (resolve : Resolver)
    (schema : Option String) (table : String) : Prop :=
  ∃ primary key others,
    (readKey resolve table (catalog.primaryKeys schema table)).1 = .ok (primary, key) ∧
    (readOthers resolve table key (catalog.indexInfo schema table)).1 = .ok others ∧
    indexes = primary.toList ++ others

/-- A shape as it is read: the columns are made of rows, and the indexes are those of the catalog,
or none. -/
structure Shape.IsRead (shape : Shape) (d : Definition) (catalog : Catalog) : Prop where
  columns : ∃ rows,
    shape.columns = Shape.columnsOf (Dialect.canonical shape.flags shape.vendor) rows
  others : shape.others = [] ∨
    Index.AreRead shape.others catalog shape.resolver d.remoteSchema d.remoteTable

namespace Action

open Yields

theorem readCatalogColumns_yields (catalog : Catalog) (canonicalName : String → String)
    (schema : Option String) (table : String) :
    Yields (readCatalogColumns catalog canonicalName schema table) fun r =>
      ∃ rows, r.1 = Shape.columnsOf canonicalName rows := by
  refine behind fun _ => behind fun found => ?_
  have read : Yields (do
      ask catalog .columns schema table
      ofExcept (Shape.catalogColumns canonicalName (catalog.columns schema table)))
      fun r => ∃ rows, r.1 = Shape.columnsOf canonicalName rows := by
    refine behind fun _ => of_ofExcept fun r ok => ?_
    obtain ⟨feed, _, ok⟩ := Success.exists_of_bind ok
    obtain ⟨gathered, _, ok⟩ := Success.exists_of_bind ok
    cases ok
    exact ⟨_, rfl⟩
  exact of_ite (fun _ => behind fun _ => read) fun _ => read

theorem readCatalogIndexes_yields (catalog : Catalog) (resolve : Resolver)
    (schema : Option String) (table : String) :
    Yields (readCatalogIndexes catalog resolve schema table) fun indexes =>
      Index.AreRead indexes catalog resolve schema table := by
  refine behind fun _ => ?_
  cases e : readKey resolve table (catalog.primaryKeys schema table) with
  | mk r notices =>
    refine behind fun _ => bind (of_ofExcept (P := fun p => r = .ok p) fun _ ok => ok) ?_
    rintro ⟨primary, key⟩ rfl
    refine behind fun _ => ?_
    cases e' : readOthers resolve table key (catalog.indexInfo schema table) with
    | mk r notices =>
      refine behind fun _ => bind (of_ofExcept (P := fun p => r = .ok p) fun _ ok => ok) ?_
      rintro others rfl
      exact of_pure ⟨primary, key, others, congrArg Prod.fst e, congrArg Prod.fst e', rfl⟩

theorem readShape_yields (d : Definition) (catalog : Catalog) (s : Nat) :
    Yields (readShape d catalog s) fun shape => shape.IsRead d catalog := by
  refine behind fun _ => behind fun h => ?_
  refine of_either (P := fun r : List Column × Option String => ∃ rows,
      r.1 = Shape.columnsOf (Dialect.canonical catalog.flags (h.session s).vendor) rows)
    (fun _ => of_pure ⟨[], rfl⟩) (fun _ => readCatalogColumns_yields _ _ _ _) ?_
  rintro ⟨reported, schema⟩ ⟨rows, made⟩
  refine behind fun probed => ?_
  dsimp only
  -- The columns are those of the catalog, or else those of the probe.
  have columns_made : ∃ rows, (if reported.isEmpty then
        Shape.columnsOf (Dialect.canonical catalog.flags (h.session s).vendor) probed
      else reported)
        = Shape.columnsOf (Dialect.canonical catalog.flags (h.session s).vendor) rows := by
    split
    · exact ⟨probed, rfl⟩
    · exact ⟨rows, made⟩
  generalize (if reported.isEmpty then
    Shape.columnsOf (Dialect.canonical catalog.flags (h.session s).vendor) probed
    else reported) = columns at columns_made ⊢
  refine of_either (P := fun others => others = [] ∨ Index.AreRead others catalog (fun name =>
      Shape.column? columns (Dialect.canonical catalog.flags (h.session s).vendor name))
        d.remoteSchema d.remoteTable)
    (fun _ => of_pure (.inl rfl))
    (fun _ h index found => .inr (readCatalogIndexes_yields _ _ _ _ h index found)) ?_
  rintro others read
  exact behind fun _ => of_pure ⟨columns_made, read⟩

end Action

/-- A shape that is read is well-formed, whatever the catalog reports. -/
theorem Shape.IsRead.isWellFormed {shape : Shape} {d : Definition} {catalog : Catalog}
    (read : shape.IsRead d catalog) : shape.IsWellFormed := by
  obtain ⟨⟨rows, made⟩, none | ⟨primary, key, others, ok, ok', made'⟩⟩ := read
  · exact ⟨made ▸ numbered_columnsOf _ _, by simp [none], by simp [none]⟩
  have covered := primary_of_readKey (fun _ _ => mem_of_column?) ok
  have rest := others_of_readOthers (fun _ _ => mem_of_column?) ok'
  refine ⟨made ▸ numbered_columnsOf _ _, fun index hi => ?_, fun i index found isKey => ?_⟩
  · rw [made'] at hi
    rcases List.mem_append.mp hi with hi | hi
    · exact covered index (Option.mem_toList.mp hi)
    · exact (rest index hi).1
  · rw [made'] at found
    -- Only the first of the indexes can be the primary key.
    cases primary with
    | none => exact absurd isKey (rest index (List.mem_of_getElem? found)).2
    | some first =>
      cases i with
      | zero => rfl
      | succ i => exact absurd isKey (rest index (List.mem_of_getElem? found)).2

end LinkedTables
