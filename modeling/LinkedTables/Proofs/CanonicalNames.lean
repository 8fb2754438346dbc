import LinkedTables.Proofs.Folding
import LinkedTables.Proofs.ShapeLasts
import LinkedTables.Proofs.Shapes
import Mathlib.Data.List.Nodup

/-!
# Columns by their canonical names

A table finds its columns by their canonical names, and an index finds its columns by the canonical
forms of the names that the rows of the catalog give. Names that fold to one form are not told
apart: of the columns that bear it the last one is found (`readShape_collides`).

`columns_of_readShape` says how far names can be trusted, for every catalog and every dialect. If
the remote names differ in more than case, the canonical names are distinct. Exactly if they are
distinct, every column is found under its own name. And then each column of an index is the only one
that the row of the catalog at its place can mean.

The columns of an index are the ones found for the names that the rows give (`Catalog.Names`). For
the primary key this is because putting columns in their places commutes with finding them
(`keyColumns_eq`).
-/

namespace LinkedTables

open Reconstruction

/-! ### Finding columns by name -/

section Columns

variable {columns : List Column}

/-- Where names are distinct, the column that bears a name is found under it. -/
theorem column?_of_nodup (distinct : (columns.map (·.name)).Nodup) {c : Column}
    (hc : c ∈ columns) : Shape.column? columns c.name = some c := by
  unfold Shape.column?
  cases found : columns.reverse.find? (·.name == c.name) with
  | none =>
    have other := List.find?_eq_none.mp found c (List.mem_reverse.mpr hc)
    exact absurd (beq_self_eq_true _) other
  | some c' =>
    have same := List.find?_some found
    have hc' : c' ∈ columns := List.mem_reverse.mp (List.mem_of_find?_eq_some found)
    rw [List.inj_on_of_nodup_map distinct hc' hc (beq_iff_eq.mp same)]

theorem name_of_column? {name : String} {c : Column}
    (found : Shape.column? columns name = some c) : c.name = name := by
  have same := List.find?_some found
  exact beq_iff_eq.mp same

/-- Columns that are numbered have distinct names exactly if each is found under its own. -/
theorem nodup_names_iff (numbered : Numbered columns) :
    (columns.map (·.name)).Nodup ↔ ∀ c ∈ columns, Shape.column? columns c.name = some c := by
  refine ⟨fun distinct c hc => column?_of_nodup distinct hc, fun own => ?_⟩
  have all_distinct : columns.Nodup := by
    refine List.nodup_iff_getElem?_ne_getElem?.mpr fun i j before inside same => ?_
    obtain ⟨c, e⟩ : ∃ c, columns[j]? = some c := ⟨_, List.getElem?_eq_getElem inside⟩
    have here := numbered i c (same.trans e)
    have there := numbered j c e
    omega
  refine (List.nodup_map_iff_inj_on all_distinct).mpr fun c hc c' hc' same => ?_
  have found := own c hc
  rw [same, own c' hc'] at found
  cases found
  rfl

end Columns

/-- Columns whose remote names differ in more than case have distinct canonical names, whatever the
dialect. -/
theorem nodup_names_of_apart {columns : List Column} {flags : Dialect.Flags}
    {vendor : Dialect.Vendor}
    (named : ∀ c ∈ columns, c.name = Dialect.canonical flags vendor c.remoteName)
    (apart : columns.Pairwise fun c c' => Text.upper c.remoteName ≠ Text.upper c'.remoteName) :
    (columns.map (·.name)).Nodup := by
  refine List.pairwise_map.mpr (apart.imp_of_mem fun hc hc' different => ?_)
  rw [named _ hc, named _ hc']
  exact Dialect.canonical_ne different flags vendor

/-! ### The names of the columns of an index -/

namespace Reconstruction

/-- The names of the columns of a primary key in the order of their places. -/
def keyNames (rows : List KeyRow) : Except Fault (List (Option String)) :=
  rows.foldlM (fun names row => placed names row.place (some row.column)) []

section Places

variable {α β : Type} (f : Option α → Option β) (nothing : f none = none)
include nothing

/-- Putting a column at its place commutes with what is done to the columns. -/
theorem placed_map (columns : List (Option α)) (place : Int) (column : Option α) :
    placed (columns.map f) place (f column)
      = (placed columns place column).map (List.map f) := by
  unfold placed padded
  rw [List.length_map]
  split
  · simp [Except.map]
  · split
    · simp [Except.map, List.map_set, nothing]
    · split
      · simp [Except.map, List.map_set]
      · rfl

end Places

/-- The columns of a primary key are those found for the names in its places. -/
theorem keyColumns_eq (resolve : Resolver) (rows : List KeyRow) :
    keyColumns resolve rows = (keyNames rows).map (List.map (resolved resolve)) := by
  have from_there : ∀ names : List (Option String),
      rows.foldlM (fun columns row => placed columns row.place (resolve row.column))
          (names.map (resolved resolve))
        = (rows.foldlM (fun names row => placed names row.place (some row.column)) names).map
          (List.map (resolved resolve)) := by
    induction rows with
    | nil => intro names; rfl
    | cons row rows ih =>
      intro names
      have here := placed_map (resolved resolve) rfl names row.place (some row.column)
      rw [List.foldlM_cons, List.foldlM_cons]
      rw [show resolve row.column = resolved resolve (some row.column) from rfl, here]
      cases placed names row.place (some row.column) with
      | error fault => rfl
      | ok next => exact ih next
  exact from_there []

end Reconstruction

/-- The rows of a catalog give the names of the columns of an index: those of the primary key by
their places, those of another index in the order of its rows. -/
inductive Catalog.Names (catalog : Catalog) (schema : Option String) (table : String) :
    IndexKind → Option String → List (Option String) → Prop where
  | key {rows : List KeyRow} {names : List (Option String)}
    (read : (catalog.primaryKeys schema table).toList = .ok rows)
    (placed : keyNames rows = .ok names) :
    catalog.Names schema table .primaryKey (keyName rows) names
  | other {rows : List IndexRow} {key : Option String} {run : Run}
    (read : (catalog.indexInfo schema table).toList = .ok rows) (gathered : run ∈ runs key rows) :
    catalog.Names schema table (.ofUnique run.unique) run.name run.columns

/-- The columns of an index are those found for the names that the catalog gives. -/
def Index.NamedIn (index : Index) (catalog : Catalog) (schema : Option String) (table : String)
    (resolve : Resolver) : Prop :=
  ∃ names, catalog.Names schema table index.kind index.name names
    ∧ index.columns = leading (names.map (resolved resolve))

section Reading

variable {catalog : Catalog} {schema : Option String} {table : String} {resolve : Resolver}

theorem index?_eq {b : Binding} {index : Index} (made : b.index? = some index) :
    index = ⟨b.kind, leading b.columns, b.name⟩ := by
  unfold Binding.index? at made
  split at made
  next => cases made
  next => exact (Option.some.inj made).symm

/-- Rows that are gone through have been read, unless there are none. -/
theorem toList_of_rowsOrNotice {α : Type} {what : String} {feed : Feed α} {rows : List α}
    {notices : List Notice} (e : rowsOrNotice what table feed = (.ok rows, notices))
    (some_rows : rows ≠ []) : feed.toList = .ok rows := by
  unfold rowsOrNotice at e
  split at e
  next read => cases e; exact read
  next =>
    split at e
    next => cases e; exact absurd rfl some_rows
    next => cases e

theorem namedIn_of_readKey {primary : Option Index} {key : Option String}
    (ok : (readKey resolve table (catalog.primaryKeys schema table)).1 = .ok (primary, key)) :
    ∀ index, primary = some index → index.NamedIn catalog schema table resolve := by
  rintro index rfl
  unfold readKey at ok
  split at ok
  next => cases ok
  next => cases ok
  next rows notices none_left gone =>
    split at ok
    next => cases ok
    next binding bound =>
      injection ok with ok
      injection ok with made _
      have some_rows : rows ≠ [] := by
        rintro rfl
        exact none_left rfl
      have read := toList_of_rowsOrNotice gone some_rows
      rw [keyBinding, keyColumns_eq] at bound
      cases places : keyNames rows with
      | error fault =>
        rw [places] at bound
        cases bound
      | ok names =>
        rw [places] at bound
        cases bound
        rw [index?_eq made]
        exact ⟨names, .key read places, rfl⟩

theorem namedIn_of_readOthers {key : Option String} {others : List Index}
    (ok : (readOthers resolve table key (catalog.indexInfo schema table)).1 = .ok others) :
    ∀ index ∈ others, index.NamedIn catalog schema table resolve := by
  intro index hi
  unfold readOthers at ok
  split at ok
  next => cases ok
  next rows notices gone =>
    cases ok
    obtain ⟨binding, hb, made⟩ := List.mem_filterMap.mp hi
    obtain ⟨run, hr, rfl⟩ := List.mem_map.mp hb
    have some_rows : rows ≠ [] := by
      rintro rfl
      cases hr
    rw [index?_eq made]
    exact ⟨run.columns, .other (toList_of_rowsOrNotice gone some_rows) hr, rfl⟩

end Reading

/-! ### Reading -/

/-- The columns bear the canonical forms of their remote names. -/
def Canonical (canonicalName : String → String) (columns : List Column) : Prop :=
  ∀ c ∈ columns, c.name = canonicalName c.remoteName

theorem canonical_columnsOf (canonicalName : String → String) (rows : List ColumnRow) :
    Canonical canonicalName (Shape.columnsOf canonicalName rows) := by
  intro c hc
  obtain ⟨⟨row, i⟩, _, rfl⟩ := List.mem_map.mp hc
  rfl

/-- A shape whose columns bear canonical names, and whose indexes have the columns found for the
names that a catalog gives. -/
structure Shape.IsNamed (shape : Shape) (d : Definition) (catalog : Catalog) : Prop where
  canonical : Canonical (Dialect.canonical shape.flags shape.vendor) shape.columns
  indexes : ∀ index ∈ shape.others,
    index.NamedIn catalog d.remoteSchema d.remoteTable shape.resolver

/-- In a shape that is read the columns bear canonical names, and the indexes are those that the
catalog names. -/
theorem Shape.IsRead.isNamed {shape : Shape} {d : Definition} {catalog : Catalog}
    (read : shape.IsRead d catalog) : shape.IsNamed d catalog := by
  obtain ⟨⟨rows, made⟩, none | ⟨primary, key, others, ok, ok', made'⟩⟩ := read
  · exact ⟨made ▸ canonical_columnsOf _ _, by simp [none]⟩
  refine ⟨made ▸ canonical_columnsOf _ _, fun index hi => ?_⟩
  rw [made'] at hi
  rcases List.mem_append.mp hi with hi | hi
  · exact namedIn_of_readKey ok index (Option.mem_toList.mp hi)
  · exact namedIn_of_readOthers ok' index hi

/-! ### What names tell -/

/-- Each column of an index is the only one that the row of the catalog at its place can mean. -/
def Index.IsMeant (index : Index) (shape : Shape) (names : List (Option String)) : Prop :=
  ∀ (i : Nat) (c : Column), index.columns[i]? = some c → ∃ name : String,
    names[i]? = some (some name) ∧ ∀ c' ∈ shape.columns, (c' = c ↔
      Dialect.canonical shape.flags shape.vendor c'.remoteName
        = Dialect.canonical shape.flags shape.vendor name)

theorem getElem?_of_leading {α : Type} {xs : List (Option α)} {i : Nat} {a : α}
    (e : (leading xs)[i]? = some a) : xs[i]? = some (some a) := by
  induction xs generalizing i with
  | nil => cases e
  | cons x xs ih =>
    cases x with
    | none => cases e
    | some b =>
      cases i with
      | zero => cases e; rfl
      | succ i => exact ih e

/-- Where the columns of a shape have distinct names, those of an index are the ones that the rows
of the catalog mean. -/
theorem isMeant_of_nodup {shape : Shape} {index : Index} {names : List (Option String)}
    (canonical : Canonical (Dialect.canonical shape.flags shape.vendor) shape.columns)
    (distinct : (shape.columns.map (·.name)).Nodup)
    (found : index.columns = leading (names.map (resolved shape.resolver))) :
    index.IsMeant shape names := by
  intro i c here
  rw [found] at here
  have resolved_here := getElem?_of_leading here
  rw [List.getElem?_map] at resolved_here
  obtain ⟨reported, at_i, e⟩ := Option.map_eq_some_iff.mp resolved_here
  obtain ⟨name, rfl, e⟩ := Option.bind_eq_some_iff.mp e
  refine ⟨name, at_i, fun c' hc' => ⟨?_, fun same => ?_⟩⟩
  · rintro rfl
    rw [← canonical c' hc']
    exact name_of_column? e
  · rw [← canonical c' hc'] at same
    exact List.inj_on_of_nodup_map distinct hc' (mem_of_column? e)
      (same.trans (name_of_column? e).symm)

/-- How far the names of columns can be trusted, whatever a catalog reports and for every dialect.
If the remote names differ in more than case, the canonical names are distinct. Exactly if they are,
each column is found by the canonical form of its remote name. And then the columns of each index
are those that the rows of the catalog mean. -/
theorem columns_of_readShape {h h' : Host} {d : Definition} {catalog : Catalog} {s : Nat}
    {shape : Shape} (read : h.act (Action.readShape d catalog s) = (.ok shape, h')) :
    (shape.columns.Pairwise (fun c c' => Text.upper c.remoteName ≠ Text.upper c'.remoteName) →
        (shape.columns.map (·.name)).Nodup)
      ∧ ((shape.columns.map (·.name)).Nodup ↔
        ∀ c ∈ shape.columns, shape.resolver c.remoteName = some c)
      ∧ ((shape.columns.map (·.name)).Nodup → ∀ index ∈ shape.others, ∃ names,
        catalog.Names d.remoteSchema d.remoteTable index.kind index.name names
          ∧ index.IsMeant shape names) := by
  have as_read := Action.readShape_yields d catalog s h shape (congrArg Prod.fst read)
  have named := as_read.isNamed
  refine ⟨nodup_names_of_apart named.canonical, ?_, fun distinct index hi => ?_⟩
  · rw [nodup_names_iff as_read.isWellFormed.numbered]
    refine forall₂_congr fun c hc => ?_
    rw [Shape.resolver, ← named.canonical c hc]
  · obtain ⟨names, given, found⟩ := named.indexes index hi
    exact ⟨names, given, isMeant_of_nodup named.canonical distinct found⟩

/-! ### Two tables -/

/-- A catalog of a remote side that folds to lower case, with a primary key over one column. -/
def Catalog.keyed (names : List String) (key : String) : Catalog :=
  { Catalog.listing names with
    flags := { Dialect.Flags.none with storesLower := true }
    primaryKeys := fun _ _ => .ok [.ok ⟨key, 1, none⟩] }

/-- A host with one session. -/
def Host.joined : Host :=
  ((Host.start .quiet (.bare false) .error).act (Action.acquire Definition.bare.key)).2

/-- The shape that is read from a catalog over the session of a host. -/
def Host.shapeOf? (h : Host) (catalog : Catalog) : Option Shape :=
  (h.act (Action.readShape .bare catalog 0)).1.toOption

theorem Host.act_of_shapeOf? {h : Host} {catalog : Catalog} {shape : Shape}
    (e : h.shapeOf? catalog = some shape) :
    h.act (Action.readShape .bare catalog 0)
      = (.ok shape, (h.act (Action.readShape .bare catalog 0)).2) := by
  unfold Host.shapeOf? at e
  generalize h.act (Action.readShape .bare catalog 0) = p at e ⊢
  obtain ⟨fault | read, h'⟩ := p
  · cases e
  · cases e
    rfl

/-- Names that differ in more than case tell the columns of a table apart. -/
theorem columns_of_two_names :
    ∃ shape h', Host.joined.act (Action.readShape .bare (.keyed ["id", "Name"] "id") 0)
        = (.ok shape, h')
      ∧ shape.columns.map (·.name) = ["ID", "Name"]
      ∧ (∀ c ∈ shape.columns, shape.resolver c.remoteName = some c)
      ∧ shape.others.map (·.columns.map (·.remoteName)) = [["id"]] := by
  obtain ⟨shape, e⟩ : ∃ shape, Host.joined.shapeOf? (.keyed ["id", "Name"] "id") = some shape :=
    Option.isSome_iff_exists.mp (by decide +kernel)
  have parts : (Host.joined.shapeOf? (.keyed ["id", "Name"] "id")).map
      (fun shape => (shape.columns.map (·.name), shape.columns.map (Text.upper ·.remoteName),
        shape.others.map (·.columns.map (·.remoteName))))
      = some (["ID", "Name"], ["ID", "NAME"], [["id"]]) := by
    decide +kernel
  rw [e, Option.map_some] at parts
  simp only [Option.some.injEq, Prod.mk.injEq] at parts
  obtain ⟨names, uppers, others⟩ := parts
  have apart : shape.columns.Pairwise fun c c' =>
      Text.upper c.remoteName ≠ Text.upper c'.remoteName := by
    have apart : (shape.columns.map (Text.upper ·.remoteName)).Pairwise (· ≠ ·) := by
      rw [uppers]
      decide
    exact List.pairwise_map.mp apart
  have read := Host.act_of_shapeOf? e
  obtain ⟨distinct, own, -⟩ := columns_of_readShape read
  exact ⟨shape, _, read, names, own.mp (distinct apart), others⟩

/-- A remote table with columns that differ only in case: both get one canonical name, under which
only the last one is found, and the key that the catalog reports over the first one is read as one
over the last one. -/
theorem readShape_collides :
    ∃ shape h', Host.joined.act (Action.readShape .bare (.keyed ["id", "ID"] "id") 0)
        = (.ok shape, h')
      ∧ shape.columns.map (·.remoteName) = ["id", "ID"]
      ∧ ¬ (shape.columns.map (·.name)).Nodup
      ∧ (∃ c ∈ shape.columns, shape.resolver c.remoteName ≠ some c)
      ∧ shape.others.map (·.columns.map (·.remoteName)) = [["ID"]] := by
  obtain ⟨shape, e⟩ : ∃ shape, Host.joined.shapeOf? (.keyed ["id", "ID"] "id") = some shape :=
    Option.isSome_iff_exists.mp (by decide +kernel)
  have parts : (Host.joined.shapeOf? (.keyed ["id", "ID"] "id")).map
      (fun shape => (shape.columns.map (·.remoteName), shape.columns.map (·.name),
        shape.columns.map (fun c => decide (shape.resolver c.remoteName = some c)),
        shape.others.map (·.columns.map (·.remoteName))))
      = some (["id", "ID"], ["ID", "ID"], [false, true], [["ID"]]) := by
    decide +kernel
  rw [e, Option.map_some] at parts
  simp only [Option.some.injEq, Prod.mk.injEq] at parts
  obtain ⟨remote, names, own, others⟩ := parts
  obtain ⟨c, hc, lost⟩ :
      ∃ c ∈ shape.columns, decide (shape.resolver c.remoteName = some c) = false :=
    List.mem_map.mp (own ▸ List.mem_cons_self ..)
  refine ⟨shape, _, Host.act_of_shapeOf? e, remote, ?_, ⟨c, hc, of_decide_eq_false lost⟩, others⟩
  rw [names]
  decide

end LinkedTables
