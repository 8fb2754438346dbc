import LinkedTables.Proofs.OperationLogic
import LinkedTables.Proofs.Shapes
import Mathlib.Data.List.Pairwise

/-!
# Where a catalog puts a table

Several remote tables may bear one name, and then a catalog reports the columns of all of them. So
its columns are to be taken only if all rows report one catalog and one schema (`Agreed`).

The reading carries the first catalog and the first schema that a row reports. A row that leaves one
of them out behind a row that reports it is noticed, but not a row that leaves it out before. What
the reading asks of a field is thus `Settles`, which depends on the order of the rows, and a row at a
time the carried value takes the place of the values behind it (`settles_cons_cons`). It comes to
agreement for rows none of which leaves out what a later one reports (`ReportedFirst`). The main
statement is `catalogColumns_of_rows`.
-/

namespace LinkedTables

namespace Shape

/-! ### A field of the rows -/

/-- Values behind the first one that is reported are the same as it. -/
def Settles (values : List (Option String)) : Prop := values.Pairwise fun v w => v = none ∨ v = w

theorem settles_singleton (v : Option String) : Settles [v] := List.pairwise_singleton _ v

theorem settles_none_cons (values : List (Option String)) :
    Settles (none :: values) ↔ Settles values := by
  simp [Settles]

/-- Of two values in front the first one that is reported can be carried instead, if the second one
is the same. -/
theorem settles_cons_cons (v w : Option String) (values : List (Option String)) :
    Settles (v :: w :: values) ↔ w = (v <|> w) ∧ Settles ((v <|> w) :: values) := by
  cases v with
  | none => simp [settles_none_cons]
  | some a =>
    -- The carried value stays, and stands for the second one, which is the same.
    show Settles (some a :: w :: values) ↔ w = some a ∧ Settles (some a :: values)
    constructor
    · intro settled
      obtain ⟨first, behind⟩ := List.pairwise_cons.mp settled
      obtain none_carried | same := first w (List.mem_cons_self ..)
      · cases none_carried
      · exact ⟨same.symm, same ▸ behind⟩
    · rintro ⟨rfl, settled⟩
      refine List.pairwise_cons.mpr ⟨?_, settled⟩
      intro w here
      rcases List.mem_cons.mp here with rfl | here
      · exact .inr rfl
      · exact (List.pairwise_cons.mp settled).1 w here

section Field

variable {field : ColumnRow → Option String} {rows : List ColumnRow}

/-- If no row leaves out what a later one reports, all rows are the same in a field that settles. -/
theorem eq_of_settles (first : rows.Pairwise fun a b => field a = none → field b = none)
    (settles : Settles (rows.map field)) : ∀ a ∈ rows, ∀ b ∈ rows, field a = field b := by
  have same : rows.Pairwise fun a b => field a = field b := by
    refine first.imp₂ ?_ (List.pairwise_map.mp settles)
    intro a b kept settles
    refine settles.elim ?_ id
    intro left_out
    rw [left_out, kept left_out]
  have symmetric : Std.Symm fun a b => field a = field b := ⟨fun _ _ e => e.symm⟩
  intro a ha b hb
  exact List.Pairwise.forall_of_forall (R := fun a b => field a = field b) (fun _ _ => rfl) same
    ha hb

/-- Whatever the order, two rows that report a field report the same in one that settles. -/
theorem eq_of_reported (settles : Settles (rows.map field)) :
    ∀ a ∈ rows, ∀ b ∈ rows, field a ≠ none → field b ≠ none → field a = field b := by
  have same : rows.Pairwise fun a b => field a ≠ none → field b ≠ none → field a = field b := by
    refine (List.pairwise_map.mp settles).imp ?_
    intro a b settles given _
    exact settles.resolve_left given
  have symmetric : Std.Symm fun a b => field a ≠ none → field b ≠ none → field a = field b :=
    ⟨fun _ _ e given given' => (e given' given).symm⟩
  intro a ha b hb
  exact same.forall_of_forall (fun _ _ _ _ => rfl) ha hb

end Field

/-! ### The rows -/

/-- The rows settle on a catalog and a schema. -/
def Settled (rows : List ColumnRow) : Prop :=
  Settles (rows.map (·.catalog)) ∧ Settles (rows.map (·.schema))

/-- All rows report the same catalog and the same schema. -/
def Agreed (rows : List ColumnRow) : Prop :=
  ∀ a ∈ rows, ∀ b ∈ rows, a.catalog = b.catalog ∧ a.schema = b.schema

/-- No row leaves out a catalog or a schema that a later one reports. -/
def ReportedFirst (rows : List ColumnRow) : Prop :=
  rows.Pairwise fun a b =>
    (a.catalog = none → b.catalog = none) ∧ (a.schema = none → b.schema = none)

/-- Two rows report different catalogs, or different schemas. -/
def Clash (a b : ColumnRow) : Prop :=
  (a.catalog ≠ none ∧ b.catalog ≠ none ∧ a.catalog ≠ b.catalog)
    ∨ (a.schema ≠ none ∧ b.schema ≠ none ∧ a.schema ≠ b.schema)

theorem settled_of_agreed {rows : List ColumnRow} (agreed : Agreed rows) : Settled rows := by
  have same : rows.Pairwise fun a b => a.catalog = b.catalog ∧ a.schema = b.schema :=
    List.pairwise_of_forall_mem_list agreed
  constructor
  · exact List.pairwise_map.mpr (same.imp fun both => .inr both.1)
  · exact List.pairwise_map.mpr (same.imp fun both => .inr both.2)

theorem agreed_of_settled {rows : List ColumnRow} (first : ReportedFirst rows)
    (settled : Settled rows) : Agreed rows := by
  have catalogs := eq_of_settles (first.imp fun both => both.1) settled.1
  have schemas := eq_of_settles (first.imp fun both => both.2) settled.2
  intro a ha b hb
  exact ⟨catalogs a ha b hb, schemas a ha b hb⟩

theorem agreed_of_perm {rows rows' : List ColumnRow} (perm : rows.Perm rows')
    (agreed : Agreed rows) : Agreed rows' := by
  intro a ha b hb
  exact agreed a (perm.mem_iff.mpr ha) b (perm.mem_iff.mpr hb)

/-- Rows that settle do not clash, in whichever order they come. -/
theorem not_clash_of_settled {rows : List ColumnRow} (settled : Settled rows) {a b : ColumnRow}
    (ha : a ∈ rows) (hb : b ∈ rows) : ¬ Clash a b := by
  rintro (⟨given, given', other⟩ | ⟨given, given', other⟩)
  · exact other (eq_of_reported settled.1 a ha b hb given given')
  · exact other (eq_of_reported settled.2 a ha b hb given given')

/-! ### Reading -/

/-- The rows settle on what is carried and reported. -/
def SettledFrom (origin : Origin) (rows : List ColumnRow) : Prop :=
  Settles (origin.catalog :: rows.map (·.catalog)) ∧ Settles (origin.schema :: rows.map (·.schema))

theorem settledFrom_nil (origin : Origin) : SettledFrom origin [] :=
  ⟨settles_singleton _, settles_singleton _⟩

/-- One more row is the same as what is carried then, and the rows behind settle on it. -/
theorem settledFrom_cons (origin : Origin) (row : ColumnRow) (rows : List ColumnRow) :
    SettledFrom origin (row :: rows)
      ↔ (origin.learn row).agrees row = true ∧ SettledFrom (origin.learn row) rows := by
  unfold SettledFrom
  rw [List.map_cons, List.map_cons, settles_cons_cons, settles_cons_cons, Origin.agrees,
    Bool.and_eq_true, beq_iff_eq, beq_iff_eq]
  exact and_and_and_comm

/-- The rows are read to the end if they settle, and are dropped otherwise. -/
theorem gather_of_rows (origin : Origin) (rows : List ColumnRow) :
    ∃ read schema, gather origin (rows.map .ok) = .ok (read, schema)
      ∧ (SettledFrom origin rows → read = some rows)
      ∧ (¬ SettledFrom origin rows → read = none) := by
  induction rows generalizing origin with
  | nil => exact ⟨some [], origin.schema, rfl, fun _ => rfl, absurd (settledFrom_nil origin)⟩
  | cons row rows ih =>
    rw [settledFrom_cons, List.map_cons, gather]
    dsimp only
    by_cases agrees : (origin.learn row).agrees row = true
    · -- What is carried from here on is what the rows behind have to settle on.
      obtain ⟨read, schema, gathered, all, dropped⟩ := ih (origin.learn row)
      rw [if_pos agrees, gathered]
      refine ⟨read.map (row :: ·), schema, rfl, ?_, ?_⟩
      · rintro ⟨-, settled⟩
        rw [all settled]
        rfl
      · intro unsettled
        rw [dropped fun settled => unsettled ⟨agrees, settled⟩]
        rfl
    · rw [if_neg agrees]
      refine ⟨none, (origin.learn row).schema, rfl, ?_, fun _ => rfl⟩
      rintro ⟨agrees', -⟩
      exact absurd agrees' agrees

/-- The catalog comes to columns for its rows. -/
def Reports (canonicalName : String → String) (rows : List ColumnRow) (columns : List Column) :
    Prop :=
  ∃ schema, catalogColumns canonicalName (.ok (rows.map .ok)) = .ok (columns, schema)

theorem Reports.unique {canonicalName : String → String} {rows : List ColumnRow}
    {columns columns' : List Column} (first : Reports canonicalName rows columns)
    (second : Reports canonicalName rows columns') : columns = columns' := by
  obtain ⟨schema, first⟩ := first
  obtain ⟨schema', second⟩ := second
  cases first.symm.trans second
  rfl

theorem reports_of_settled (canonicalName : String → String) (rows : List ColumnRow) :
    (Settled rows → Reports canonicalName rows (columnsOf canonicalName rows))
      ∧ (¬ Settled rows → Reports canonicalName rows []) := by
  obtain ⟨read, schema, gathered, all, dropped⟩ := gather_of_rows ⟨none, none⟩ rows
  have from_none : SettledFrom ⟨none, none⟩ rows ↔ Settled rows :=
    and_congr (settles_none_cons _) (settles_none_cons _)
  have reported : Reports canonicalName rows (columnsOf canonicalName (read.getD [])) := by
    refine ⟨schema, ?_⟩
    show (gather ⟨none, none⟩ (rows.map .ok) >>= fun r =>
      (.ok (columnsOf canonicalName (r.1.getD []), r.2) : Except Fault _)) = _
    rw [gathered]
    rfl
  rw [from_none] at all dropped
  constructor
  · intro settled
    rw [all settled] at reported
    exact reported
  · intro unsettled
    rw [dropped unsettled] at reported
    exact reported

/-- The column at a place is made of the row at this place. -/
theorem getElem?_columnsOf (canonicalName : String → String) (rows : List ColumnRow) (i : Nat) :
    (columnsOf canonicalName rows)[i]? = rows[i]?.map (columnOf canonicalName i) := by
  rw [columnsOf, List.getElem?_map, List.getElem?_zipIdx, Option.map_map, Nat.zero_add]
  rfl

/-! ### The columns of a shape -/

/-- The columns that a probe of a table by its name describes. -/
def Probed (s : Nat) (name table : String) (rows : List ColumnRow) : Prop :=
  ∃ h : Host, (h.act (Action.probe s name table)).1 = .ok rows

/-- The columns of a shape come from the catalog if it comes to any, and from the probe
otherwise. -/
structure DrawsFrom (shape : Shape) (s : Nat) (table : String) (reported : List Column) : Prop where
  taken : reported ≠ [] → shape.columns = reported
  described : reported = [] → ∃ probed, Probed s shape.qualifiedName table probed
    ∧ shape.columns = columnsOf (Dialect.canonical shape.flags shape.vendor) probed

end Shape

namespace Action

open Yields

theorem readCatalogColumns_reports (catalog : Catalog) (canonicalName : String → String)
    (schema : Option String) (table : String) {rows : List ColumnRow}
    (given : catalog.columns schema table = .ok (rows.map .ok)) :
    Yields (readCatalogColumns catalog canonicalName schema table) fun r =>
      Shape.Reports canonicalName rows r.1 := by
  refine behind fun _ => behind fun found => ?_
  have read : Yields (do
      ask catalog .columns schema table
      ofExcept (Shape.catalogColumns canonicalName (catalog.columns schema table)))
      fun r => Shape.Reports canonicalName rows r.1 := by
    refine behind fun _ => of_ofExcept fun r ok => ?_
    rw [given] at ok
    exact ⟨r.2, ok⟩
  exact of_ite (fun _ => behind fun _ => read) fun _ => read

theorem probe_yields (s : Nat) (name table : String) :
    Yields (probe s name table) (Shape.Probed s name table) :=
  fun h _ ok => ⟨h, ok⟩

/-- A table that is read by its name draws its columns from what the catalog comes to. -/
theorem readShape_draws {d : Definition} (byName : d.isQuery = false) {catalog : Catalog}
    {rows : List ColumnRow}
    (given : catalog.columns d.remoteSchema d.remoteTable = .ok (rows.map .ok)) (s : Nat) :
    Yields (readShape d catalog s) fun shape => ∃ reported,
      Shape.Reports (Dialect.canonical shape.flags shape.vendor) rows reported
        ∧ shape.DrawsFrom s d.remoteTable reported := by
  refine behind fun _ => behind fun h => ?_
  rw [byName]
  refine bind (readCatalogColumns_reports _ _ _ _ given) ?_
  rintro ⟨reported, schema⟩ reports
  -- The probe is made in any case, and is used if nothing was reported.
  refine bind (probe_yields _ _ _) fun probed described => ?_
  refine behind fun others => behind fun _ => of_pure ⟨reported, reports, ?_, ?_⟩
  · intro some_reported
    exact if_neg (by simpa using some_reported)
  · rintro rfl
    exact ⟨probed, described, rfl⟩

end Action

/-! ### Agreement -/

namespace Shape

theorem reports_of_agreed (canonicalName : String → String) {rows : List ColumnRow}
    (agreed : Agreed rows) : Reports canonicalName rows (columnsOf canonicalName rows) :=
  (reports_of_settled canonicalName rows).1 (settled_of_agreed agreed)

theorem reports_of_not_agreed (canonicalName : String → String) {rows : List ColumnRow}
    (first : ReportedFirst rows) (apart : ¬ Agreed rows) : Reports canonicalName rows [] :=
  (reports_of_settled canonicalName rows).2 fun settled => apart (agreed_of_settled first settled)

/-- Rows none of which leaves out what a later one reports come to no columns exactly if there are
none or they do not agree. -/
theorem reports_nil_iff (canonicalName : String → String) {rows : List ColumnRow}
    (first : ReportedFirst rows) : Reports canonicalName rows [] ↔ rows = [] ∨ ¬ Agreed rows := by
  by_cases agreed : Agreed rows
  · have all := reports_of_agreed canonicalName agreed
    rw [or_iff_left (not_not_intro agreed), ← List.length_eq_zero_iff,
      ← columnsOf_length canonicalName rows, List.length_eq_zero_iff]
    exact ⟨all.unique, fun none_made => none_made ▸ all⟩
  · exact iff_of_true (reports_of_not_agreed canonicalName first agreed) (.inr agreed)

/-- When a catalog comes to columns for its rows, one for each in their order, and when the shape
that is read draws its columns from the probe instead. All rows are used if they agree, and none if
two of them clash, whatever the order. Where no row leaves out what a later one reports, none is used
either if they do not agree, and the order does not matter. For all other rows, they are used as long
as they settle. -/
theorem catalogColumns_of_rows (canonicalName : String → String) (rows : List ColumnRow) :
    (∀ i, (columnsOf canonicalName rows)[i]? = rows[i]?.map (columnOf canonicalName i))
      ∧ (Agreed rows → Reports canonicalName rows (columnsOf canonicalName rows))
      ∧ (∀ a ∈ rows, ∀ b ∈ rows, Clash a b → Reports canonicalName rows [])
      ∧ (ReportedFirst rows → ¬ Agreed rows → Reports canonicalName rows [])
      ∧ (∀ rows', rows.Perm rows' → ReportedFirst rows → ReportedFirst rows' →
        (Reports canonicalName rows [] ↔ Reports canonicalName rows' []))
      ∧ ((Settled rows → Reports canonicalName rows (columnsOf canonicalName rows))
        ∧ (¬ Settled rows → Reports canonicalName rows []))
      ∧ ∀ (d : Definition) (catalog : Catalog) (s : Nat), d.isQuery = false →
        catalog.columns d.remoteSchema d.remoteTable = .ok (rows.map .ok) →
        (Action.readShape d catalog s).Yields fun shape => ∃ reported,
          Reports (Dialect.canonical shape.flags shape.vendor) rows reported
            ∧ shape.DrawsFrom s d.remoteTable reported := by
  refine ⟨getElem?_columnsOf canonicalName rows, reports_of_agreed canonicalName, ?_,
    reports_of_not_agreed canonicalName, ?_, reports_of_settled canonicalName rows, ?_⟩
  · intro a ha b hb clash
    exact (reports_of_settled canonicalName rows).2 fun settled =>
      not_clash_of_settled settled ha hb clash
  · intro rows' perm first first'
    have agreed : Agreed rows ↔ Agreed rows' := ⟨agreed_of_perm perm, agreed_of_perm perm.symm⟩
    have some_rows : rows = [] ↔ rows' = [] := by
      rw [← List.length_eq_zero_iff, perm.length_eq, List.length_eq_zero_iff]
    rw [reports_nil_iff canonicalName first, reports_nil_iff canonicalName first', agreed,
      some_rows]
  · intro d catalog s byName given
    exact Action.readShape_draws byName given s

/-- A row of a column of whole numbers in a catalog. -/
def rowIn (catalog : Option String) (column : String) : ColumnRow :=
  ⟨catalog, none, none, column, .integer, none, 0, 0, true⟩

/-- A host with one session, over which a probe describes one column. -/
def describing : Host :=
  let script : Remote.Script :=
    { Remote.Script.quiet with probes := [.ok (some [[.text "X", .int 1]])] }
  ((Host.start script (.bare false) .error).act (Action.acquire Definition.bare.key)).2

/-- Two rows of one catalog; rows of two catalogs behind one that leaves it out; and rows of which
only the last one leaves it out, in two orders, so that the shape has the column of the probe. -/
theorem catalogColumns_of_catalogs :
    let last := [rowIn "c1" "A", rowIn "c1" "B", rowIn none "C"]
    let catalog := { Catalog.bare with columns := fun _ _ => .ok (last.map .ok) }
    Reports id [rowIn "c1" "A", rowIn "c1" "B"] (columnsOf id [rowIn "c1" "A", rowIn "c1" "B"])
      ∧ Reports id [rowIn none "A", rowIn "c1" "B", rowIn "c2" "C"] []
      ∧ (Reports id last [] ∧ Reports id [rowIn "c1" "B", rowIn "c1" "A", rowIn none "C"] [])
      ∧ ∃ shape h', describing.act (Action.readShape .bare catalog 0) = (.ok shape, h')
        ∧ shape.columns.map (·.name) = ["X"]
        ∧ ∃ probed, Probed 0 shape.qualifiedName "T" probed
          ∧ shape.columns = columnsOf (Dialect.canonical shape.flags shape.vendor) probed := by
  intro last catalog
  have agreed : Agreed [rowIn "c1" "A", rowIn "c1" "B"] := by
    unfold Agreed
    decide
  have first : ReportedFirst last := by
    unfold ReportedFirst
    decide
  have first' : ReportedFirst [rowIn "c1" "B", rowIn "c1" "A", rowIn none "C"] := by
    unfold ReportedFirst
    decide
  have apart : ¬ Agreed last := by
    unfold Agreed
    decide
  have clash : Clash (rowIn "c1" "B") (rowIn "c2" "C") := by
    unfold Clash
    decide
  obtain ⟨-, used, -⟩ := catalogColumns_of_rows id [rowIn "c1" "A", rowIn "c1" "B"]
  obtain ⟨-, -, clashing, -⟩ :=
    catalogColumns_of_rows id [rowIn none "A", rowIn "c1" "B", rowIn "c2" "C"]
  obtain ⟨-, -, -, dropped, alike, -, drawn⟩ := catalogColumns_of_rows id last
  have none_used := dropped first apart
  refine ⟨used agreed, clashing _ (by simp) _ (by simp) clash,
    ⟨none_used, (alike _ (List.Perm.swap ..) first first').mp none_used⟩, ?_⟩
  have read : ((describing.act (Action.readShape .bare catalog 0)).1.toOption.map
      fun shape => shape.columns.map (·.name)) = some ["X"] := by
    decide +kernel
  have draws := drawn .bare catalog 0 rfl rfl describing
  generalize describing.act (Action.readShape .bare catalog 0) = p at read draws ⊢
  obtain ⟨fault | shape, h'⟩ := p
  · cases read
  · obtain ⟨reported, reports, drawn⟩ := draws shape rfl
    have none_reported := reports.unique (reports_of_not_agreed _ first apart)
    exact ⟨shape, h', rfl, Option.some.inj read, drawn.described none_reported⟩

/-- A row that leaves the catalog out in front of one that reports it is let through, although the
rows do not agree; the other way round no row is used. -/
theorem catalogColumns_of_late_catalog :
    let rows := [rowIn none "A", rowIn "c1" "B"]
    ¬ Agreed rows ∧ Reports id rows (columnsOf id rows) ∧ ¬ Reports id rows []
      ∧ rows.Perm rows.reverse ∧ Reports id rows.reverse [] := by
  intro rows
  have apart : ¬ Agreed rows := by
    unfold Agreed
    decide
  have used : Reports id rows (columnsOf id rows) := ⟨none, rfl⟩
  refine ⟨apart, used, ?_, (List.reverse_perm rows).symm, ⟨none, rfl⟩⟩
  intro none_used
  cases used.unique none_used

end Shape

end LinkedTables
