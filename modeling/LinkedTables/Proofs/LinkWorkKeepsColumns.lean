import LinkedTables.Proofs.LinkWork

/-!
# What the work on links leaves alone

While sessions are opened, read over, released and closed, a table that has its columns keeps them,
and with them everything that its users know of it; only what its link is at the moment may change
(`LinkedTable.standing`). A table without columns may take those of a shape over, and is well-formed
then. Nothing is executed on the way, and neither the undo logs nor the command that is running
change. The relation `Aside t` says so, with an eye on the table `t`.
-/

namespace LinkedTables

/-! ### Tables -/

/-- A table with numbered columns, whose first index is over all of them, and whose other indexes
have columns of the table; only the second index can be a primary key. -/
structure LinkedTable.IsWellFormed (table : LinkedTable) : Prop where
  numbered : Numbered table.columns
  scan : table.indexes.head? = some (Shape.scanIndex table.columns)
  covered : ∀ index ∈ table.indexes.tail, index.Over table.columns
  key : ∀ i index, table.indexes[i]? = some index → index.kind = .primaryKey → i = 1

/-- A table that has not taken a shape over yet, or is well-formed. -/
def LinkedTable.IsFormed (table : LinkedTable) : Prop := table.indexes = [] ∨ table.IsWellFormed

section Standing

variable {table table' : LinkedTable} (same : table'.standing = table.standing)
include same

theorem columns_of_standing : table'.columns = table.columns :=
  show table'.standing.columns = table.standing.columns by rw [same]

theorem indexes_of_standing : table'.indexes = table.indexes :=
  show table'.standing.indexes = table.standing.indexes by rw [same]

theorem qualifiedName_of_standing : table'.qualifiedName = table.qualifiedName :=
  show table'.standing.qualifiedName = table.standing.qualifiedName by rw [same]

theorem valid_of_standing : table'.valid = table.valid :=
  show table'.standing.valid = table.standing.valid by rw [same]

theorem isWellFormed_of_standing (formed : table.IsWellFormed) : table'.IsWellFormed := by
  have columns := columns_of_standing same
  have indexes := indexes_of_standing same
  refine ⟨?_, ?_, ?_, ?_⟩
  · rw [columns]
    exact formed.numbered
  · rw [columns, indexes]
    exact formed.scan
  · rw [columns, indexes]
    exact formed.covered
  · rw [indexes]
    exact formed.key

theorem isFormed_of_standing (formed : table.IsFormed) : table'.IsFormed := by
  rcases formed with blank | formed
  · exact .inl ((indexes_of_standing same).trans blank)
  · exact .inr (isWellFormed_of_standing same formed)

end Standing

/-- A table that takes a well-formed shape over is well-formed. -/
theorem isWellFormed_adopted {shape : Shape} (formed : shape.IsWellFormed) (table : LinkedTable) :
    (Action.adopted shape table).IsWellFormed := by
  refine ⟨formed.numbered, rfl, formed.covered, fun i index found isKey => ?_⟩
  cases i with
  | zero =>
    cases found
    cases isKey
  | succ i => rw [formed.key i index found isKey]

namespace Host

/-- A change of a table is seen in that table only. -/
theorem table_of_revise (h : Host) (u t : Nat) (f : LinkedTable → LinkedTable) :
    ({ h with tables := h.tables.revise u f } : Host).table t = h.table t
      ∨ u = t ∧ ({ h with tables := h.tables.revise u f } : Host).table t = f (h.table t) := by
  simp only [table, Roster.at?_revise]
  split
  next e =>
    cases h.tables.at? t with
    | none => exact .inl rfl
    | some table => exact .inr ⟨e, rfl⟩
  next => exact .inl rfl

end Host

/-! ### The relation -/

/-- The table `t` stands as it did, if it has its columns, and nobody has lost anything. -/
structure Held (t : Nat) (h h' : Host) : Prop where
  known : h'.tables.next = h.tables.next
  kept : (h.table t).indexes ≠ [] → (h'.table t).standing = (h.table t).standing
  valid : (h'.table t).valid = (h.table t).valid
  formed : (h.table t).IsFormed → (h'.table t).IsFormed
  numbered : Numbered (h.table t).columns → Numbered (h'.table t).columns
  clients : h'.clients = h.clients
  shelved : Shelved h h'

theorem held (t : Nat) : Frame (Held t) where
  refl h := ⟨rfl, fun _ => rfl, rfl, id, id, rfl, shelved.refl h⟩
  trans := by
    intro h h' h'' a b
    refine ⟨b.known.trans a.known, fun has => ?_, b.valid.trans a.valid,
      fun formed => b.formed (a.formed formed), fun numbered => b.numbered (a.numbered numbered),
      b.clients.trans a.clients, shelved.trans a.shelved b.shelved⟩
    have indexes := indexes_of_standing (a.kept has)
    exact (b.kept (indexes ▸ has)).trans (a.kept has)

/-- Nothing has been executed, and the table `t` stands as it did, if it has its columns. -/
structure Aside (t : Nat) (h h' : Host) : Prop extends Held t h h' where
  cancelled : h'.cancelled = h.cancelled
  answered : h'.results.next = h.results.next
  sent : h'.sent = h.sent

theorem aside (t : Nat) : Frame (Aside t) where
  refl h := ⟨(held t).refl h, rfl, rfl, rfl⟩
  trans := fun a b => ⟨(held t).trans a.toHeld b.toHeld, b.cancelled.trans a.cancelled,
    b.answered.trans a.answered, b.sent.trans a.sent⟩

variable {t : Nat}

/-- Tables and clients have not changed. -/
theorem Held.of_shelved {h h' : Host} (shelved : Shelved h h') (tables : h'.tables = h.tables)
    (clients : h'.clients = h.clients) : Held t h h' := by
  have table : h'.table t = h.table t := by rw [Host.table, tables]; rfl
  exact ⟨congrArg Roster.next tables, fun _ => by rw [table], by rw [table],
    fun formed => by rw [table]; exact formed,
    fun numbered => by rw [table]; exact numbered, clients, shelved⟩

theorem Calm.aside {h h' : Host} (c : Calm h h') : Aside t h h' :=
  ⟨.of_shelved c.shelved c.tables c.clients, c.cancelled, c.answered, c.sent⟩

/-- A change of tables alone. -/
theorem aside_of_tables {h : Host} {tables : Roster LinkedTable}
    (known : tables.next = h.tables.next)
    (changed : ({ h with tables } : Host).table t = h.table t
      ∨ (({ h with tables } : Host).table t).standing = (h.table t).standing) :
    Aside t h { h with tables } := by
  have same : (({ h with tables } : Host).table t).standing = (h.table t).standing := by
    rcases changed with e | e
    · rw [e]
    · exact e
  exact ⟨⟨known, fun _ => same, valid_of_standing same, isFormed_of_standing same,
    fun numbered => by rw [columns_of_standing same]; exact numbered, rfl, .of_same rfl rfl⟩, rfl,
    rfl, rfl⟩

/-! ### Work on links -/

namespace Action

theorem aside_of_calm {α : Type} {x : Action α} (hx : Keeps Calm x) : Keeps (Aside t) x :=
  hx.mono fun _ _ => Calm.aside

theorem aside_fromScript {α : Type} (call : Remote.Script → α × Remote.Script) :
    Keeps (Aside t) (fromScript call) :=
  Keeps.of_fromScript (aside t)
    (fun _ _ => ⟨.of_shelved (.of_same rfl rfl) rfl rfl, rfl, rfl, rfl⟩) call

end Action

/-- The work on sessions. -/
theorem asideSession (t : Nat) : SessionFrame (Aside t) where
  toFrame := aside t
  calm := Calm.aside
  script _ := ⟨.of_shelved (.of_same rfl rfl) rfl rfl, rfl, rfl, rfl⟩
  session fewer := ⟨.of_shelved (.of_session fun session sql st found =>
    .inl (fewer session sql st found)) rfl rfl, rfl, rfl, rfl⟩
  opened bare := ⟨.of_shelved (.of_open bare) rfl rfl, rfl, rfl, rfl⟩

/-- The work on the link of any table. -/
theorem asideLink (t u : Nat) : LinkFrame u (Aside t) where
  toSessionFrame := asideSession t
  link := by
    intro h f hf
    refine aside_of_tables (Roster.next_revise ..) ?_
    rcases h.table_of_revise u t f with e | ⟨_, e⟩
    · exact .inl e
    · exact .inr (by rw [e, hf])
  adopt := by
    intro h shape formed blank
    have known := Roster.next_revise h.tables u (Action.adopted shape)
    rcases h.table_of_revise u t (Action.adopted shape) with e | ⟨rfl, e⟩
    · exact aside_of_tables known (.inl e)
    · refine ⟨⟨known, fun has => absurd blank has, by rw [e]; rfl, fun _ => ?_, fun _ => ?_, rfl,
        .of_same rfl rfl⟩, rfl, rfl, rfl⟩
      · rw [e]
        exact .inr (isWellFormed_adopted formed _)
      · rw [e]
        exact formed.numbered

end LinkedTables
