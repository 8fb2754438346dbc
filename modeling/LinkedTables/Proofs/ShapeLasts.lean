import LinkedTables.Proofs.LinkWorkKeepsColumns
import LinkedTables.Proofs.UseFrame

/-!
# The shape of a table lasts

A table that has taken a shape over keeps it through every operation, until it is removed: whatever
the remote side reports to later connects, its columns, its qualified name and its indexes stay
(`perform_lasts`, `after_lasts`). A table that was created is well-formed (`createTable_formed`), so
that it is well-formed as long as it lasts (`shape_of_run`).
-/

namespace LinkedTables

/-- What a table has taken over from the shape of its remote table. -/
def LinkedTable.layout (table : LinkedTable) : List Column × String × List Index :=
  (table.columns, table.qualifiedName, table.indexes)

/-- The table `t` is still there, and has the layout that it had. -/
structure Lasts (t : Nat) (h h' : Host) : Prop where
  known : t < h.tables.next → t < h'.tables.next
  valid : t < h.tables.next → (h'.table t).valid = (h.table t).valid
  layout : t < h.tables.next → (h.table t).indexes ≠ [] →
    (h'.table t).layout = (h.table t).layout

theorem indexes_of_layout {table table' : LinkedTable} (same : table'.layout = table.layout) :
    table'.indexes = table.indexes :=
  congrArg (fun layout => layout.2.2) same

theorem isWellFormed_of_layout {table table' : LinkedTable} (same : table'.layout = table.layout)
    (formed : table.IsWellFormed) : table'.IsWellFormed := by
  simp only [LinkedTable.layout, Prod.mk.injEq] at same
  obtain ⟨columns, -, indexes⟩ := same
  exact ⟨columns ▸ formed.numbered, by rw [columns, indexes]; exact formed.scan,
    by rw [columns, indexes]; exact formed.covered, indexes ▸ formed.key⟩

theorem lasts (t : Nat) : Frame (Lasts t) where
  refl _ := ⟨id, fun _ => rfl, fun _ _ => rfl⟩
  trans := by
    intro h h' h'' a b
    refine ⟨fun known => b.known (a.known known),
      fun known => (b.valid (a.known known)).trans (a.valid known), fun known has => ?_⟩
    have same := a.layout known has
    exact (b.layout (a.known known) (indexes_of_layout same ▸ has)).trans same

variable {t : Nat}

theorem Lasts.of_tables {h h' : Host} (tables : h'.tables = h.tables) : Lasts t h h' := by
  have table : h'.table t = h.table t := by rw [Host.table, tables]; rfl
  exact ⟨fun known => tables ▸ known, fun _ => by rw [table], fun _ _ => by rw [table]⟩

/-- A change of tables that leaves the layout of the table `t` alone. -/
theorem Lasts.of_revise {h : Host} {u : Nat} {f : LinkedTable → LinkedTable}
    (same : u = t → (f (h.table t)).valid = (h.table t).valid
      ∧ (f (h.table t)).layout = (h.table t).layout) :
    Lasts t h { h with tables := h.tables.revise u f } := by
  have known := Roster.next_revise h.tables u f
  rcases h.table_of_revise u t f with e | ⟨own, e⟩
  · exact ⟨fun k => known ▸ k, fun _ => by rw [e], fun _ _ => by rw [e]⟩
  · exact ⟨fun k => known ▸ k, fun _ => by rw [e, (same own).1],
      fun _ _ => by rw [e, (same own).2]⟩

theorem Held.lasts {h h' : Host} (a : Held t h h') : Lasts t h h' := by
  refine ⟨fun known => a.known ▸ known, fun _ => a.valid, fun _ has => ?_⟩
  have same := a.kept has
  rw [LinkedTable.layout, columns_of_standing same, qualifiedName_of_standing same,
    indexes_of_standing same]
  rfl

/-! ### Work on tables -/

/-- The work on the link of any table. -/
theorem lastsLink (t u : Nat) : LinkFrame u (Lasts t) :=
  (asideLink t u).mono (lasts t) fun a => a.lasts

/-- The use of any table. -/
theorem lastsUpkeep (t : Nat) : Upkeep (Lasts t) := by
  have used : UseFrame (Lasts t) :=
    { lasts t with idle := fun i _ => .of_tables i.tables, answer := fun _ => .of_tables rfl }
  refine { used with execute := fun u => used.execute (lastsLink t u), settings := ?_ }
  intro h u f unset
  refine .of_revise fun same => ?_
  subst same
  exact ⟨(congrArg LinkedTable.valid unset :), (congrArg LinkedTable.layout unset :)⟩

namespace Action

open Keeps

theorem lasts_reviseOther {u : Nat} (other : u ≠ t) (f : LinkedTable → LinkedTable) :
    Keeps (Lasts t) (reviseTable u f) :=
  of_modify fun _ => .of_revise fun same => absurd same other

theorem lasts_createTable (h : Host) (table : LinkedTable) :
    Lasts t h (h.act (createTable table)).2 := by
  by_cases known : t < h.tables.next
  · have other : h.tables.next ≠ t := by omega
    refine (lastsUpkeep t).createTable ?_
      ((lastsUpkeep t).connectNew (lastsLink t _).connect (lasts_reviseOther other _))
    have same := Host.table_withTable_of_lt known table
    refine ⟨fun _ => ?_, fun _ => by rw [same], fun _ _ => by rw [same]⟩
    rw [Host.next_withTable]
    omega
  · exact ⟨fun k => absurd k known, fun k => absurd k known, fun k => absurd k known⟩

theorem lasts_removeTable {u : Nat} (other : u ≠ t) : Keeps (Lasts t) (removeTable u) :=
  (lastsUpkeep t).removeTable (lastsLink t u).closeLink (lasts_reviseOther other _)

end Action

/-! ### Operations -/

/-- The operation removes the table `t`. -/
def Operation.Removes (t : Nat) (h : Host) : Operation → Prop
  | removeTable u => u = t
  | dropTable schema name =>
    ∃ variant, h.registry.value? (schema, name) = some variant ∧ variant.table = t
  | _ => False

open LinkedTables.Action in
/-- An operation that does not remove a table lets it be. -/
theorem Host.perform_lasts {h : Host} {o : Operation} (spared : ¬ o.Removes t h) :
    Lasts t h (h.perform o).2 := by
  have L := lastsLink t
  have U := (lastsUpkeep t).toUseFrame
  have reply {α : Type} {x : Action α} (f : α → Reply) (hx : Lasts t h (h.act x).2) :
      Lasts t h (h.act (do return f (← x))).2 := by
    rwa [Host.snd_act_map]
  cases o with
  | createTable table => exact reply .table (lasts_createTable h table)
  | connect u => exact reply .session ((L u).connect h)
  | reconnect u failed => exact reply .session ((L u).reconnect failed h)
  | giveUpSession u => exact reply (fun _ => .done) ((L u).giveUpSession h)
  | closeLink u => exact reply (fun _ => .done) ((L u).closeLink h)
  | removeTable u => exact reply (fun _ => .done) (lasts_removeTable spared h)
  | dropTable schema name =>
    exact reply (fun _ => .done) (U.dropTable fun variant found =>
      lasts_removeTable fun same => spared ⟨variant, found, same⟩)
  | _ => exact (lastsUpkeep t).perform id h

/-! ### Runs -/

/-- No operation of a run removes the table `t`. -/
def Host.Spares (t : Nat) (h : Host) : List Operation → Prop
  | [] => True
  | o :: run => ¬ o.Removes t h ∧ (h.perform o).2.Spares t run

/-- A table that no operation removes lasts through a run. -/
theorem Host.after_lasts {h : Host} {run : List Operation} (spared : h.Spares t run) :
    Lasts t h (h.after run) := by
  induction run generalizing h with
  | nil => exact (lasts t).refl h
  | cons o run ih => exact (lasts t).trans (perform_lasts spared.1) (ih spared.2)

/-- A remote side that refuses some connections behind those that it admits. -/
def Remote.Script.admitting (admitted refused : Nat) : Remote.Script :=
  { Remote.Script.quiet with
    connects := List.replicate admitted none
      ++ List.replicate refused (some (.remote ⟨.operational, "connection refused", none⟩)) }

/-- A catalog that reports columns of whole numbers under names. -/
def Catalog.listing (names : List String) : Catalog :=
  { Catalog.bare with
    columns := fun _ _ => .ok (names.map fun name =>
      .ok ⟨none, none, none, name, .integer, none, 0, 0, true⟩) }

/-- The table that an operation came back with. -/
def Reply.table? : Except Fault Reply → Option Nat
  | .ok (.table t) => some t
  | _ => none

theorem Reply.eq_table {r : Except Fault Reply} {t : Nat} (found : Reply.table? r = some t) :
    r = .ok (.table t) := by
  unfold Reply.table? at found
  split at found
  next =>
    cases found
    rfl
  next => cases found

/-! ### Creating a table -/

namespace Host

open LinkedTables.Action

variable {h h' : Host} {u : Nat}

theorem table_of_revise_self (known : u < h.tables.next) (f : LinkedTable → LinkedTable) :
    ({ h with tables := h.tables.revise u f } : Host).table u = f (h.table u) := by
  obtain ⟨member, e⟩ : ∃ member, h.tables.at? u = some member :=
    ⟨_, List.getElem?_eq_getElem known⟩
  simp only [Host.table, Roster.at?_revise_self, e]
  rfl

/-- Behind a handshake a table has indexes. -/
theorem indexes_of_handshake {s : Nat} (known : u < h.tables.next)
    (ok : h.act (handshake u s) = (.ok (), h')) : (h'.table u).indexes ≠ [] := by
  rw [handshake, act_get_bind] at ok
  obtain ⟨catalog, h₁, e₁, ok⟩ := exists_of_act_bind ok
  obtain ⟨shape, h₂, e₂, ok⟩ := exists_of_act_bind ok
  obtain ⟨_, h₃, e₃, ok⟩ := exists_of_act_bind ok
  have a₁ := Keeps.of_act e₁ (asideLink u u).toAttemptFrame.nextCatalog
  have a₂ := Keeps.of_act e₂ ((asideSession u).readShape _ _ _)
  have a₃ := Keeps.of_act e₃ (Keeps.of_modify fun _ => (asideLink u u).link fun _ => rfl)
  have before := (aside u).trans a₁ ((aside u).trans a₂ a₃)
  have known : u < h₃.tables.next := before.known ▸ known
  rw [act_get_bind] at ok
  dsimp only at ok
  split at ok
  next =>
    cases ok
    rw [table_of_revise_self known]
    exact List.cons_ne_nil _ _
  next has =>
    have a : Aside u h₃ h' :=
      Keeps.of_act ok (Keeps.of_ite (aside_of_calm (calm_report _)) (Keeps.of_pure (aside u) ()))
    have has : (h₃.table u).indexes ≠ [] := fun e => has (List.isEmpty_iff.mpr e)
    rw [indexes_of_standing (a.kept has)]
    exact has

/-- Behind an attempt to connect that succeeded a table has indexes. -/
theorem indexes_of_attemptConnect {s : Nat} (known : u < h.tables.next)
    (ok : h.act (attemptConnect u) = (.ok (.ok s), h')) : (h'.table u).indexes ≠ [] := by
  rw [attemptConnect, act_get_bind] at ok
  obtain ⟨r, h₁, e₁, ok⟩ := exists_of_act_bind ok
  have a₁ : Aside u h h₁ := Keeps.of_act e₁ (Keeps.of_outcome ((asideSession u).acquire _))
  cases r with
  | error fault =>
    dsimp only at ok
    split at ok <;> cases ok
  | ok s' =>
    rw [act_outcome_bind] at ok
    generalize e₂ : h₁.act (handshake u s') = p at ok
    obtain ⟨r, h₂⟩ := p
    cases r with
    | ok _ =>
      cases ok
      exact indexes_of_handshake (a₁.known ▸ known) e₂
    | error fault =>
      obtain ⟨_, h₃, e₃, ok⟩ := exists_of_act_bind ok
      split at ok <;> cases ok

/-- Behind a connect a table has indexes. -/
theorem indexes_of_connectFrom {attempt left s : Nat} (known : u < h.tables.next)
    (ok : h.act (connectFrom u attempt left) = (.ok s, h')) : (h'.table u).indexes ≠ [] := by
  have held {h₁ : Host} {s' : Nat} (has : (h₁.table u).indexes ≠ [])
      (ok : h₁.act (hold u s') = (.ok s, h')) : (h'.table u).indexes ≠ [] := by
    rw [indexes_of_standing ((Keeps.of_act ok ((asideLink u u).hold s')).kept has)]
    exact has
  have gaveUp {h₁ : Host} {failure : LinkFault} (ok : h₁.act (giveUp u failure) = (.ok s, h')) :
      False := by
    obtain ⟨_, _, _, ok⟩ := exists_of_act_bind ok
    cases ok
  -- Each attempt ends in a session that is held, in giving up, or in the next attempt.
  induction left generalizing h attempt with
  | zero =>
    obtain ⟨r, h₁, e₁, ok⟩ := exists_of_act_bind ok
    cases r with
    | ok s' => exact held (indexes_of_attemptConnect known e₁) ok
    | error failure => exact (gaveUp ok).elim
  | succ left ih =>
    obtain ⟨r, h₁, e₁, ok⟩ := exists_of_act_bind ok
    cases r with
    | ok s' => exact held (indexes_of_attemptConnect known e₁) ok
    | error failure =>
      dsimp only at ok
      split at ok
      · exact (gaveUp ok).elim
      · rw [act_get_bind] at ok
        obtain ⟨_, h₂, e₂, ok⟩ := exists_of_act_bind ok
        have a₁ := Keeps.of_act e₁ (asideLink u u).toAttemptFrame.attemptConnect
        have a₂ := Keeps.of_act e₂ (aside_of_calm (t := u) (calm_report _))
        exact ih (((aside u).trans a₁ a₂).known ▸ known) ok

/-- A table without columns is well-formed. -/
theorem isWellFormed_withoutColumns (table : LinkedTable) :
    (withoutColumns table).IsWellFormed := by
  refine ⟨numbered_nil, rfl, by simp [withoutColumns], fun i index found isKey => ?_⟩
  cases i with
  | zero =>
    cases found
    cases isKey
  | succ i => cases found

/-- A table that was connected when it was created has indexes and is well-formed, and so is one
that was created by force. -/
theorem formed_of_connectNew (known : u < h.tables.next) (blank : (h.table u).indexes = [])
    (ok : h.act (connectNew u) = (.ok (), h')) :
    u < h'.tables.next ∧ (h'.table u).valid = (h.table u).valid
      ∧ (h'.table u).indexes ≠ [] ∧ (h'.table u).IsWellFormed := by
  rw [connectNew, act_outcome_bind] at ok
  generalize e : h.act (connect u) = p at ok
  obtain ⟨r, h₁⟩ := p
  have a : Aside u h h₁ := Keeps.of_act e (asideLink u u).connect
  have known₁ : u < h₁.tables.next := a.known ▸ known
  cases r with
  | ok s =>
    cases ok
    obtain ⟨_, h₂, e₂, connected⟩ := exists_of_act_bind e
    have a₂ : Aside u h h₂ :=
      Keeps.of_act e₂ (Keeps.of_modify fun _ => (asideLink u u).link fun _ => rfl)
    have has := indexes_of_connectFrom (a₂.known ▸ known) connected
    exact ⟨known₁, a.valid, has, (a.formed (.inl blank)).resolve_left has⟩
  | error fault =>
    -- Only a failure of the link is survived, by a table that is created by force.
    cases fault with
    | link failure =>
      rw [act_get_bind] at ok
      dsimp only at ok
      split at ok
      · obtain ⟨_, h₂, e₂, ok⟩ := exists_of_act_bind ok
        cases ok
        have a₂ : Aside u h₁ h₂ := Keeps.of_act e₂ (aside_of_calm (calm_report _))
        have known₂ : u < h₂.tables.next := a₂.known ▸ known₁
        refine ⟨(Roster.next_revise h₂.tables u withoutColumns).symm ▸ known₂, ?_⟩
        rw [table_of_revise_self known₂]
        exact ⟨a₂.valid.trans a.valid, List.cons_ne_nil _ _, isWellFormed_withoutColumns _⟩
      · cases ok
    | _ => cases ok

/-- A table that has been created has indexes and is well-formed. -/
theorem formed_of_createTable {table : LinkedTable} (blank : table.indexes = [])
    (ok : h.perform (.createTable table) = (.ok (.table u), h')) :
    u < h'.tables.next ∧ (h'.table u).valid = table.valid
      ∧ (h'.table u).indexes ≠ [] ∧ (h'.table u).IsWellFormed := by
  obtain ⟨t, h₁, e₁, ok⟩ := exists_of_act_bind ok
  cases ok
  rw [createTable, act_get_bind] at e₁
  obtain ⟨_, h₂, e₂, e₁⟩ := exists_of_act_bind e₁
  cases e₂
  obtain ⟨_, h₃, e₃, e₁⟩ := exists_of_act_bind e₁
  cases e₁
  obtain ⟨g', e, rfl⟩ := exists_of_act_inLink e₃
  have formed := formed_of_connectNew (h := h.joining table) (h.lt_next_joining table)
    ((h.table_joining table).symm ▸ blank) e
  rw [h.table_joining] at formed
  exact formed

/-- The shape of a table is well-formed and stays as it is. Once a table has been created, a run of
operations that does not remove it leaves its columns, its qualified name and its indexes as they
were, however often it is connected anew and whatever the remote side reports then: the columns are
numbered in their order, the first index is over all of them and admits a key several times, every
other index has columns, all of them columns of the table, and only the second can be a primary
key. -/
theorem shape_of_run {schema name : String} {id : Int} {d : Definition} {fetchSize : Nat}
    {catalogs : List Catalog} {run : List Operation}
    (created : h.perform (.createTable (.unconnected schema id name d fetchSize catalogs))
      = (.ok (.table u), h'))
    (spared : h'.Spares u run) :
    ((h'.after run).table u).columns = (h'.table u).columns
      ∧ ((h'.after run).table u).qualifiedName = (h'.table u).qualifiedName
      ∧ ((h'.after run).table u).indexes = (h'.table u).indexes
      ∧ ((h'.after run).table u).valid = true
      ∧ ((h'.after run).table u).IsWellFormed := by
  obtain ⟨known, valid, has, formed⟩ := formed_of_createTable rfl created
  have lasting := after_lasts spared
  have same := lasting.layout known has
  have formed := isWellFormed_of_layout same formed
  simp only [LinkedTable.layout, Prod.mk.injEq] at same
  obtain ⟨columns, qualifiedName, indexes⟩ := same
  exact ⟨columns, qualifiedName, indexes, (lasting.valid known).trans valid, formed⟩

/-- A table whose remote side reports other columns when it connects again. -/
theorem shape_of_reconnect :
    let catalogs := [Catalog.listing ["a", "b"], Catalog.listing ["c"]]
    let table := LinkedTable.unconnected "PUBLIC" 1 "FIRST" .bare 100 catalogs
    let made := ((start .quiet (.bare false) .error).perform (.createTable table)).2
    made.Spares 0 [.reconnect 0 none]
      ∧ ((made.after [.reconnect 0 none]).table 0).columns.map (·.remoteName) = ["a", "b"]
      ∧ ((made.after [.reconnect 0 none]).table 0).IsWellFormed := by
  intro catalogs table made
  have created : (start .quiet (.bare false) .error).perform (.createTable table)
      = (.ok (.table 0), made) :=
    Prod.ext (Reply.eq_table (by decide +kernel)) rfl
  have spared : made.Spares 0 [.reconnect 0 none] := ⟨id, trivial⟩
  obtain ⟨columns, -, -, -, formed⟩ := shape_of_run created spared
  refine ⟨spared, ?_, formed⟩
  rw [columns]
  decide +kernel

end Host

end LinkedTables
