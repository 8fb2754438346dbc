import LinkedTables.Proofs.CursorLogic

/-!
# The logic of operations

The `subject` of an operation is the table that it works for. Most operations leave no statement in
the hands of the caller and take none from it: of these, which are `Plain`, a `CursorLogic` for the
subject tells that they come to the same with either executor (`CursorLogic.perform`).
-/

namespace LinkedTables

namespace Operation

/-- The table that an operation works for; a cursor works for the table that opened it. -/
def subject (h : Host) : Operation → Option Nat
  | createTable _ => some h.tables.next
  | addRow t .. | removeRow t .. | updateRows t .. | rowCount t .. | openScan t .. | openFind t ..
  | execute t .. | query t .. | handBack t .. | convertRow t .. | setReadOnly t ..
  | setGlobalTemporary t .. | setFetchSize t .. | setDefault t .. | setSequence t .. | connect t
  | reconnect t .. | giveUpSession t | closeLink t | removeTable t | registerTable _ t => some t
  | next c | drain c | closeCursor c => some (h.cursor c).table
  | dropTable schema name => (h.registry.value? (schema, name)).map (·.table)
  | _ => none

/-- The cursor that an operation reads or gives up. -/
def cursor? : Operation → Option Nat
  | next c | drain c | closeCursor c => some c
  | _ => none

/-- An operation of linked tables and their cursors that neither leaves a statement with the caller
nor takes one from it. A table that is created holds no session yet. -/
def Plain : Operation → Prop
  | createTable table => table.session = none
  | execute _ _ _ _ keep => keep = false
  | handBack .. | closeStatement _ | connect _ | acquire _ | release .. | prepare ..
  | executeStatement .. | putStatement .. | takeStatement .. | clearStatements _
  | discard .. => False
  | _ => True

end Operation

namespace Action

variable {α : Type} {R R' E : Host → Host → Prop} {x y : Action α}

/-- What comes back is made of the same value. -/
theorem Leads.reply (hx : Leads R x y (fun _ => R') E) (f : α → Reply) :
    Leads R (do return f (← x)) (do return f (← y)) (fun _ => R') E :=
  Leads.bind hx fun a => Leads.of_pure (f a) fun _ _ r => r

theorem Coupled.silently {x y : Action Unit} (hx : Coupled R x y (fun _ _ => R') E) :
    Leads R (silently x) (silently y) (fun _ => R') E :=
  Coupled.bind hx fun _ _ => Leads.of_pure Reply.done fun _ _ r => r

theorem Leads.silently {x y : Action Unit} (hx : Leads R x y (fun _ => R') E) :
    Leads R (silently x) (silently y) (fun _ => R') E :=
  Leads.bind hx fun _ => Leads.of_pure Reply.done fun _ _ r => r

end Action

namespace CursorLogic

open LinkedTables.Action

variable {e e' : Executor} {t : Nat} {mine : Nat → Prop} {K : Phase → Host → Host → Prop}
  (L : CursorLogic e e' t mine K)
include L

/-! ### The registry -/

/-- A table is dropped in the name under which it is registered. -/
theorem dropTable (schema name : String) :
    Coupled (fun h g => K .settled h g ∧
        ∀ variant, h.registry.value? (schema, name) = some variant → variant.table = t)
      (dropTable schema name) (dropTable schema name) (fun _ _ => K .settled) (K .settled) := by
  have hs := L.plain.quiet .settled
  refine Coupled.get_bind fun h g ⟨k, subject⟩ => ?_
  rw [← registry_agree (hs.agree k)]
  unfold Registry.remove
  cases found : h.registry.value? (schema, name) with
  | none =>
    rintro _ _ ⟨rfl, rfl, k, -⟩
    exact .fault k
  | some variant =>
    let registry := h.registry.drop (schema, name)
    have hr : Harmless fun h => { h with registry } :=
      ⟨fun _ => rfl, fun _ => rfl, fun _ => rfl⟩
    refine Coupled.ok_bind ?_
    dsimp only
    -- The table that is removed is the subject, so the rules for it apply.
    rw [subject variant found]
    refine Coupled.modify_bind (T := K .settled) ?_ ?_
    · rintro _ _ ⟨rfl, rfl, k, -⟩
      exact hs.related hr k
    · have l := L.plain
      have removed := Leads.behind l.removeTable (fun _ _ _ => l.settle) fun _ _ => l.settle
      refine Leads.bind removed fun _ => ?_
      exact Coupled.behind (smooth_report hs _) (fun _ _ _ _ q => q.2) fun _ _ e => e.elim

/-! ### All plain operations -/

/-- A plain operation on its subject comes to the same on both sides. -/
theorem perform {o : Operation} (plain : o.Plain) (own : ∀ c, o.cursor? = some c → mine c) :
    Leads (fun h g => K .settled h g ∧ ∀ t', o.subject h = some t' → t' = t)
      (e.perform o) (e'.perform o) (fun _ => K .settled) (K .settled) := by
  have l := L.plain
  have hs := l.quiet .settled
  have starts : ∀ (cursor : Cursor) (h g : Host), cursor.phase = .fresh → K .settled h g →
      K .settled { h with cursors := h.cursors.join cursor }
        { g with cursors := g.cursors.join cursor } := fun _ _ _ phase k => L.start k phase
  have revised (t' : Nat) {f : LinkedTable → LinkedTable}
      (hf : ∀ table, (f table).session = table.session) : Steady (K .settled) (reviseTable t' f) :=
    Smooth.steady (smooth_reviseTable hs t' hf)
  -- Work for any table, work for a table that is named, and work for the table of a cursor.
  have free {x y : Action Reply} (hx : Alike (K .settled) x y) :
      Leads (fun h g => K .settled h g ∧ ∀ t', o.subject h = some t' → t' = t) x y
        (fun _ => K .settled) (K .settled) :=
    fun h g r => hx r.1
  have named {x y : Action Reply} {t' : Nat} (subject : ∀ h, o.subject h = some t')
      (hx : t' = t → Alike (K .settled) x y) :
      Leads (fun h g => K .settled h g ∧ ∀ t', o.subject h = some t' → t' = t) x y
        (fun _ => K .settled) (K .settled) :=
    fun h g r => hx (r.2 t' (subject h)) r.1
  have rows {x y : Action Reply} {c : Nat} (subject : ∀ h, o.subject h = some (h.cursor c).table)
      (hx : Leads (Works t K c) x y (fun _ => Works t K c) (Works t K c)) :
      Leads (fun h g => K .settled h g ∧ ∀ t', o.subject h = some t' → t' = t) x y
        (fun _ => K .settled) (K .settled) :=
    (Leads.behind hx (fun _ _ _ w => w.1) fun _ _ w => w.1).before
      fun h g r => ⟨r.1, r.2 _ (subject h)⟩
  cases o with
  | join convert => exact free (Leads.reply (steady_joinClient hs convert) .client)
  | clearUndo client => exact free (Leads.silently (steady_clearUndo hs client))
  | createTable table =>
    have created := Leads.behind (l.createTable plain) (fun _ _ _ k => k) fun _ _ => l.settle
    exact (Leads.reply created .table).before fun h g r => ⟨r.1, (r.2 _ rfl).symm⟩
  | addRow t' client row =>
    exact named (fun _ => rfl) (by rintro rfl; exact Leads.silently (l.addRow client row))
  | removeRow t' client row =>
    exact named (fun _ => rfl) (by rintro rfl; exact Leads.silently (l.removeRow client row))
  | updateRows t' client cancelled pairs =>
    refine named (fun _ => rfl) ?_
    rintro rfl
    exact Leads.silently (Leads.bind (steady_beginCommand hs cancelled) fun _ =>
      l.updateRows client pairs)
  | rowCount t' client =>
    exact named (fun _ => rfl) (by rintro rfl; exact Leads.reply (l.rowCount client) .number)
  | openScan t' client => exact free (Leads.reply (steady_openScan hs starts t' client) .cursor)
  | openFind t' index client first last =>
    exact free (Leads.reply (steady_openFind hs starts t' index client first last) .cursor)
  | next c => exact rows (fun _ => rfl) (Leads.reply (L.next (own c rfl)) .row)
  | drain c => exact rows (fun _ => rfl) (Leads.reply (L.drain (own c rfl)) .rows)
  | closeCursor c => exact rows (fun _ => rfl) (Coupled.silently (L.closeCursor (own c rfl)))
  | execute t' client sql params keep =>
    obtain rfl : keep = false := plain
    exact named (fun _ => rfl)
      (by rintro rfl; exact Leads.reply (l.executeAway client sql params) .statement)
  | query t' client sql params failure =>
    exact named (fun _ => rfl)
      (by rintro rfl; exact Leads.reply (l.query client sql params failure) .rows)
  | convertRow t' row =>
    exact free (Leads.reply (steady_convertRow hs t' row) fun p => .converted p.1 p.2)
  | setReadOnly t' b => exact free (Leads.silently (revised t' fun _ => rfl))
  | setGlobalTemporary t' b => exact free (Leads.silently (revised t' fun _ => rfl))
  | setFetchSize t' n => exact free (Leads.silently (steady_setFetchSize hs t' n))
  | setDefault t' c default => exact free (Leads.silently (revised t' fun _ => rfl))
  | setSequence t' c sequence => exact free (Leads.silently (revised t' fun _ => rfl))
  | reconnect t' failed =>
    exact named (fun _ => rfl) (by rintro rfl; exact Leads.reply (l.reconnect failed) .session)
  | giveUpSession t' =>
    refine named (fun _ => rfl) ?_
    rintro rfl
    exact Coupled.silently (l.giveUpSession.behind (fun _ _ _ _ => l.settle) fun _ _ => l.settle)
  | closeLink t' =>
    refine named (fun _ => rfl) ?_
    rintro rfl
    exact Coupled.silently (l.closeLink.behind (fun _ _ _ _ => l.settle) fun _ _ => l.settle)
  | removeTable t' =>
    refine named (fun _ => rfl) ?_
    rintro rfl
    exact Leads.silently (Leads.behind l.removeTable (fun _ _ _ => l.settle) fun _ _ => l.settle)
  | registerTable schema t' => exact free (Leads.silently (steady_registerTable hs schema t'))
  | dropTable schema name =>
    refine (Coupled.silently (L.dropTable schema name)).before fun h g r => ⟨r.1, ?_⟩
    intro variant found
    exact r.2 _ (by simp only [Operation.subject, found, Option.map_some])
  | closePool => exact free (Coupled.silently l.closePool)
  | fetchAll r => exact free (Leads.reply (steady_fetchAll hs r) .rows)
  | handBack | closeStatement | connect | acquire | release | prepare | executeStatement
  | putStatement | takeStatement | clearStatements | discard => exact plain.elim

end CursorLogic

/-! ### A remote side that reports nothing -/

/-- A catalog without tables. -/
def Catalog.bare : Catalog where
  flags := .none
  journaled := false
  tables _ _ := .ok []
  columns _ _ := .ok []
  primaryKeys _ _ := .ok []
  indexInfo _ _ := .ok []

/-- A link to a table of which nothing is reported. -/
def Definition.bare : Definition where
  driver := none
  url := "bare://"
  user := none
  password := none
  remoteSchema := none
  remoteTable := "T"
  emitUpdates := false
  force := false
  readOnly := false
  fetchSize := 0
  temporary := false
  globalTemporary := false
  comment := none

/-- A linked table without columns. -/
def LinkedTable.bare (name : String) : LinkedTable :=
  .unconnected "PUBLIC" 1 name .bare 100 [.bare]

/-- A pool that nobody has used yet. -/
def Pool.bare (shares : Bool) : Pool := ⟨shares, 5, 60, false, [], [], []⟩

end LinkedTables
