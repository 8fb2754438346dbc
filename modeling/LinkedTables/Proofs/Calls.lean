import LinkedTables.Proofs.ShapeLasts

/-!
# Calls

What is asked of a host comes by operations, and by the indexes of its tables: whoever has taken an
index from a table reads and writes rows through it without asking the table again. An `Access` is
one use of a table by either way, and a `Call` an operation or an access.

Most of what calls leave alone is found with a `LifeFrame`, a relation that every call keeps,
whatever becomes of the tables (`LifeFrame.call`). The columns of a table are one example: they stay
numbered in their order (`columned_of_calls`).
-/

namespace LinkedTables

/-! ### Accesses -/

/-- A use of a table for which its link is needed. -/
inductive Access where
  | addRow (client : Option Nat) (row : List Value)
  | removeRow (client : Option Nat) (row : List Value)
  | updateRows (client : Nat) (cancelled : Bool) (pairs : List (List Value × List Value))
  | rowCount (client : Option Nat)
  | execute (client : Option Nat) (sql : String) (params : List Value) (keep : Bool)
  | query (client : Option Nat) (sql : String) (params : List Value) (failure : Option Fault)
  /-- All rows, through the first index, for which the table is asked. -/
  | scan (client : Option Nat)
  /-- All rows, through an index that was taken from the table before. -/
  | readIndex (client : Option Nat)
  /-- The rows between two bounds, through an index. -/
  | find (index : Index) (client : Option Nat) (first last : Option (List Value))
  /-- A row is inserted through an index. -/
  | insertRow (client : Option Nat) (row : List Value)
  | deleteRow (client : Option Nat) (row : List Value)
  | updateRow (client : Option Nat) (old new : List Value)

namespace Access

open LinkedTables.Action

/-- Accesses the table `t`; rows are read to the last one. -/
def perform (t : Nat) : Access → Action Reply
  | addRow client row => (Operation.addRow t client row).perform
  | removeRow client row => (Operation.removeRow t client row).perform
  | updateRows client cancelled pairs => (Operation.updateRows t client cancelled pairs).perform
  | rowCount client => (Operation.rowCount t client).perform
  | execute client sql params keep => (Operation.execute t client sql params keep).perform
  | query client sql params failure => (Operation.query t client sql params failure).perform
  | scan client => do
    let _ ← Action.ofExcept ((← get).table t).scanIndex
    return .rows (← drain (← openScan t client))
  | readIndex client => do
    return .rows (← drain (← openScan t client))
  | find index client first last => do
    return .rows (← drain (← openFind t index client first last))
  | insertRow client row => silently (Action.insertRow t client row)
  | deleteRow client row => silently (Action.deleteRow t client row)
  | updateRow client old new => silently (Action.updateRow t client old new)

/-- The rows of an access are as wide as a table, and there are some to update. -/
def Fits (table : LinkedTable) : Access → Prop
  | addRow _ row | removeRow _ row | insertRow _ row | deleteRow _ row =>
    table.columns.length ≤ row.length
  | updateRow _ old new =>
    table.columns.length ≤ old.length ∧ table.columns.length ≤ new.length
  | updateRows _ _ pairs => pairs ≠ [] ∧ ∀ pair ∈ pairs,
    table.columns.length ≤ pair.1.length ∧ table.columns.length ≤ pair.2.length
  | _ => True

end Access

/-- What can be asked of a host. -/
inductive Call where
  | operation (o : Operation)
  | access (t : Nat) (a : Access)

namespace Call

def perform : Call → Action Reply
  | operation o => o.perform
  | access t a => a.perform t

/-- The call connects the table `t`, whatever its link is like. -/
def Connects (t : Nat) : Call → Prop
  | operation (.connect u) => u = t
  | operation (.reconnect u _) => u = t
  | _ => False

end Call

/-- The host behind calls, each of which may have failed. -/
def Host.afterCalls (h : Host) (calls : List Call) : Host :=
  calls.foldl (fun h call => (h.act call.perform).2) h

/-- What each of some calls keeps, all of them keep together. -/
theorem Host.keeps_calls {ρ : Host → Host → Prop} (F : Frame ρ) {calls : List Call}
    (each : ∀ call ∈ calls, Action.Keeps ρ call.perform) (h : Host) : ρ h (h.afterCalls calls) := by
  induction calls generalizing h with
  | nil => exact F.refl h
  | cons call calls ih =>
    exact F.trans (each call List.mem_cons_self h)
      (ih (fun other later => each other (List.mem_cons_of_mem call later)) _)

theorem Upkeep.access {ρ : Host → Host → Prop} (F : Upkeep ρ) (t : Nat) (a : Access) :
    Action.Keeps ρ (a.perform t) := by
  have reading {x : Action Nat} (hx : Action.Keeps ρ x) :
      Action.Keeps ρ (do return Reply.rows (← Action.drain (← x))) :=
    .bind F.toFrame hx fun c => .bind F.toFrame (F.drain c) fun _ => .of_pure F.toFrame _
  have silent {x : Action Unit} (hx : Action.Keeps ρ x) : Action.Keeps ρ (Action.silently x) :=
    .bind F.toFrame hx fun _ => .of_pure F.toFrame Reply.done
  cases a with
  | addRow client row => exact F.perform id
  | removeRow client row => exact F.perform id
  | updateRows client cancelled pairs => exact F.perform id
  | rowCount client => exact F.perform id
  | execute client sql params keep => exact F.perform id
  | query client sql params failure => exact F.perform id
  | scan client =>
    exact .get_bind fun _ => .bind F.toFrame (.of_ofExcept F.toFrame _) fun _ =>
      reading (.get_bind fun _ => F.openCursor _)
  | readIndex client => exact reading (.get_bind fun _ => F.openCursor _)
  | find index client first last =>
    exact reading (.get_bind fun _ => .bind F.toFrame (.of_ofExcept F.toFrame _) fun _ =>
      F.openCursor _)
  | insertRow client row => exact silent (.get_bind fun _ => F.runRows t client _)
  | deleteRow client row => exact silent (.get_bind fun _ => F.runRows t client _)
  | updateRow client old new => exact silent (.get_bind fun _ => F.runRows t client _)

/-! ### What every call keeps -/

/-- A relation that is kept from the making of tables to their removal. -/
structure LifeFrame (ρ : Host → Host → Prop) : Prop extends UseFrame ρ where
  joined : ∀ {h table}, ρ h (h.withTable table)
  link : ∀ {h u} {f : LinkedTable → LinkedTable}, (∀ table, (f table).standing = table.standing) →
    ρ h { h with tables := h.tables.revise u f }
  adopt : ∀ {h u} {shape : Shape}, shape.IsWellFormed → (h.table u).indexes = [] →
    ρ h { h with tables := h.tables.revise u (Action.adopted shape) }
  forced : ∀ {h u}, ρ h { h with tables := h.tables.revise u Action.withoutColumns }
  settings : ∀ {h u f}, (f (h.table u)).unset = (h.table u).unset →
    ρ h { h with tables := h.tables.revise u f }
  removed : ∀ {h u}, ρ h { h with
    tables := h.tables.revise u fun table => { table with indexes := [], valid := false } }

namespace LifeFrame

open LinkedTables.Action Keeps

variable {ρ : Host → Host → Prop} (F : LifeFrame ρ)
include F

theorem linkFrame (u : Nat) : LinkFrame u ρ :=
  { F.toSessionFrame with link := F.link, adopt := F.adopt }

theorem upkeep : Upkeep ρ :=
  { F.toUseFrame with execute := fun u => F.execute (F.linkFrame u), settings := F.settings }

theorem operation (o : Operation) : Keeps ρ o.perform := by
  have L := F.linkFrame
  have removing (u : Nat) : Keeps ρ (removeTable u) :=
    F.removeTable (L u).closeLink (of_modify fun _ => F.removed)
  have reply {α : Type} {x : Action α} (f : α → Reply) (hx : Keeps ρ x) :
      Keeps ρ (do return f (← x)) :=
    bind F.toFrame hx fun a => of_pure F.toFrame (f a)
  cases o with
  | createTable table =>
    refine reply .table fun h => F.createTable F.joined ?_
    exact F.connectNew (L _).connect (of_modify fun _ => F.forced)
  | connect u => exact reply .session (L u).connect
  | reconnect u failed => exact reply .session ((L u).reconnect failed)
  | giveUpSession u => exact reply (fun _ => .done) (L u).giveUpSession
  | closeLink u => exact reply (fun _ => .done) (L u).closeLink
  | removeTable u => exact reply (fun _ => .done) (removing u)
  | dropTable schema name =>
    exact reply (fun _ => .done) fun h => F.dropTable fun variant _ => removing variant.table
  | _ => exact F.upkeep.perform id

theorem call (c : Call) : Keeps ρ c.perform := by
  cases c with
  | operation o => exact F.operation o
  | access t a => exact F.upkeep.access t a

theorem calls (h : Host) (calls : List Call) : ρ h (h.afterCalls calls) :=
  Host.keeps_calls F.toFrame (fun call _ => F.call call) h

end LifeFrame

/-! ### Numbered columns -/

/-- The table `t` is there, and its columns are numbered in their order. -/
structure Host.Columned (t : Nat) (h : Host) : Prop where
  known : t < h.tables.next
  numbered : Numbered (h.table t).columns

/-- The columns of the table `t` stay numbered. -/
def Numbers (t : Nat) (h h' : Host) : Prop := h.Columned t → h'.Columned t

variable {t : Nat}

theorem Numbers.of_held {h h' : Host} (a : Held t h h') : Numbers t h h' :=
  fun columned => ⟨a.known ▸ columned.known, a.numbered columned.numbered⟩

/-- A change of a table that leaves the columns numbered. -/
theorem Numbers.of_revise {h : Host} {u : Nat} {f : LinkedTable → LinkedTable}
    (numbers : Numbered (h.table u).columns → Numbered (f (h.table u)).columns) :
    Numbers t h { h with tables := h.tables.revise u f } := by
  intro columned
  refine ⟨(Roster.next_revise h.tables u f).symm ▸ columned.known, ?_⟩
  rcases h.table_of_revise u t f with e | ⟨rfl, e⟩
  · rw [e]
    exact columned.numbered
  · rw [e]
    exact numbers columned.numbered

theorem Numbers.of_tables {h h' : Host} (tables : h'.tables = h.tables) : Numbers t h h' := by
  intro columned
  have table : h'.table t = h.table t := by rw [Host.table, tables]; rfl
  exact ⟨tables ▸ columned.known, table ▸ columned.numbered⟩

theorem numbersLife (t : Nat) : LifeFrame (Numbers t) where
  refl _ := id
  trans a b columned := b (a columned)
  idle i _ := .of_tables i.tables
  answer _ := .of_tables rfl
  joined := by
    intro h table columned
    have same := Host.table_withTable_of_lt columned.known table
    refine ⟨?_, same ▸ columned.numbered⟩
    rw [Host.next_withTable]
    exact Nat.lt_succ_of_lt columned.known
  link := by
    intro h u f standing
    exact .of_held ((asideLink t u).link standing).toHeld
  adopt := by
    intro h u shape formed blank
    exact .of_held ((asideLink t u).adopt formed blank).toHeld
  forced := .of_revise fun _ => numbered_nil
  settings := by
    intro h u f unset
    have columns : (f (h.table u)).columns = (h.table u).columns :=
      (congrArg LinkedTable.columns unset :)
    exact .of_revise fun numbered => columns ▸ numbered
  removed := .of_revise id

/-- A table that was created has numbered columns behind any calls. -/
theorem Host.columned_of_calls {h made : Host} {table : LinkedTable} (blank : table.indexes = [])
    (created : h.perform (.createTable table) = (.ok (.table t), made)) (calls : List Call) :
    (made.afterCalls calls).Columned t := by
  obtain ⟨known, -, -, formed⟩ := formed_of_createTable blank created
  exact (numbersLife t).calls made calls ⟨known, formed.numbered⟩

/-! ### Failures in replies -/

/-- The kind of the failure of a link in which an operation ended. -/
def Reply.failure? : Except Fault Reply → Option LinkFaultKind
  | .error (.link failure) => some failure.kind
  | _ => none

theorem Reply.exists_of_failure? {r : Except Fault Reply} {kind : LinkFaultKind}
    (found : Reply.failure? r = some kind) : ∃ failure, r = .error (.link failure) := by
  unfold Reply.failure? at found
  split at found
  · exact ⟨_, rfl⟩
  · cases found

end LinkedTables
