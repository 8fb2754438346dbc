import LinkedTables.Proofs.Refusals

/-!
# Links that cannot be used

A table that is not ready stays so as long as it is not connected, whatever else is asked for
(`rests_calls`): what is executed for it is refused, and other tables are connected without any
notice of it. So a broken link keeps failing with the failure that it remembers
(`refusal_of_remembered`), but for rows that no column can tell: those are refused before the link
is needed.
-/

namespace LinkedTables

/-! ### What comes later -/

/-- The table `t` is there, and its link cannot be used. -/
structure Host.Unready (t : Nat) (failure : LinkFault) (h : Host) : Prop where
  known : t < h.tables.next
  refuses : Action.readySession (h.table t) = .error (.link failure)

/-- The link of the table `t` still cannot be used, if it could not, and the table has not come to
hold a session. -/
def Rests (t : Nat) (failure : LinkFault) (h h' : Host) : Prop :=
  h.Unready t failure →
    h'.Unready t failure ∧ ((h.table t).session = none → (h'.table t).session = none)

section Rests

variable {t : Nat} {failure : LinkFault}

theorem rests (t : Nat) (failure : LinkFault) : Frame (Rests t failure) where
  refl _ unready := ⟨unready, id⟩
  trans a b unready :=
    have ⟨unready, lost⟩ := a unready
    have ⟨unready, lost'⟩ := b unready
    ⟨unready, lost' ∘ lost⟩

theorem Rests.of_tables {h h' : Host} (tables : h'.tables = h.tables) : Rests t failure h h' := by
  intro unready
  have table : h'.table t = h.table t := by rw [Host.table, tables]; rfl
  exact ⟨⟨tables ▸ unready.known, table ▸ unready.refuses⟩, fun lost => table ▸ lost⟩

/-- A change of a table that makes the table `t` no readier. -/
theorem Rests.of_revise {h : Host} {u : Nat} {f : LinkedTable → LinkedTable}
    (kept : u = t → Action.readySession (h.table t) = .error (.link failure) →
      Action.readySession (f (h.table t)) = .error (.link failure)
        ∧ ((h.table t).session = none → (f (h.table t)).session = none)) :
    Rests t failure h { h with tables := h.tables.revise u f } := by
  intro unready
  have known := (Roster.next_revise h.tables u f).symm ▸ unready.known
  rcases h.table_of_revise u t f with e | ⟨own, e⟩
  · exact ⟨⟨known, e ▸ unready.refuses⟩, fun lost => e ▸ lost⟩
  · obtain ⟨refuses, lost⟩ := kept own unready.refuses
    exact ⟨⟨known, e ▸ refuses⟩, fun none => e ▸ lost none⟩

/-- Who lets go of the session has none. -/
theorem readySession_letGo {table : LinkedTable}
    (refuses : Action.readySession table = .error (.link failure)) :
    Action.readySession { table with session := none } = .error (.link failure) := by
  obtain ⟨f, e⟩ : ∃ f, table.failure = f := ⟨_, rfl⟩
  obtain ⟨s, e'⟩ : ∃ s, table.session = s := ⟨_, rfl⟩
  simp only [Action.readySession, e, e'] at refuses ⊢
  cases f with
  | some _ => exact refuses
  | none =>
    cases s with
    | some _ => cases refuses
    | none => exact refuses

theorem restsUse (t : Nat) (failure : LinkFault) : UseFrame (Rests t failure) :=
  { rests t failure with idle := fun i _ => .of_tables i.tables, answer := fun _ => .of_tables rfl }

/-- Other tables are connected without any notice. -/
theorem restsLink {u : Nat} (other : u ≠ t) : LinkFrame u (Rests t failure) :=
  { (restsUse t failure).toSessionFrame with
    link := fun _ => .of_revise fun same => absurd same other
    adopt := fun _ _ => .of_revise fun same => absurd same other }

/-- What is executed for the table itself is refused. -/
theorem restsUpkeep (t : Nat) (failure : LinkFault) : Upkeep (Rests t failure) := by
  refine { restsUse t failure with execute := ?_, settings := ?_ }
  · intro u sql params client
    by_cases other : u = t
    · subst other
      intro h unready
      rw [Host.refuses_execute unready.refuses sql params client]
      exact ⟨unready, id⟩
    · exact (restsUse t failure).execute (restsLink other) sql params client
  · intro h u f unset
    refine .of_revise fun same refuses => ?_
    subst same
    have name : (f (h.table u)).name = (h.table u).name := (congrArg LinkedTable.name unset :)
    have session : (f (h.table u)).session = (h.table u).session :=
      (congrArg LinkedTable.session unset :)
    have failed : (f (h.table u)).failure = (h.table u).failure :=
      (congrArg LinkedTable.failure unset :)
    rw [Action.readySession, name, session, failed]
    exact ⟨refuses, id⟩

namespace Action

open Keeps

theorem rests_letGo (u : Nat) :
    Keeps (Rests t failure) (reviseTable u fun table => { table with session := none }) :=
  of_modify fun _ => .of_revise fun _ refuses => ⟨readySession_letGo refuses, fun _ => rfl⟩

theorem rests_closeLink (u : Nat) : Keeps (Rests t failure) (closeLink u) := by
  refine get_bind fun h => bind (rests t failure) (rests_letGo u) fun _ => ?_
  split
  · exact (restsUse t failure).toSessionFrame.release _ false
  · exact of_pure (rests t failure) ()

theorem rests_giveUpSession (u : Nat) : Keeps (Rests t failure) (giveUpSession u) := by
  refine get_bind fun h => bind (rests t failure) (rests_letGo u) fun _ => ?_
  split
  · exact (restsUse t failure).toSessionFrame.release _ true
  · exact of_pure (rests t failure) ()

theorem rests_removeTable (u : Nat) : Keeps (Rests t failure) (removeTable u) :=
  (restsUse t failure).removeTable (rests_closeLink u)
    (of_modify fun _ => .of_revise fun _ refuses => ⟨refuses, id⟩)

theorem rests_createTable (table : LinkedTable) :
    Keeps (Rests t failure) (createTable table) := by
  intro h unready
  have other : h.tables.next ≠ t := by have := unready.known; omega
  have joined : Rests t failure h (h.withTable table) := by
    intro unready
    have same := Host.table_withTable_of_lt unready.known table
    refine ⟨⟨?_, same ▸ unready.refuses⟩, fun lost => same ▸ lost⟩
    rw [Host.next_withTable]
    exact Nat.lt_succ_of_lt unready.known
  exact (restsUse t failure).createTable joined ((restsUse t failure).connectNew
    (restsLink other).connect (of_modify fun _ => .of_revise fun same => absurd same other)) unready

/-- A link that cannot be used stays so, unless it is connected. -/
theorem rests_call {c : Call} (apart : ¬ c.Connects t) : Keeps (Rests t failure) c.perform := by
  have reply {α : Type} {x : Action α} (f : α → Reply) (hx : Keeps (Rests t failure) x) :
      Keeps (Rests t failure) (do return f (← x)) :=
    bind (rests t failure) hx fun a => of_pure (rests t failure) (f a)
  cases c with
  | access u a => exact (restsUpkeep t failure).access u a
  | operation o =>
    cases o with
    | createTable table => exact reply .table (rests_createTable table)
    | connect u => exact reply .session (restsLink apart).connect
    | reconnect u failed => exact reply .session ((restsLink apart).reconnect failed)
    | giveUpSession u => exact reply (fun _ => .done) (rests_giveUpSession u)
    | closeLink u => exact reply (fun _ => .done) (rests_closeLink u)
    | removeTable u => exact reply (fun _ => .done) (rests_removeTable u)
    | dropTable schema name =>
      exact reply (fun _ => .done) fun h =>
        (restsUse t failure).dropTable fun variant _ => rests_removeTable variant.table
    | _ => exact (restsUpkeep t failure).perform id

end Action

theorem Host.rests_calls (h : Host) {calls : List Call}
    (apart : ∀ call ∈ calls, ¬ call.Connects t) : Rests t failure h (h.afterCalls calls) :=
  h.keeps_calls (rests t failure) (fun call among => Action.rests_call (apart call among))

end Rests

/-! ### Broken links -/

/-- The access is the work of a command that was cancelled. -/
def Access.IsCancelled : Access → Prop
  | updateRows _ cancelled _ => cancelled = true
  | _ => False

/-- What may be changed passes all checks, if some column can tell its rows. -/
theorem Access.checks_of_telling {table : LinkedTable} {a : Access}
    (writable : table.readOnly = false) (valid : table.valid = true) (goes : ¬ a.IsCancelled)
    (telling : ∃ c ∈ table.columns, c.type.kind.isLarge = false) : a.checks table = .ok () := by
  obtain ⟨c, among, small⟩ := telling
  have told : Sql.checkTelling table.name table.columns = .ok () := by
    refine if_neg fun large => ?_
    rw [List.all_eq_true.mp large c among] at small
    cases small
  have has : Sql.checkColumns table.name table.columns = .ok () := by
    refine if_neg fun bare => ?_
    rw [List.isEmpty_iff.mp bare] at among
    cases among
  have writable : table.checkWritable = .ok () := by rw [LinkedTable.checkWritable, writable]; rfl
  have valid : table.checkValid = .ok () := by rw [LinkedTable.checkValid, valid]; rfl
  cases a with
  | updateRows _ cancelled _ =>
    obtain rfl : cancelled = false := Bool.eq_false_iff.mpr goes
    rw [checks, writable, valid, told, has]
    exact ite_self _
  | insertRow _ row =>
    rw [checks, valid]
    exact ite_self _
  | _ => simp only [checks, writable, valid, told, has] <;> rfl

namespace Host

/-- A broken link keeps failing. Once a table remembers why it could not be connected, every access
to it ends in a fault, unless it is connected by a call in between, and nothing happens to the host
but that a command is begun or a cursor opened. The fault is the remembered failure, except where
something else is found before the link is needed: a table that must not be changed or has been
removed, a command that was cancelled, and a row to be found when no column can tell it. -/
theorem refusal_of_remembered {h made : Host} {schema name : String} {id : Int} {d : Definition}
    {fetchSize : Nat} {catalogs : List Catalog} {t : Nat} {failure : LinkFault}
    {before later : List Call} {a : Access}
    (created : h.perform (.createTable (.unconnected schema id name d fetchSize catalogs))
      = (.ok (.table t), made))
    (remembered : ((made.afterCalls before).table t).failure = some failure)
    (apart : ∀ call ∈ later, ¬ call.Connects t)
    (fits : a.Fits (((made.afterCalls before).afterCalls later).table t)) :
    let broken := (made.afterCalls before).afterCalls later
    (∃ cancelled cursors, broken.act (a.perform t)
      = (.error (firstFault (a.checks (broken.table t)) failure),
        { broken with cancelled, cursors }))
    ∧ ((broken.table t).readOnly = false → (broken.table t).valid = true → ¬ a.IsCancelled →
      (∃ c ∈ (broken.table t).columns, c.type.kind.isLarge = false) →
      firstFault (a.checks (broken.table t)) failure = .link failure) := by
  intro broken
  have columned := columned_of_calls rfl created before
  have unready : (made.afterCalls before).Unready t failure := by
    refine ⟨columned.known, ?_⟩
    rw [Action.readySession, remembered]
  have columned := (numbersLife t).calls _ later columned
  refine ⟨act_access (rests_calls _ apart unready).1.refuses columned.numbered fits, ?_⟩
  intro writable valid goes telling
  rw [Access.checks_of_telling writable valid goes telling]
  rfl

/-- A table that could not be connected anew removes no row, also when its link has been closed. -/
theorem refusal_of_lost_connection :
    let table := LinkedTable.unconnected "PUBLIC" 1 "FIRST" .bare 100 [Catalog.listing ["a"]]
    let made := ((start (.admitting 1 3) (.bare false) .error).perform (.createTable table)).2
    let lost := made.afterCalls [.operation (.reconnect 0 none)]
    let closed := lost.afterCalls [.operation (.closeLink 0)]
    ∃ failure, (lost.table 0).failure = some failure
      ∧ (Access.removeRow none [.int 7]).Fits (closed.table 0)
      ∧ ∃ cursors cancelled, closed.act ((Access.removeRow none [.int 7]).perform 0)
        = (.error (.link failure), { closed with cursors, cancelled }) := by
  intro table made lost closed
  have created : (start (.admitting 1 3) (.bare false) .error).perform (.createTable table)
      = (.ok (.table 0), made) :=
    Prod.ext (Reply.eq_table (by decide +kernel)) rfl
  obtain ⟨failure, remembered⟩ : ∃ failure, (lost.table 0).failure = some failure :=
    Option.isSome_iff_exists.mp (by decide +kernel)
  have fits : (Access.removeRow none [.int 7]).Fits (closed.table 0) :=
    show (closed.table 0).columns.length ≤ 1 by decide +kernel
  have apart : ∀ call ∈ [Call.operation (.closeLink 0)], ¬ call.Connects 0 := by
    rintro call among
    cases List.mem_singleton.mp among
    exact id
  obtain ⟨⟨cancelled, cursors, refused⟩, told⟩ :=
    refusal_of_remembered created remembered apart fits
  have plain := told (by decide +kernel) (by decide +kernel) id (by decide +kernel)
  exact ⟨failure, remembered, fits, cursors, cancelled, refused.trans (by rw [plain])⟩

/-- A table without columns that was created by force does not remove a row for another reason than
the one it remembers. -/
theorem refusal_without_columns :
    let table := LinkedTable.unconnected "PUBLIC" 1 "FIRST" { Definition.bare with force := true }
      100 [.bare]
    let made := (start (.admitting 0 3) (.bare false) .error).perform (.createTable table)
    Reply.table? made.1 = some 0
      ∧ (made.2.table 0).failure.map (·.kind) = some .connectFailure
      ∧ (made.2.table 0).readOnly = false ∧ (made.2.table 0).valid = true
      ∧ (Access.removeRow none []).Fits (made.2.table 0)
      ∧ ∀ failure, (made.2.table 0).failure = some failure →
        (made.2.act ((Access.removeRow none []).perform 0)).1 ≠ .error (.link failure) := by
  intro table made
  have kind : (made.2.table 0).failure.map (·.kind) = some .connectFailure := by decide +kernel
  refine ⟨by decide +kernel, kind, by decide +kernel, by decide +kernel, ?_, ?_⟩
  · show (made.2.table 0).columns.length ≤ 0
    decide +kernel
  · intro failure remembered same
    have ended : Reply.failure? (made.2.act ((Access.removeRow none []).perform 0)).1
        = some .unsupportedOperation := by decide +kernel
    rw [same] at ended
    rw [remembered] at kind
    cases kind.symm.trans ended

end Host

end LinkedTables
