import LinkedTables.Proofs.ConnectOutcomes

/-!
# Tables created by force

A table that is created by force is made also where the remote side cannot be reached: it has no
columns then, one index over all of them, and remembers why (`Host.ends_of_force`). Only a fault
that a connect does not foresee (`Remote.Script.Unforeseen`) is not taken care of: it goes through
the making of the table as well, or leaves a table that does not know why it is not connected.
-/

namespace LinkedTables

/-- The table `t` is connected, with columns and indexes. -/
structure Host.Linked (t : Nat) (h : Host) : Prop where
  session : ∃ s, (h.table t).session = some s ∧ (h.session s).closed = false
  failure : (h.table t).failure = none
  indexes : (h.table t).indexes ≠ []
  formed : (h.table t).IsWellFormed

/-- The table `t` holds no session, and has no columns and one index over all of them. -/
structure Host.Bare (t : Nat) (h : Host) : Prop where
  session : (h.table t).session = none
  columns : (h.table t).columns = []
  indexes : (h.table t).indexes = [Shape.scanIndex []]

/-- The making of a table by force has come to its end: to the value `a`, unless a fault goes
through it. -/
inductive ForceEnds {α : Type} (script : Remote.Script) (key : LinkKey) (t : Nat) (a : α)
    (made : Host) : Except Fault α → Prop
  | linked (linked : made.Linked t) : ForceEnds script key t a made (.ok a)
  /-- The table remembers why it is not connected. -/
  | broken {failure : LinkFault} (bare : made.Bare t)
      (remembered : (made.table t).failure = some failure) : ForceEnds script key t a made (.ok a)
  /-- A failure of the link was raised where none was foreseen. -/
  | forgotten {failure : LinkFault} (bare : made.Bare t) (forgotten : (made.table t).failure = none)
      (raised : script.Unforeseen key (.link failure)) : ForceEnds script key t a made (.ok a)
  | escaped {fault : Fault} (session : (made.table t).session = none)
      (raised : script.Unforeseen key fault) (other : ∀ failure, fault ≠ .link failure) :
      ForceEnds script key t a made (.error fault)

namespace Action

variable {h : Host} {t : Nat}

/-- A table that holds no session is left without columns when it cannot be connected. -/
theorem reaches_doWithout {g : Host} (known : t < g.tables.next)
    (session : (g.table t).session = none) (notice : Notice) :
    Reaches (do report notice; reviseTable t withoutColumns) g fun r made =>
      r = .ok () ∧ made.Bare t ∧ (made.table t).failure = (g.table t).failure := by
  refine Reaches.past (report_succeeds notice) (calm_report notice) fun _ g' kept => ?_
  have known' : t < g'.tables.next := kept.tables.symm ▸ known
  have same : g'.table t = g.table t := by rw [Host.table, kept.tables]; rfl
  have table := Host.table_of_revise_self known' withoutColumns
  rw [same] at table
  refine ⟨rfl, ⟨?_, ?_, ?_⟩, ?_⟩
  · exact (congrArg LinkedTable.session table).trans session
  · exact congrArg LinkedTable.columns table
  · exact congrArg LinkedTable.indexes table
  · exact (congrArg LinkedTable.failure table).trans rfl

theorem ends_of_connectNew (known : t < h.tables.next) (blank : (h.table t).indexes = [])
    (session : (h.table t).session = none) (force : (h.table t).definition.force = true) :
    Reaches (connectNew t) h fun r made =>
      ForceEnds h.script (h.table t).definition.key t () made r := by
  have formed {made : Host} (ok : h.act (connectNew t) = (.ok (), made)) :
      (made.table t).indexes ≠ [] ∧ (made.table t).IsWellFormed :=
    (Host.formed_of_connectNew known blank ok).2.2
  have ends := reaches_connect known
  have defined := (defines t t).connect h
  rw [Reaches] at ends ⊢
  rw [connectNew, Host.act_outcome_bind] at formed ⊢
  generalize h.act (connect t) = p at formed ends defined ⊢
  obtain ⟨r, g⟩ := p
  have known : t < g.tables.next := defined.known ▸ known
  have force : (g.table t).definition.force = true := by rw [defined.definition]; exact force
  -- Behind a failure of the link the table does without.
  have without (failure : LinkFault) (session : (g.table t).session = none) :
      Reaches (do
        let table := (← get).table t
        if table.definition.force then
          report (forcedNotice table.name failure)
          reviseTable t withoutColumns
        else throw (.link failure)) g fun r made =>
          r = .ok () ∧ made.Bare t ∧ (made.table t).failure = (g.table t).failure := by
    refine Reaches.get_bind ?_
    rw [if_pos force]
    exact reaches_doWithout known session _
  cases ends with
  | @held s held failure isOpen =>
    obtain ⟨indexes, formed⟩ := formed rfl
    exact .linked ⟨⟨s, held, isOpen⟩, failure, indexes, formed⟩
  | @gaveUp failure kept remembered =>
    obtain ⟨ok, bare, same⟩ := without failure (kept.trans session)
    exact ok ▸ .broken bare (same.trans remembered)
  | @escaped fault kept forgotten raised =>
    dsimp only
    split
    next e => cases e
    next failure e =>
      cases e
      obtain ⟨ok, bare, same⟩ := without failure (kept.trans session)
      exact ok ▸ .forgotten bare (same.trans forgotten) raised
    next fault' other e =>
      cases e
      exact .escaped (kept.trans session) raised other

end Action

/-- What a table has come to does not depend on the name of the link in which work is done. -/
theorem ForceEnds.inLink {α β : Type} {script : Remote.Script} {key : LinkKey} {t : Nat} {a : α}
    {made : Host} {r : Except Fault α} (ends : ForceEnds script key t a made r) (b : β)
    (link : Option String) :
    ForceEnds script key t b { made with link } (r.map fun _ => b) := by
  cases ends with
  | linked linked => exact .linked ⟨linked.session, linked.failure, linked.indexes, linked.formed⟩
  | broken bare remembered => exact .broken ⟨bare.session, bare.columns, bare.indexes⟩ remembered
  | forgotten bare forgotten raised =>
    exact .forgotten ⟨bare.session, bare.columns, bare.indexes⟩ forgotten raised
  | escaped session raised other => exact .escaped session raised other

namespace Host

open LinkedTables.Action

/-- A table is created by connecting it in its own name. -/
theorem perform_createTable (h : Host) (table : LinkedTable) :
    let p := (h.joining table).act (connectNew h.tables.next)
    h.perform (.createTable table)
      = (p.1.map fun _ => .table h.tables.next, { p.2 with link := h.link }) := by
  intro p
  have created : h.act (createTable table)
      = (p.1.map fun _ => h.tables.next, { p.2 with link := h.link }) := by
    have made := act_map (h.withTable table) (inLink table.name (connectNew h.tables.next))
      fun _ => h.tables.next
    rw [act_inLink] at made
    exact made
  have replied := act_map h (createTable table) Reply.table
  rw [created] at replied
  refine replied.trans ?_
  cases p.1 <;> rfl

/-- Whatever the remote side does, a table that is made by force is connected, or has no columns,
one index over all of them and a failure that it remembers; unless a fault was raised that a connect
does not foresee. Such a fault goes through the making of the table, but for a failure of the link,
of which the table then knows nothing. -/
theorem ends_of_force (h : Host) (schema : String) (id : Int) (name : String) (fetchSize : Nat)
    (catalogs : List Catalog) {d : Definition} (force : d.force = true) :
    let p := h.perform (.createTable (.unconnected schema id name d fetchSize catalogs))
    ForceEnds h.script d.key h.tables.next (Reply.table h.tables.next) p.2 p.1 := by
  intro p
  let table := LinkedTable.unconnected schema id name d fetchSize catalogs
  let joined : Host := { h.withTable table with link := some table.name }
  have here : joined.table h.tables.next = table :=
    congrArg (·.getD default) (Roster.at?_join_next h.tables table)
  have known : h.tables.next < joined.tables.next :=
    (Roster.next_join h.tables table).symm ▸ Nat.lt_succ_self _
  have blank : (joined.table h.tables.next).indexes = [] := by rw [here]; rfl
  have session : (joined.table h.tables.next).session = none := by rw [here]; rfl
  have definition : (joined.table h.tables.next).definition = d := by rw [here]; rfl
  have ends := ends_of_connectNew known blank session (definition.symm ▸ force)
  rw [definition] at ends
  have made : p = _ := perform_createTable h table
  rw [made]
  exact ends.inLink (Reply.table h.tables.next) h.link

/-- Three connects are refused. -/
theorem ends_of_refusals :
    let d : Definition := { Definition.bare with force := true }
    let script := Remote.Script.admitting 0 3
    let p := (start script (.bare false) .error).perform
      (.createTable (.unconnected "PUBLIC" 1 "FIRST" d 100 [Catalog.listing ["a"]]))
    d.force = true ∧ ForceEnds script d.key 0 (Reply.table 0) p.2 p.1
      ∧ (p.2.table 0).failure.map (·.kind) = some .connectFailure := by
  intro d script p
  have forced : d.force = true := rfl
  have ends := ends_of_force (start script (.bare false) .error) "PUBLIC" 1 "FIRST" 100
    [Catalog.listing ["a"]] forced
  exact ⟨forced, ends, by decide +kernel⟩

/-- The remote table cannot be read over a connection that cannot be invalidated either: force does
not help. -/
theorem force_fails :
    let d : Definition := { Definition.bare with force := true }
    let script : Remote.Script :=
      { Remote.Script.quiet with
        probes := [.error (.remote ⟨.operational, "connection lost", none⟩)]
        invalidations := [some (.remote ⟨.general, "connection is already closed", none⟩)] }
    let p := (start script (.bare false) .error).perform
      (.createTable (.unconnected "PUBLIC" 1 "FIRST" d 100 [Catalog.listing ["a"]]))
    d.force = true ∧ ∀ t, p.1 ≠ .ok (.table t) := by
  intro d script p
  refine ⟨rfl, fun t made => ?_⟩
  have none : Reply.table? p.1 = none := by decide +kernel
  rw [made] at none
  cases none

end Host

end LinkedTables
