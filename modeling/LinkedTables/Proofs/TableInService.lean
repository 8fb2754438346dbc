import LinkedTables.Proofs.Ownership
import LinkedTables.Proofs.ShapeLasts

/-!
# Tables in service

Behind any requests at a desk, a table that was created there has indexes and is well-formed as long
as it is valid (`Host.InService`), and what sessions keep was prepared for the texts under which it
is kept.
-/

namespace LinkedTables

/-- A table is there, and has indexes and is well-formed as long as it is valid. -/
def Host.InService (t : Nat) (h : Host) : Prop :=
  t < h.tables.next ∧
    ((h.table t).valid = true → (h.table t).indexes ≠ [] ∧ (h.table t).IsWellFormed)

/-- A table stays in service. -/
def Serves (t : Nat) (h h' : Host) : Prop := h.InService t → h'.InService t

theorem serves (t : Nat) : Frame (Serves t) where
  refl _ := id
  trans := fun a b inService => b (a inService)

variable {t : Nat}

theorem Lasts.serves {h h' : Host} (l : Lasts t h h') : Serves t h h' := by
  rintro ⟨known, sound⟩
  refine ⟨l.known known, fun valid => ?_⟩
  obtain ⟨has, formed⟩ := sound (l.valid known ▸ valid)
  have same := l.layout known has
  exact ⟨indexes_of_layout same ▸ has, isWellFormed_of_layout same formed⟩

theorem usedServing (t : Nat) : UseFrame (Serves t) :=
  { serves t with
    idle := fun i sent => ((lastsUpkeep t).idle i sent).serves
    answer := fun found => ((lastsUpkeep t).answer found).serves }

namespace Action

open Keeps

/-- A table that is removed is not valid any more. -/
theorem serves_removeTable (u : Nat) : Keeps (Serves t) (removeTable u) := by
  refine (usedServing t).removeTable (((lastsLink t u).closeLink).mono fun _ _ => Lasts.serves) ?_
  refine of_modify fun h inService => ?_
  have known := Roster.next_revise h.tables u fun table =>
    { table with indexes := [], valid := false }
  refine ⟨known ▸ inService.1, fun valid => ?_⟩
  rcases h.table_of_revise u t fun table => { table with indexes := [], valid := false } with
    same | ⟨-, removed⟩
  · rw [same] at valid ⊢
    exact inService.2 valid
  · rw [removed] at valid
    cases valid

end Action

open LinkedTables.Action in
/-- Every operation leaves a table in service. -/
theorem Host.perform_serves (h : Host) (o : Operation) :
    LinkedTables.Serves t h (h.perform o).2 := by
  have silent {x : Action Unit} (hx : LinkedTables.Serves t h (h.act x).2) :
      LinkedTables.Serves t h (h.act (silently x)).2 := by
    rwa [silently, Host.snd_act_map h x fun _ => Reply.done]
  by_cases removes : o.Removes t h
  · cases o with
    | removeTable u => exact silent (serves_removeTable u h)
    | dropTable schema name =>
      exact silent ((usedServing t).dropTable fun _ _ => serves_removeTable _)
    | _ => exact removes.elim
  · exact (perform_lasts removes).serves

namespace Desk

/-- Every request leaves a table in service. -/
theorem serve_serves (d : Desk) (request : Request) :
    Serves t d.host (d.serve Operation.perform request).2.host := by
  obtain ⟨-, same⟩ | ⟨o, -, -, same⟩ := d.host_of_serve request
  · rw [same]
    exact id
  · rw [same]
    exact d.host.perform_serves o

/-- A table that is in service stays so behind any requests. -/
theorem after_serves (d : Desk) (run : List Request) :
    Serves t d.host (d.after Operation.perform run).host := by
  induction run generalizing d with
  | nil => exact id
  | cons request run ih =>
    exact (serves t).trans (d.serve_serves request) (ih (d.serve Operation.perform request).2)

/-- What sessions keep behind requests was prepared for the texts under which it is kept. -/
theorem truthful_of_after (script : Remote.Script) (pool : Pool) (level : Level)
    (run : List Request) :
    ((opening (Host.start script pool level)).after Operation.perform run).host.Truthful := by
  obtain ⟨custody, -⟩ := follow script pool level run []
  intro s sql st found
  have kept := Ledger.mem_of_value? found
  obtain ⟨n, prepared⟩ := custody.idle s _ (Host.shelf_of_mem kept) sql st kept
  have statement := Host.statement_of_at? prepared
  refine ⟨?_, by rw [statement], by rw [statement]⟩
  exact (List.getElem?_eq_some_iff.mp prepared).1

/-- A desk behind requests, one of which has created the table `t`. -/
def Created (t : Nat) (d : Desk) : Prop :=
  ∃ script pool level before later schema id name definition fetchSize catalogs,
    let made := ((opening (Host.start script pool level)).after Operation.perform before).serve
      Operation.perform (.plain (.createTable
        (.unconnected schema id name definition fetchSize catalogs)) rfl)
    made.1 = .ok (.table t) ∧ d = made.2.after Operation.perform later

variable {d : Desk} (created : d.Created t)
include created

/-- A table that was created is in service behind all later requests. -/
theorem inService_of_created : d.host.InService t := by
  obtain ⟨script, pool, level, before, later, schema, id, name, definition, fetchSize, catalogs, ok,
    rfl⟩ := created
  obtain ⟨known, -, has, formed⟩ := Host.formed_of_createTable rfl (Prod.ext ok rfl)
  exact after_serves _ later ⟨known, fun _ => ⟨has, formed⟩⟩

theorem truthful_of_created : d.host.Truthful := by
  obtain ⟨script, pool, level, before, later, schema, id, name, definition, fetchSize, catalogs, -,
    rfl⟩ := created
  have run := truthful_of_after script pool level (before ++ .plain (.createTable
    (.unconnected schema id name definition fetchSize catalogs)) rfl :: later)
  rwa [after, List.foldl_append] at run

end Desk

end LinkedTables
