import LinkedTables.Proofs.OperationsKeepSessions

/-!
# Tables that know why they are without a session

Where every fault of connecting to a target is foreseen, a table of the target holds a session or
remembers a failure from the time that it was created, until it is disconnected (`minds_perform`).
So a table that has not been disconnected and remembers no failure is ready for the next statement
(`Host.Minded.ready`).
-/

namespace LinkedTables

open LinkedTables.Action

/-- Every fault of connecting to a target is foreseen; if the table `t` is there, it links to the
target, and remembers a failure if it holds no session. -/
structure Host.Minded (key : LinkKey) (t : Nat) (h : Host) : Prop where
  foreseen : ∀ fault, ¬ h.script.Unforeseen key fault
  target : t < h.tables.next → (h.table t).definition.key = key
  minded : t < h.tables.next → (h.table t).session = none → (h.table t).failure ≠ none

/-- The table `t` goes on to hold a session or to remember a failure. -/
def Minds (key : LinkKey) (t : Nat) (h h' : Host) : Prop := h.Minded key t → h'.Minded key t

section Minds

variable {key : LinkKey} {t : Nat} {h : Host}

theorem minds (key : LinkKey) (t : Nat) : Frame (Minds key t) where
  refl _ := id
  trans a b := b ∘ a

theorem Minds.of_tables {h' : Host} (tables : h'.tables = h.tables)
    (script : h.script.Later h'.script) : Minds key t h h' := by
  intro m
  have table : h'.table t = h.table t := by rw [Host.table, tables]; rfl
  exact ⟨fun fault raised => m.foreseen fault (raised.of_later script),
    tables ▸ table ▸ m.target, tables ▸ table ▸ m.minded⟩

/-- A table changes, which keeps its session and the failure that it remembers if it is `t`. -/
theorem Minds.of_revise {u : Nat} {f : LinkedTable → LinkedTable}
    (kept : u = t → (f (h.table t)).definition = (h.table t).definition ∧
      (f (h.table t)).session = (h.table t).session ∧
      (f (h.table t)).failure = (h.table t).failure) :
    Minds key t h { h with tables := h.tables.revise u f } := by
  intro m
  have next := Roster.next_revise h.tables u f
  rcases h.table_of_revise u t f with e | ⟨same, e⟩
  · exact ⟨m.foreseen, fun known => e ▸ m.target (next ▸ known),
      fun known => e ▸ m.minded (next ▸ known)⟩
  · obtain ⟨definition, session, failure⟩ := kept same
    refine ⟨m.foreseen, fun known => ?_, fun known => ?_⟩
    · rw [e, definition]
      exact m.target (next ▸ known)
    · rw [e, session, failure]
      exact m.minded (next ▸ known)

theorem mindsUse (key : LinkKey) (t : Nat) : UseFrame (Minds key t) where
  toFrame := minds key t
  idle i _ := .of_tables i.tables i.script
  answer {h _ _ _} taken := by
    have later := Remote.Script.later_execute h.script
    rw [taken] at later
    exact .of_tables rfl later

/-- Other tables are connected without any notice. -/
theorem mindsLink {u : Nat} (other : u ≠ t) : LinkFrame u (Minds key t) :=
  { (mindsUse key t).toSessionFrame with
    link := fun _ => .of_revise fun same => absurd same other
    adopt := fun _ _ => .of_revise fun same => absurd same other }

namespace Action

open Keeps

/-- A connect that foresees all faults leaves the table with a session, or with a failure that it
remembers. -/
theorem minded_connect (target : t < h.tables.next → (h.table t).definition.key = key)
    (foreseen : ∀ fault, ¬ h.script.Unforeseen key fault) :
    Reaches (connect t) h fun _ h' => h'.Minded key t := by
  have defined := (defines t t).connect h
  refine ⟨fun fault raised => foreseen fault (raised.of_later defined.script),
    fun known => defined.definition.symm ▸ target (defined.known ▸ known), fun known lost => ?_⟩
  have known : t < h.tables.next := defined.known ▸ known
  have ends := reaches_connect known
  rw [Reaches] at ends
  generalize h.act (connect t) = p at ends lost ⊢
  obtain ⟨r, h'⟩ := p
  cases ends with
  | held session => cases session.symm.trans lost
  | gaveUp _ remembered =>
    rw [remembered]
    exact Option.some_ne_none _
  | escaped _ _ raised => exact absurd (target known ▸ raised) (foreseen _)

/-- A table that is told to connect anew holds a session then, or remembers a failure. -/
theorem minded_reconnect (target : t < h.tables.next → (h.table t).definition.key = key)
    (foreseen : ∀ fault, ¬ h.script.Unforeseen key fault) (failed : Option Nat) :
    Reaches (reconnect t failed) h fun _ h' => h'.Minded key t := by
  refine Reaches.get_bind ?_
  cases replaced : replacement? h t failed with
  | some s =>
    refine ⟨foreseen, target, fun _ (lost : (h.table t).session = none) => ?_⟩
    cases lost.symm.trans (LinkLogic.session_of_replacement? replaced)
  | none =>
    have given := act_giveUpSession (h := h) (t := t) (.inr fun fault there =>
      foreseen fault (.inl there))
    have defined := (defines t t).giveUpSession h
    generalize (h.act (giveUpSession t)).2 = g at given defined
    have connected := minded_connect
      (fun known => defined.definition ▸ target (defined.known ▸ known))
      fun fault raised => foreseen fault (raised.of_later defined.script)
    exact Reaches.bind_of_act given connected

theorem minds_reconnect (failed : Option Nat) : Keeps (Minds key t) (reconnect t failed) :=
  fun _ m => minded_reconnect m.target m.foreseen failed

/-- The table itself is connected anew where it has to be. -/
theorem mindsUpkeep (key : LinkKey) (t : Nat) : Upkeep (Minds key t) := by
  refine { mindsUse key t with execute := ?_, settings := ?_ }
  · intro u sql params client
    have F := mindsUse key t
    have reconnects (failed : Option Nat) : Keeps (Minds key t) (reconnect u failed) := by
      by_cases other : u = t
      · exact other ▸ minds_reconnect failed
      · exact (mindsLink other).reconnect failed
    exact bind F.toFrame (F.of_calm (calm_requireSession u)) fun s =>
      F.executeFrom reconnects sql params client s maxRetry
  · intro h u f unset
    refine .of_revise fun same => ?_
    subst same
    exact ⟨(congrArg LinkedTable.definition unset :), (congrArg LinkedTable.session unset :),
      (congrArg LinkedTable.failure unset :)⟩

/-- What is done behind the connect of a new table keeps its session and its failure. -/
theorem minded_connectNew {u : Nat} (connected : Reaches (connect u) h fun _ g => g.Minded key t) :
    Reaches (connectNew u) h fun _ h' => h'.Minded key t := by
  have M := minds key t
  refine Reaches.outcome_bind connected fun r g came => ?_
  have minded {x : Action Unit} (rest : Keeps (Minds key t) x) :
      Reaches x g fun _ g' => g'.Minded key t := rest g came
  refine minded ?_
  dsimp only
  split
  · exact of_pure M ()
  · refine get_bind fun _ => of_ite ?_ (of_throw M _)
    refine bind M ((mindsUse key t).of_calm (calm_report _)) fun _ => ?_
    exact of_modify fun _ => .of_revise fun _ => ⟨rfl, rfl, rfl⟩
  · exact of_throw M _

/-- A table that is created is connected, or remembers why not; others do not take any notice. -/
theorem minds_createTable {table : LinkedTable} (target : table.definition.key = key) :
    Minds key t h (h.perform (.createTable table)).2 := by
  intro m
  have next : (h.joining table).tables.next = h.tables.next + 1 := h.next_withTable table
  have same : (h.joining table).table t = if t = h.tables.next then table else h.table t :=
    h.table_withTable table t
  have connected : Reaches (connect h.tables.next) (h.joining table) fun _ g =>
      g.Minded key t := by
    by_cases new : t = h.tables.next
    · rw [if_pos new] at same
      subst new
      exact minded_connect (fun _ => (congrArg (·.definition.key) same).trans target) m.foreseen
    · rw [if_neg new] at same
      have joined : (h.joining table).Minded key t :=
        ⟨m.foreseen, fun known => same ▸ m.target (by omega),
          fun known => same ▸ m.minded (by omega)⟩
      exact (mindsLink fun e => new e.symm).connect _ joined
  have made := minded_connectNew connected
  rw [Host.perform_createTable]
  exact ⟨made.foreseen, made.target, made.minded⟩

end Action

/-- A table is minded through every operation but one that disconnects it. -/
theorem minds_perform {o : Operation} (proper : o.Proper key h) (kept : o.lost ≠ some t) :
    Minds key t h (h.perform o).2 := by
  have F := mindsUse key t
  have other {u : Nat} (kept : some u ≠ some t) : u ≠ t := fun same => kept (congrArg some same)
  have silent {x : Action Unit} (hx : Keeps (Minds key t) x) : Keeps (Minds key t) (silently x) :=
    .bind F.toFrame hx fun _ => .of_pure F.toFrame Reply.done
  cases o with
  | createTable table => exact minds_createTable proper.2
  | reconnect u failed =>
    refine Keeps.bind F.toFrame ?_ (fun s => .of_pure F.toFrame (Reply.session s)) h
    by_cases same : u = t
    · exact same ▸ minds_reconnect failed
    · exact (mindsLink same).reconnect failed
  | giveUpSession u => exact silent (mindsLink (other kept)).giveUpSession h
  | closeLink u => exact silent (mindsLink (other kept)).closeLink h
  | removeTable u =>
    refine silent (F.removeTable (mindsLink (other kept)).closeLink ?_) h
    exact .of_modify fun _ => .of_revise fun same => absurd same (other kept)
  | connect | dropTable => exact proper.elim
  | _ => exact (mindsUpkeep key t).perform id h

end Minds

end LinkedTables
