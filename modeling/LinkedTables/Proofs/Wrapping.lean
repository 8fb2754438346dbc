import LinkedTables.Proofs.LocalFaults

/-!
# Faults of the remote side in the failures of statements

Work on a table is `Action.Surfacing` if each of its faults has one of a few causes
(`Host.Surfaces`). This is so for what is composed of such work, and from the execution of a single
statement on for everything that is executed for a table. The failure of a count takes up the faults
of fetching as well (`Surfacing.rowCount`), while those of reading a query come through as they are
(`Surfacing.query`).
-/

namespace LinkedTables

variable {t : Nat} {b h h' : Host} {reads : Prop} {atHand : Host → Fault → Prop} {fault : Fault}

namespace Action

open Keeps

/-- A statement for rows that cannot be written. -/
theorem surfaces_of_unwritten {request : Sql.RowRequest} {table : String} {columns : List Column}
    {client : Option Nat}
    (failed : request.statement (readiness (h.table t)) table columns = .error fault)
    (follows : Follows t b h) (unfit : h.Unfit client columns request.rows fault → atHand h fault) :
    b.Surfaces t reads atHand h fault := by
  cases Sql.unwritten_of_request failed with
  | unready refuses =>
    rcases ready : readySession (h.table t) with fault' | s
    · rw [readiness, ready] at refuses
      cases refuses
      exact .of_unready ready
    · rw [readiness, ready] at refuses
      cases refuses
  | short given among missing =>
    exact .atHand follows (unfit ⟨_, given, .inr ⟨rfl, _, among, missing⟩⟩)
  | untold table => exact .of_local (by decide)

theorem Came.calm {α : Type} {r : Except Fault α}
    (came : Came t reads atHand b (fun _ _ => True) r h) (kept : Calm h h') :
    Came t reads atHand b (fun _ _ => True) r h' := by
  refine ⟨came.1.calm kept, ?_⟩
  cases r with
  | ok a => trivial
  | error fault => exact came.2.calm kept

/-! ### Work whose faults surface -/

/-- Behind the host `b`, the faults of some work on the table `t` surface. -/
def Surfacing {α : Type} (t : Nat) (reads : Prop) (atHand : Host → Fault → Prop) (b : Host)
    (x : Action α) : Prop :=
  ∀ h, Tracks t b h → Reaches x h (Came t reads atHand b fun _ _ => True)

namespace Surfacing

variable {α β : Type} {x : Action α}

theorem of_pure (a : α) : Surfacing t reads atHand b (pure a) := fun _ tracks => ⟨tracks, trivial⟩

theorem of_local {kind : LinkFaultKind} {message : String} (here : kind.IsLocal) :
    Surfacing t reads atHand b (throw (.link (.plain kind message)) : Action α) :=
  fun _ tracks => ⟨tracks, .of_local here⟩

theorem bind {f : α → Action β} (hx : Surfacing t reads atHand b x)
    (hf : ∀ a, Surfacing t reads atHand b (f a)) : Surfacing t reads atHand b (x >>= f) :=
  fun h tracks => .bind (hx h tracks) (fun a h' came => hf a h' came.1) fun _ _ came => came

theorem map (hx : Surfacing t reads atHand b x) (f : α → β) :
    Surfacing t reads atHand b (do return f (← x)) :=
  hx.bind fun a => of_pure (f a)

theorem get_bind {f : Host → Action α} (hf : ∀ h, Surfacing t reads atHand b (f h)) :
    Surfacing t reads atHand b (get >>= f) :=
  fun h => hf h h

theorem of_ite {c : Prop} [Decidable c] {y : Action α} (hx : Surfacing t reads atHand b x)
    (hy : Surfacing t reads atHand b y) : Surfacing t reads atHand b (if c then x else y) := by
  split
  · exact hx
  · exact hy

theorem inLink (name : String) (hx : Surfacing t reads atHand b x) :
    Surfacing t reads atHand b (inLink name x) := by
  intro h tracks
  have came := hx { h with link := some name } (tracks.calm (Calm.link h _))
  rw [Reaches] at came ⊢
  rw [Host.act_inLink]
  exact came.calm (Calm.link _ h.link)

theorem of_forM {ι : Type} {f : ι → Action Unit} {l : List ι}
    (hf : ∀ i ∈ l, Surfacing t reads atHand b (f i)) : Surfacing t reads atHand b (l.forM f) := by
  induction l with
  | nil => exact of_pure ()
  | cons i l ih =>
    obtain ⟨here, later⟩ := List.forall_mem_cons.mp hf
    exact here.bind fun _ => ih later

/-- A change that leaves the tables, what is to come and the sessions alone. -/
theorem of_modify {f : Host → Host} (tables : ∀ h, (f h).tables = h.tables)
    (script : ∀ h, (f h).script = h.script) (results : ∀ h, (f h).results = h.results)
    (sessions : ∀ h, (f h).sessions = h.sessions)
    (statements : ∀ h, (f h).statements = h.statements) :
    Surfacing t reads atHand b (modify f : Action Unit) := fun h tracks =>
  ⟨tracks.behind (Idle.follows (.of_same (tables h) (script h) (results h)))
    (.of_same (sessions h) (statements h)), trivial⟩

theorem checkValid (table : LinkedTable) :
    Surfacing t reads atHand b (ofExcept table.checkValid) := by
  rw [LinkedTable.checkValid]
  split
  · exact of_pure ()
  · exact of_local (by decide)

theorem scanIndex (table : LinkedTable) :
    Surfacing t reads atHand b (ofExcept table.scanIndex) := by
  rw [LinkedTable.scanIndex, LinkedTable.checkValid]
  split
  · exact of_pure _
  · exact of_local (by decide)

theorem checkWritable (table : LinkedTable) :
    Surfacing t reads atHand b (ofExcept table.checkWritable) := by
  rw [LinkedTable.checkWritable]
  split
  · exact of_local (by decide)
  · exact of_pure ()

theorem checkCancelled : Surfacing t reads atHand b checkCancelled := by
  refine get_bind fun h => ?_
  rw [Cancellation.check]
  split
  · exact of_local (by decide)
  · exact of_pure ()

theorem checkChange (u : Nat) : Surfacing t reads atHand b (checkChange u) :=
  get_bind fun _ => (checkWritable _).bind fun _ => checkValid _

theorem executeNamed (u : Nat) (hx : Surfacing t reads atHand b x) :
    Surfacing t reads atHand b (executeNamed u x) :=
  get_bind fun _ => (checkValid _).bind fun _ => hx.inLink _

theorem recordChange (client : Nat) (record : UndoRecord) :
    Surfacing t reads atHand b (recordChange client record) :=
  of_modify (fun _ => rfl) (fun _ => rfl) (fun _ => rfl) (fun _ => rfl) fun _ => rfl

section Requests

variable (honest : b.Honest t) {client : Option Nat}
include honest

/-- A statement for rows is written and executed; what ails the rows is found at hand. -/
theorem request (asked : Sql.RowRequest)
    (unfit : ∀ g fault, g.Unfit client (g.table t).columns asked.rows fault → atHand g fault) :
    Surfacing t reads atHand b (do
      let table := (← get).table t
      runRows t client (asked.statement (readiness table) table.name table.columns)) := by
  intro h tracks
  refine .get_bind (.bind_ofExcept (fun statement made => ?_) fun fault failed => ⟨tracks, ?_⟩)
  · refine .get_bind (executeNamed t (fun h' tracks => came_run honest ?_ tracks) h tracks)
    exact fun g fault unbound => unfit g fault (Host.unfit_of_unbound made unbound)
  · exact surfaces_of_unwritten failed tracks.toFollows fun ails => unfit h fault ails

theorem insertRow {row : List Value}
    (unfit : ∀ g fault, g.Unfit client (g.table t).columns [row] fault → atHand g fault) :
    Surfacing t reads atHand b (insertRow t client row) :=
  request honest (.add row) unfit

theorem deleteRow {row : List Value}
    (unfit : ∀ g fault, g.Unfit client (g.table t).columns [row] fault → atHand g fault) :
    Surfacing t reads atHand b (deleteRow t client row) :=
  request honest (.remove row) unfit

theorem updateRow {old new : List Value}
    (unfit : ∀ g fault, g.Unfit client (g.table t).columns [old, new] fault → atHand g fault) :
    Surfacing t reads atHand b (updateRow t client old new) :=
  request honest (.update old new) unfit

theorem addRow {row : List Value}
    (unfit : ∀ g fault, g.Unfit client (g.table t).columns [row] fault → atHand g fault) :
    Surfacing t reads atHand b (addRow t client row) :=
  (checkChange t).bind fun _ => insertRow honest unfit

theorem removeRow {row : List Value}
    (unfit : ∀ g fault, g.Unfit client (g.table t).columns [row] fault → atHand g fault) :
    Surfacing t reads atHand b (removeRow t client row) :=
  (checkChange t).bind fun _ => deleteRow honest unfit

theorem execute {sql : String} {params : List Value}
    (unbound : ∀ g fault, g.Unbound client params fault → atHand g fault) :
    Surfacing t reads atHand b (execute t sql params client) := by
  intro h tracks
  have came : Reaches (Action.execute t sql params client) h (Came t reads atHand b fun st h' =>
    h'.Opened sql st) := came_execute honest unbound tracks
  refine came.mono ?_
  rintro (fault | st) h' came
  · exact came
  · exact ⟨came.1, trivial⟩

theorem executeFor {sql : String} {params : List Value}
    (unbound : ∀ g fault, g.Unbound client params fault → atHand g fault) (keep : Bool) :
    Surfacing t reads atHand b (executeFor t client sql params keep) := by
  refine executeNamed t (of_ite ((execute honest unbound).map _) ?_)
  exact bind (fun h tracks => came_run honest unbound tracks) fun _ => of_pure none

end Requests

/-! ### Updates -/

theorem updateRows (honest : b.Honest t) {client : Nat} {pairs : List (List Value × List Value)}
    (unfit : ∀ g fault, g.Unfit (some client) (g.table t).columns
      (pairs.flatMap fun pair => [pair.1, pair.2]) fault → atHand g fault) :
    Surfacing t reads atHand b (updateRows t client pairs) := by
  -- What ails a row of a pair ails the rows of all pairs.
  have among {pair : List Value × List Value} (given : pair ∈ pairs) {rows : List (List Value)}
      (own : rows ⊆ [pair.1, pair.2]) (g : Host) (fault : Fault)
      (ails : g.Unfit (some client) (g.table t).columns rows fault) : atHand g fault :=
    unfit g fault (ails.mono fun row here => List.mem_flatMap.mpr ⟨pair, given, own here⟩)
  have record (row : List Value) (change : Change) : Surfacing t reads atHand b (do
      Action.recordChange client ⟨((← get).table t).label, change, row⟩) :=
    get_bind fun _ => recordChange client _
  refine (checkChange t).bind fun _ => get_bind fun h => inLink _ (of_ite ?_ ?_)
  · refine of_forM fun pair given => checkCancelled.bind fun _ => ?_
    refine (updateRow honest (among given fun _ => id)).bind fun _ => get_bind fun _ => ?_
    exact (recordChange client _).bind fun _ => recordChange client _
  · refine bind (of_forM fun pair given => checkCancelled.bind fun _ => ?_) fun _ =>
      of_forM fun pair given => checkCancelled.bind fun _ => ?_
    · refine (removeRow honest (among given ?_)).bind fun _ => record pair.1 .delete
      exact List.cons_subset_cons _ (List.nil_subset _)
    · refine (addRow honest (among given ?_)).bind fun _ => record pair.2 .insert
      exact List.subset_cons_self _ _

end Surfacing

/-! ### Reading rows -/

/-- The rows of a result are read without any change but that there are fewer to come. -/
theorem reaches_fetch (follows : Follows t b h) (r : Nat) :
    Reaches (fetch r) h fun found h' => Calm h h' ∧ h'.cursors = h.cursors
      ∧ ∀ fault, found = .error fault → b.RaisesRow fault := by
  refine ⟨calm_fetch r h, ?_⟩
  refine Reaches.get_bind (Q := fun found h' => h'.cursors = h.cursors
    ∧ ∀ fault, found = .error fault → b.RaisesRow fault) ?_
  dsimp only
  split
  · exact ⟨rfl, nofun⟩
  next row rest here =>
    refine .of_ite (fun _ => ⟨rfl, ?_⟩) fun _ => .modify_bind ?_
    · rintro _ ⟨⟩
      exact .inr ⟨_, rfl, rfl⟩
    · cases row with
      | ok values => exact ⟨rfl, nofun⟩
      | error fault =>
        refine ⟨rfl, ?_⟩
        rintro _ ⟨⟩
        exact .inl (follows.fetched fault (.inr ⟨r, here ▸ List.mem_cons_self⟩))

theorem reaches_fetchFrom (follows : Follows t b h) (r fuel : Nat) :
    Reaches (fetchFrom r fuel) h fun rows h' => Calm h h'
      ∧ ∀ fault, rows = .error fault → b.RaisesRow fault := by
  refine ⟨calm_fetchFrom r fuel h, ?_⟩
  suffices Reaches (fetchFrom r fuel) h fun rows _ => ∀ fault, rows = .error fault →
    b.RaisesRow fault from this
  induction fuel generalizing h with
  | zero => exact nofun
  | succ fuel ih =>
    refine .bind (reaches_fetch follows r) ?_ fun fault h' fetched => ?_
    · rintro (_ | row) h' ⟨kept, -⟩
      · exact nofun
      · refine .bind (ih ((followsUse t).trans follows kept.idle.follows)) (fun _ _ _ => nofun)
          fun _ _ raised => raised
    · rintro _ ⟨⟩
      exact fetched.2.2 fault rfl

/-- All rows of a statement are read. -/
theorem reaches_readRows (follows : Follows t b h) (st : Nat) :
    Reaches (readRows st) h fun rows h' => Calm h h'
      ∧ ∀ fault, rows = .error fault → b.RaisesRow fault := by
  refine .get_bind ?_
  split
  · exact .get_bind (reaches_fetchFrom follows _ _)
  · exact ⟨calm.refl h, nofun⟩

/-- A single value is read from the result of a statement. -/
theorem reaches_readSingle {sql : String} {st : Nat} (follows : Follows t b h)
    (opened : h.Opened sql st) :
    Reaches (readSingle st) h fun v h' => Calm h h'
      ∧ ∀ fault, v = .error fault → b.Raises fault ∨ fault = .outOfRange false := by
  refine ⟨calm_readSingle st h, ?_⟩
  obtain ⟨r, result⟩ := opened.result
  refine Reaches.get_bind (Q := fun v _ => ∀ fault, v = .error fault →
    b.Raises fault ∨ fault = .outOfRange false) ?_
  rw [result]
  refine .bind (reaches_fetch follows r) ?_ fun fault h' fetched => ?_
  · rintro (_ | row) h' ⟨kept, -⟩
    · rintro _ ⟨⟩
      exact .inl (.inr ⟨_, rfl, by simp⟩)
    · have follows := (followsUse t).trans follows kept.idle.follows
      refine .bind (reaches_fetch follows r) ?_ fun fault h'' fetched => ?_
      · rintro (_ | other) h'' -
        · cases row with
          | nil =>
            rintro _ ⟨⟩
            exact .inr rfl
          | cons v _ => exact nofun
        · rintro _ ⟨⟩
          exact .inl (.inr ⟨_, rfl, by simp⟩)
      · rintro _ ⟨⟩
        exact .inl (fetched.2.2 fault rfl).raises
  · rintro _ ⟨⟩
    exact .inl (fetched.2.2 fault rfl).raises

namespace Surfacing

/-- A count puts the faults of reading into the failure of its statement as well. -/
theorem rowCount (honest : b.Honest t) (client : Option Nat)
    (uncounted : ∀ g fault, Uncounted fault → atHand g fault) :
    Surfacing t reads atHand b (rowCount t client) := by
  refine get_bind fun h => executeNamed t fun g tracks => ?_
  generalize countText (h.table t).qualifiedName = sql
  have counted (st : Nat) (g : Host) (tracks : Tracks t b g) (opened : g.Opened sql st) :
      Reaches (do ofExcept (wholeCount (← readSingle st))) g fun r g' => Calm g g'
        ∧ ∀ fault, r = .error fault → b.Raises fault ∨ Uncounted fault := by
    refine .bind (reaches_readSingle tracks.toFollows opened) (fun v g' came => ?_)
      fun fault g' came => ?_
    · refine ⟨by rw [Host.act_ofExcept]; exact came.1, fun fault failed => ?_⟩
      rw [Host.act_ofExcept] at failed
      exact .inr (.inr ⟨v, failed⟩)
    · refine ⟨came.1, ?_⟩
      rintro _ ⟨⟩
      exact (came.2 fault rfl).imp id .inl
  -- Nothing is bound, so that nothing is found at hand before the reading.
  have read : Reaches (reading t sql [] client fun st => do
      ofExcept (wholeCount (← readSingle st))) g fun r g' => Tracks t b g' ∧
        ∀ fault, r = .error fault → b.Surfaces t False (fun _ _ => False) g' fault
          ∨ g'.Last sql ∧ (b.Raises fault ∨ Uncounted fault) := by
    refine came_reading honest ?_ counted tracks
    rintro g fault ⟨v, among, -⟩
    cases among
  refine .outcome_bind read ?_
  rintro (fault | n) g' ⟨tracks, failed⟩
  · refine ⟨tracks, ?_⟩
    show b.Surfaces t reads atHand g' (if fault.isRemote then .link (wrapped sql fault) else fault)
    rcases failed fault rfl with surfaces | ⟨last, raised | ails⟩
    · obtain ⟨failure, rfl, -⟩ := surfaces.link_of_unread honest id fun _ => id
      exact surfaces.mono False.elim fun _ _ => False.elim
    · rw [if_pos (honest.isRemote raised)]
      exact .refused last raised
    · rw [ails.isRemote]
      exact .atHand tracks.toFollows (uncounted g' fault ails)
  · exact ⟨tracks, trivial⟩

/-- The faults of reading the rows of a query come through as they are. -/
theorem query (honest : b.Honest t) {client : Option Nat} {params : List Value}
    (unbound : ∀ g fault, g.Unbound client params fault → atHand g fault) (sql : String)
    {failure : Option Fault} (given : ∀ g fault, failure = some fault → atHand g fault) :
    Surfacing t True atHand b (query t client sql params failure) := by
  intro h tracks
  have came : Reaches (Action.query t client sql params failure) h fun r h' => Tracks t b h' ∧
      ∀ fault, r = .error fault → b.Surfaces t True atHand h' fault
        ∨ h'.Last sql ∧ (b.RaisesRow fault ∨ failure = some fault) := by
    refine came_reading honest unbound (fun st g tracks _ => ?_) tracks
    cases failure with
    | some fault =>
      refine ⟨calm.refl g, ?_⟩
      rintro _ ⟨⟩
      exact .inr rfl
    | none =>
      have read := reaches_readRows tracks.toFollows st
      exact ⟨read.1, fun fault failed => .inl (read.2 fault failed)⟩
  refine came.mono ?_
  rintro (fault | rows) h' ⟨tracks, failed⟩
  · refine ⟨tracks, ?_⟩
    rcases failed fault rfl with surfaces | ⟨-, raised | ails⟩
    · exact surfaces
    · exact .unread trivial raised
    · exact .atHand tracks.toFollows (given h' fault ails)
  · exact ⟨tracks, trivial⟩

end Surfacing

end Action

end LinkedTables
