import LinkedTables.Proofs.UseKeepsSessions

/-!
# Operations that uphold open sessions

Where nothing fails for a target, whatever is asked for its tables but to give up an open session
by force leaves its breaker shut, and all tables but one that is disconnected with the open sessions
that they hold (`Upholds`, `upholds_perform`). An operation that executes statements
(`Operation.executes`) leaves its table with an open session if it has sent any.
-/

namespace LinkedTables

open LinkedTables.Action

/-! ### What operations do for tables -/

namespace Operation

/-- The table that an operation disconnects. -/
def lost : Operation → Option Nat
  | giveUpSession t | closeLink t | removeTable t => some t
  | _ => none

/-- The table for which an operation executes statements. -/
def executes (h : Host) : Operation → Option Nat
  | addRow t .. | removeRow t .. | updateRows t .. | rowCount t .. | execute t .. | query t .. =>
    some t
  | next c | drain c => some (h.cursor c).table
  | _ => none

/-- The operation gives up a session by force that is open. -/
def Forces (h : Host) : Operation → Prop
  | reconnect t failed => replacement? h t failed = none ∧ h.InTouch t
  | giveUpSession t => h.InTouch t
  | _ => False

/-- The operation is for a target, and names only what is there. -/
def Proper (key : LinkKey) (h : Host) : Operation → Prop
  | createTable table => table.session = none ∧ table.definition.key = key
  | addRow t .. | removeRow t .. | updateRows t .. | rowCount t .. | execute t .. | query t ..
  | reconnect t _ => t < h.tables.next ∧ (h.table t).definition.key = key
  | next c | drain c =>
    ((h.cursor c).table < h.tables.next ∧ (h.table (h.cursor c).table).definition.key = key) ∧
      h.ReadsFrom (h.cursor c).table c
  | handBack _ st _ => st < h.statements.next
  | clearUndo _ | openScan .. | openFind .. | closeCursor _ | convertRow .. | setReadOnly ..
  | setGlobalTemporary .. | setFetchSize .. | setDefault .. | setSequence .. | giveUpSession _
  | closeLink _ | removeTable _ | fetchAll _ | closeStatement _ => True
  | _ => False

/-- Every handshake succeeds that an operation may have to make. -/
def Greeted (h : Host) : Operation → Prop
  | createTable table => table.Welcome h.script
  | reconnect t _ => (h.table t).Welcome h.script
  | o => ∀ t, o.executes h = some t → (h.table t).Welcome h.script

namespace Proper

variable {key : LinkKey} {h : Host} {o : Operation} (proper : o.Proper key h)
include proper

theorem usesTables : o.UsesTables := by
  cases o with
  | createTable table => exact proper.1
  | connect | acquire | release | prepare | executeStatement | putStatement | takeStatement
  | clearStatements | discard => exact proper.elim
  | _ => exact trivial

theorem target_of_executes {t : Nat} (executes : o.executes h = some t) :
    t < h.tables.next ∧ (h.table t).definition.key = key := by
  cases o with
  | addRow | removeRow | updateRows | rowCount | execute | query =>
    cases executes
    exact proper
  | next | drain =>
    cases executes
    exact proper.1
  | _ => cases executes

end Proper

end Operation

/-- The breaker of a target stays shut, and the tables that hold an open session, but for one that
is lost, hold it still. -/
structure Upholds (key : LinkKey) (lost : Option Nat) (h h' : Host) : Prop where
  shut : (∀ breaker, h.pool.breakers.value? key = some breaker → breaker.state = .shut) →
    ∀ breaker, h'.pool.breakers.value? key = some breaker → breaker.state = .shut
  holds : ∀ t s, lost ≠ some t → (h.table t).session = some s → (h.session s).closed = false →
    (h'.table t).session = some s ∧ (h'.session s).closed = false

section Upholding

variable {key : LinkKey} {h h' : Host}

theorem Upholds.of_steadfast (clear : h'.Clear key) (kept : Steadfast h h') :
    Upholds key none h h' :=
  ⟨fun _ => clear.shut, fun t s _ => kept t s⟩

theorem upholds (key : LinkKey) : Frame (Upholds key none) where
  refl _ := ⟨id, fun _ _ _ held isOpen => ⟨held, isOpen⟩⟩
  trans a b := by
    refine ⟨b.shut ∘ a.shut, fun t s free held isOpen => ?_⟩
    obtain ⟨held, isOpen⟩ := a.holds t s free held isOpen
    exact b.holds t s free held isOpen

/-- Where the lines and the breakers are the same, nothing is lost. -/
theorem Upholds.of_lines (guarded : Guarded h h') (lines : h'.lines = h.lines) :
    Upholds key none h h' := by
  refine ⟨fun shut => guarded.breakers ▸ shut, fun t s _ held isOpen => ?_⟩
  have session : (h'.session s).line = (h.session s).line := by
    rw [← h'.lines_line, lines, h.lines_line]
  rw [← h'.lines_heldBy, lines, h.lines_heldBy]
  exact ⟨held, (congrArg Line.closed session).trans isOpen⟩

namespace Action

open Keeps

variable {α : Type}

/-! ### Work that moves no line -/

/-- What neither moves lines nor touches breakers. -/
theorem upholds_of_quiet {x : Action α} (guarded : Keeps Guarded x) (lines : Keeps SameLines x) :
    Keeps (Upholds key none) x :=
  fun h => .of_lines (guarded h) (lines h)

theorem upholds_modify {f : Host → Host} (script : ∀ h, (f h).script = h.script)
    (pool : ∀ h, (f h).pool = h.pool) (lines : ∀ h, (f h).lines = h.lines) :
    Keeps (Upholds key none) (modify f) :=
  of_modify fun h => .of_lines ⟨congrArg Pool.breakers (pool h), script h ▸ .refl _⟩ (lines h)

theorem upholds_reviseTable (t : Nat) {f : LinkedTable → LinkedTable}
    (session : ∀ table, (f table).session = table.session) :
    Keeps (Upholds key none) (reviseTable t f) :=
  upholds_of_quiet (of_modify fun _ => ⟨rfl, .refl _⟩)
    (keeps_lines fun hR => (smooth_reviseTable hR t session).steady)

theorem upholds_clearUndo (client : Nat) : Keeps (Upholds key none) (clearUndo client) :=
  upholds_modify (fun _ => rfl) (fun _ => rfl) fun _ => rfl

theorem upholds_convertRow (t : Nat) (row : List Value) :
    Keeps (Upholds key none) (convertRow t row) :=
  get_bind fun _ => bind (upholds key) (upholds_reviseTable t fun _ => rfl) fun _ =>
    of_pure (upholds key) _

theorem upholds_openCursor (cursor : Cursor) : Keeps (Upholds key none) (openCursor cursor) :=
  get_bind fun _ => bind (upholds key)
    (upholds_modify (fun _ => rfl) (fun _ => rfl) fun _ => rfl) fun _ => of_pure (upholds key) _

theorem upholds_closeStatement (st : Nat) : Keeps (Upholds key none) (closeStatement st) :=
  upholds_of_quiet ((firm_closeStatement st).mono fun _ _ f => f.guarded)
    fun h => (Steady.unmoved (fun _ _ => (unmoved_closeStatement st).steady) h).1

theorem upholds_handBack {st : Nat} (there : st < h.statements.next) (t : Nat) (sql : String) :
    Upholds key none h (h.act (handBack t st sql)).2 :=
  .of_lines (firm_handBack there t sql).guarded
    (Steady.unmoved (fun _ _ => (unmoved_handBack t st sql).steady) h).1

theorem upholds_closeCursor (c : Nat) : Keeps (Upholds key none) (closeCursor c) := by
  refine get_bind fun h => bind (upholds key)
    (upholds_modify (fun _ => rfl) (fun _ => rfl) fun _ => rfl) fun _ => ?_
  split
  · exact upholds_closeStatement _
  · exact of_pure (upholds key) ()

theorem upholds_setFetchSize (t : Nat) (n : Int) : Keeps (Upholds key none) (setFetchSize t n) :=
  upholds_of_quiet (get_bind fun _ => bind guarded (of_ofExcept guarded _) fun _ =>
    of_modify fun _ => ⟨rfl, .refl _⟩) (keeps_lines fun hR => steady_setFetchSize hR t n)

end Action

/-! ### Tables that are disconnected -/

/-- A table that closes its link takes no open session from another. -/
theorem Lines.Counted.upholds {l : Lines} (c : l.Counted none) {t s : Nat}
    (held : l.heldBy t = some s) {u s' : Nat} (other : u ≠ t) (keeps : l.heldBy u = some s')
    (isOpen : (l.line s').closed = false) :
    let l' := (l.withHeld t none).released s false
    l'.heldBy u = some s' ∧ (l'.line s').closed = false := by
  intro l'
  refine ⟨?_, ?_⟩
  · rw [heldBy, held_released]
    exact (heldBy_withHeld_of_ne other none).trans keeps
  · by_cases same : s = s'
    · subst same
      exact ((c.closeLink held).2 (.inr ⟨u, other, keeps⟩)).2.trans isOpen
    · exact (congrArg Line.closed (line_released_of_ne same false)).trans isOpen

namespace Action

open Keeps

theorem guarded_closeLink (t : Nat) : Keeps Guarded (closeLink t) := by
  refine get_bind fun h => bind guarded (of_modify fun _ => ⟨rfl, .refl _⟩) fun _ => ?_
  split
  · exact guarded_release _ false
  · exact of_pure guarded ()

theorem upholds_closeLink (c : h.lines.Counted none) (t : Nat) :
    Upholds key (some t) h (h.act (closeLink t)).2 := by
  have done : (h.perform (.closeLink t)).2 = (h.act (closeLink t)).2 :=
    congrArg Prod.snd (Host.act_silently h (closeLink t))
  have breakers := (guarded_closeLink t h).breakers
  refine ⟨fun shut => breakers ▸ shut, fun u s' free keeps isOpen => ?_⟩
  have other : u ≠ t := fun same => free (congrArg some same.symm)
  rw [← h.lines_heldBy] at keeps
  cases held : (h.table t).session with
  | none =>
    have lines : (h.act (closeLink t)).2.lines = h.lines := by
      rw [closeLink, Host.act_get_bind, held]
      show (h.withSession t none).lines = h.lines
      rw [LineLogic.lines_withSession]
      exact LineLogic.withHeld_of_none ((h.lines_heldBy t).trans held)
    have upheld : Upholds key none h _ := .of_lines (guarded_closeLink t h) lines
    exact upheld.holds u s' nofun ((h.lines_heldBy u).symm.trans keeps) isOpen
  | some s =>
    have lines := (Host.perform_closeLink held).2
    rw [done] at lines
    have kept := c.upholds ((h.lines_heldBy t).trans held) other keeps
      ((congrArg Line.closed (h.lines_line s')).trans isOpen)
    simp only [← lines, Host.lines_heldBy, Host.lines_line] at kept
    exact kept

theorem upholds_removeTable (c : h.lines.Counted none) (t : Nat) :
    Upholds key (some t) h (h.act (removeTable t)).2 := by
  have closed : Upholds key (some t) h (h.act (closeLink t)).2 := upholds_closeLink c t
  have marked : Keeps (Upholds key none) (do
      reviseTable t fun table => { table with indexes := [], valid := false }
      let table := (← get).table t
      report ⟨.debug, "Removed linked table " ++ table.schema ++ "." ++ table.name⟩) :=
    bind (upholds key) (upholds_reviseTable t fun _ => rfl) fun _ => get_bind fun _ =>
      upholds_of_quiet ((firm_report _).mono fun _ _ f => f.guarded)
        (keeps_lines fun hR => (smooth_report hR _).steady)
  rw [removeTable, Host.act_bind]
  generalize h.act (closeLink t) = p at closed ⊢
  obtain ⟨_ | _, g⟩ := p
  · exact closed
  · have behind := marked g
    refine ⟨behind.shut ∘ closed.shut, fun u s free held isOpen => ?_⟩
    obtain ⟨held, isOpen⟩ := closed.holds u s free held isOpen
    exact behind.holds u s nofun held isOpen

end Action

/-! ### Tables that are connected anew -/

namespace Action

theorem stale_of_not_inTouch {t : Nat} (apart : ¬ h.InTouch t) (s : Nat)
    (held : (h.table t).session = some s) : (h.session s).closed = true :=
  (Bool.not_eq_false _).mp fun isOpen => apart ⟨s, held, isOpen⟩

theorem upholds_giveUpSession (fair : h.Fair key) {t : Nat} (apart : ¬ h.InTouch t) :
    Upholds key (some t) h (h.act (giveUpSession t)).2 := by
  obtain ⟨mends, -⟩ := mends_giveUpSession fair (stale_of_not_inTouch apart)
  have upheld : Upholds key none h _ := .of_steadfast mends.fair.toClear mends.steadfast
  exact ⟨upheld.shut, fun u s _ => upheld.holds u s nofun⟩

theorem inTouch_of_replacement? {t s : Nat} {failed : Option Nat}
    (found : replacement? h t failed = some s) : h.InTouch t := by
  have held := LinkLogic.session_of_replacement? found
  refine ⟨s, held, ?_⟩
  cases failed with
  | none => cases found
  | some old =>
    simp only [replacement?, held] at found
    obtain ⟨fresh, -⟩ := Option.ite_none_right_eq_some.mp found
    simpa using (Bool.and_eq_true_iff.mp fresh).2

/-- A table that connects anew, where it does not have to give up an open session, takes none from
others and holds one then. -/
theorem upholds_reconnect (fair : h.Fair key) {t : Nat} (has : h.Has key t) {failed : Option Nat}
    (soft : ¬ (replacement? h t failed = none ∧ h.InTouch t)) :
    Upholds key none h (h.act (reconnect t failed)).2 ∧
      (h.act (reconnect t failed)).2.InTouch t := by
  rw [reconnect, Host.act_get_bind]
  cases found : replacement? h t failed with
  | some s => exact ⟨(upholds key).refl h, inTouch_of_replacement? found⟩
  | none =>
    have stale := stale_of_not_inTouch fun linked => soft ⟨found, linked⟩
    obtain ⟨g, s, h', given, -, connects, mends, ready, isOpen⟩ := mends_anew fair has stale
    have renewed : h.act (giveUpSession t >>= fun _ => connect t) = (.ok s, h') :=
      (Host.act_bind_ok h given).trans connects
    change Upholds key none h (h.act (giveUpSession t >>= fun _ => connect t)).2 ∧
      (h.act (giveUpSession t >>= fun _ => connect t)).2.InTouch t
    rw [renewed]
    exact ⟨.of_steadfast mends.fair.toClear mends.steadfast, s,
      (readySession_eq_ok.mp ready).2, isOpen⟩

end Action

/-! ### Tables that are created -/

section Creating

variable (fair : h.Fair key) {table : LinkedTable} (none : table.session = none)
include fair none

/-- A new table without a session changes nothing. -/
theorem fair_withTable : (h.withTable table).Fair key := by
  refine ⟨⟨?_, fun t s held => ?_, fair.owns⟩, ⟨fair.address, fair.shut, fair.connectors,
    fair.connects⟩, fair.answers⟩
  · rw [LineLogic.lines_withTable h none]
    exact fair.counted.withTable
  · rw [Host.table_withTable] at held ⊢
    split at held
    · rw [none] at held
      cases held
    next other =>
      rw [if_neg other]
      exact fair.keyed t s held

theorem upholds_createTable (target : table.definition.key = key)
    (welcome : table.Welcome h.script) :
    Upholds key Option.none h (h.perform (.createTable table)).2 := by
  have here := h.table_joining table
  have has : (h.joining table).Has key h.tables.next := by
    refine ⟨h.lt_next_joining table, ?_, ?_⟩
    · rw [here]
      exact target
    · rw [here]
      exact welcome
  have named : Slight (h.withTable table) (h.joining table) :=
    ⟨.of_others (.refl _) rfl rfl rfl rfl, rfl⟩
  have fair' : (h.joining table).Fair key := (fair_withTable fair none).of_slight named
  -- The tables that were there hold what they held.
  have before : Steadfast h (h.joining table) := by
    intro t s held isOpen
    have there : t ≠ h.tables.next := by
      rintro rfl
      rw [Host.table, Roster.at?_next] at held
      cases held
    refine ⟨?_, isOpen⟩
    show ((h.withTable table).table t).session = some s
    rw [Host.table_withTable, if_neg there]
    exact held
  -- The new table connects, and all that is upheld is upheld by that.
  obtain ⟨s, connected, mends, -⟩ := mends_connect fair' has (by rw [here]; exact none)
  have made : ((h.joining table).act (connectNew h.tables.next)).2
      = ((h.joining table).act (connect h.tables.next)).2 := by
    rw [connectNew, Host.act_outcome_bind, connected]
    rfl
  rw [Host.perform_createTable]
  show Upholds key Option.none h
    { ((h.joining table).act (connectNew h.tables.next)).2 with link := h.link }
  rw [made]
  refine (upholds key).trans (.of_steadfast mends.fair.toClear
    (steadfast.trans before mends.steadfast)) (.of_lines ⟨rfl, .refl _⟩ rfl)

end Creating

/-! ### All operations -/

/-- What an operation upholds, and what it does for a table for which it executes statements. -/
theorem upholds_perform (fair : h.Fair key) {o : Operation} (proper : o.Proper key h)
    (greeted : o.Greeted h) (soft : ¬ o.Forces h) :
    Upholds key o.lost h (h.perform o).2 ∧ ∀ t, o.executes h = some t →
      (h.perform o).2.sent = h.sent ∨ (h.perform o).2.InTouch t := by
  -- Work that executes statements, and work that executes none.
  have thrives {α : Type} {t : Nat} {c : Option Nat} {x : Action α} {f : α → Reply}
      (serene : h.Serene key t c) (goes : Keeps (Thrives key t c) x) :
      Upholds key none h (h.act (do return f (← x))).2 ∧ ∀ t', some t = some t' →
        (h.act (do return f (← x))).2.sent = h.sent ∨
          (h.act (do return f (← x))).2.InTouch t' := by
    rw [Host.snd_act_map]
    obtain ⟨serene', kept, linked⟩ := goes h serene
    refine ⟨.of_steadfast serene'.toClear kept, ?_⟩
    rintro _ ⟨⟩
    exact linked
  have idle {α : Type} {x : Action α} {f : α → Reply} {lost : Option Nat}
      (kept : Upholds key lost h (h.act x).2) :
      Upholds key lost h (h.act (do return f (← x))).2 ∧ ∀ t, none = some t →
        (h.act (do return f (← x))).2.sent = h.sent ∨
          (h.act (do return f (← x))).2.InTouch t := by
    rw [Host.snd_act_map]
    exact ⟨kept, nofun⟩
  have revised {t : Nat} {f : LinkedTable → LinkedTable} {g : Unit → Reply}
      (session : ∀ table, (f table).session = table.session) :=
    have kept : Keeps (Upholds key none) (reviseTable t f) := upholds_reviseTable t session
    idle (f := g) (kept h)
  have used {t : Nat} (there : t < h.tables.next ∧ (h.table t).definition.key = key)
      (welcome : ∀ t', some t = some t' → (h.table t').Welcome h.script) :
      h.Serene key t none :=
    ⟨fair, ⟨there.1, there.2, welcome t rfl⟩, nofun⟩
  have read {c : Nat} (proper : (Operation.next c).Proper key h)
      (welcome : (Operation.next c).Greeted h) : h.Serene key (h.cursor c).table (some c) :=
    ⟨fair, ⟨proper.1.1, proper.1.2, welcome _ rfl⟩, fun c' own => by
      obtain rfl := Option.some.inj own
      exact proper.2⟩
  cases o with
  | createTable table =>
    exact ⟨upholds_createTable fair proper.1 proper.2 greeted, nofun⟩
  | addRow t client row => exact thrives (used proper greeted) (thrives_addRow client row)
  | removeRow t client row => exact thrives (used proper greeted) (thrives_removeRow client row)
  | updateRows t client cancelled pairs =>
    exact thrives (used proper greeted) (.bind (LinkedTables.thrives key t none)
      (thrives_of_mute (mute_beginCommand cancelled)) fun _ => thrives_updateRows client pairs)
  | rowCount t client => exact thrives (used proper greeted) (thrives_rowCount client)
  | execute t client sql params keep =>
    exact thrives (used proper greeted) (thrives_executeFor client sql params keep)
  | query t client sql params failure =>
    exact thrives (used proper greeted) (thrives_query client sql params failure)
  | next c => exact thrives (read proper greeted) thrives_next
  | drain c => exact thrives (read proper greeted) thrives_drain
  | reconnect t failed =>
    exact idle (upholds_reconnect fair ⟨proper.1, proper.2, greeted⟩ soft).1
  | giveUpSession t => exact idle (upholds_giveUpSession fair soft)
  | handBack t st sql => exact idle (upholds_handBack proper t sql)
  | clearUndo client => exact idle (upholds_clearUndo client h)
  | openScan t client => exact idle (Keeps.get_bind (fun _ => upholds_openCursor _) h)
  | openFind t index client first last =>
    exact idle (Keeps.get_bind (fun _ => .bind (upholds key) (.of_ofExcept (upholds key) _)
      fun _ => upholds_openCursor _) h)
  | closeCursor c => exact idle (upholds_closeCursor c h)
  | convertRow t row => exact idle (upholds_convertRow t row h)
  | setReadOnly t b => exact revised fun _ => rfl
  | setGlobalTemporary t b => exact revised fun _ => rfl
  | setFetchSize t n => exact idle (upholds_setFetchSize t n h)
  | setDefault t column default => exact revised fun _ => rfl
  | setSequence t column sequence => exact revised fun _ => rfl
  | closeLink t => exact idle (upholds_closeLink fair.counted t)
  | removeTable t => exact idle (upholds_removeTable fair.counted t)
  | fetchAll r =>
    exact idle (upholds_of_quiet ((firm_fetchAll r).mono fun _ _ f => f.guarded)
      (keeps_lines fun hR => steady_fetchAll hR r) h)
  | closeStatement st => exact idle (upholds_closeStatement st h)
  | _ => exact proper.elim

end Upholding

end LinkedTables
