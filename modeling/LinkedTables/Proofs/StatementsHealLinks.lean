import LinkedTables.Proofs.ConnectSucceeds
import LinkedTables.Proofs.Executions

/-!
# Statements that heal a link

A table may be left with a session that was closed in the hands of another. The next statement finds
that out: its first execution fails, the table lets go of the session, which does no harm to the
session that has replaced it, and takes over the one that is open for its target, or opens one.
Where nothing else fails for the target (`Host.Fair`) the second execution succeeds
(`executed_execute`), no other table loses an open session (`Steadfast`), and nothing fails
afterwards either (`Fares`).
-/

namespace LinkedTables

open LinkedTables.Action

/-! ### Fair hosts -/

namespace Lines

variable {l l' : Lines} {hand : Option Nat}

theorem Counted.of_same (c : l.Counted hand) (sessions : l'.sessions = l.sessions)
    (held : l'.held = l.held) (shares : l'.shares = l.shares) (shared : l'.shared = l.shared) :
    l'.Counted hand := by
  refine c.of_sameUsers ⟨held, shares, congrArg Roster.next sessions, fun s line found =>
    ⟨line, sessions ▸ found, rfl⟩⟩ (shared ▸ c.unique) fun key s => ?_
  rw [shared, c.mapped, IsOpen, IsOpen, sessions]

/-- What is shared under a target is one of its sessions. -/
theorem Counted.sorted (c : l.Counted hand) {key : LinkKey} {s : Nat}
    (value : l.shared.value? key = some s) : (l.line s).key = key :=
  ((c.mapped key s).mp value).key_eq

end Lines

/-- Sessions are counted right, tables hold sessions of their own targets, and what a session keeps
is its own. -/
structure Host.Sound (h : Host) : Prop where
  counted : h.lines.Counted none
  keyed : ∀ t s, (h.table t).session = some s →
    (h.session s).key = (h.table t).definition.key
  owns : ∀ s, h.Owns s

/-- Nothing fails for a target any more: it can be connected to, and every statement is answered. -/
structure Host.Fair (key : LinkKey) (h : Host) : Prop extends h.Sound, h.Clear key where
  answers : ∀ fault, .error fault ∉ h.script.answers

/-- The table `t` is one of a target, and every handshake of it succeeds. -/
structure Host.Has (key : LinkKey) (t : Nat) (h : Host) : Prop where
  known : t < h.tables.next
  target : (h.table t).definition.key = key
  welcome : (h.table t).Welcome h.script

theorem Host.Has.of_furnished {key : LinkKey} {t : Nat} {h h' : Host} (has : h.Has key t)
    (same : Furnished h h') : h'.Has key t :=
  ⟨same.known.symm ▸ has.known, (same.definition t).symm ▸ has.target,
    has.welcome.of_furnished same⟩

theorem Host.Sound.known {h : Host} (sound : h.Sound) {t s : Nat}
    (held : (h.table t).session = some s) : s < h.sessions.next := by
  rw [← h.lines_next]
  rw [← h.lines_heldBy] at held
  exact sound.counted.known s (List.mem_of_getElem? (Lines.held_of_heldBy held))

/-- The tables that hold an open session hold it still. -/
def Steadfast (h h' : Host) : Prop := ∀ t s, (h.table t).session = some s →
  (h.session s).closed = false → (h'.table t).session = some s ∧ (h'.session s).closed = false

theorem steadfast : Frame Steadfast where
  refl _ _ _ held isOpen := ⟨held, isOpen⟩
  trans a b t s held isOpen := by
    obtain ⟨held, isOpen⟩ := a t s held isOpen
    exact b t s held isOpen

/-! ### Slight changes -/

/-- Statements were worked with, and neither tables nor sessions were touched. -/
structure Slight (h h' : Host) : Prop extends Firm h h' where
  tables : h'.tables = h.tables

theorem slight : Frame Slight where
  refl h := ⟨firm.refl h, rfl⟩
  trans a b := ⟨firm.trans a.toFirm b.toFirm, b.tables.trans a.tables⟩

theorem Action.slight_of {α : Type} {x : Action α} (calm : Keeps Calm x) (firm : Keeps Firm x) :
    Keeps Slight x :=
  fun h => ⟨firm h, (calm h).tables⟩

namespace Slight

variable {h h' : Host} (same : Slight h h')
include same

theorem table (t : Nat) : h'.table t = h.table t := by rw [Host.table, same.tables]; rfl

theorem lines_sessions : h'.lines.sessions = h.lines.sessions := by
  refine List.ext_getElem? fun s => ?_
  have next := same.sessions
  by_cases known : s < h.sessions.next
  · have line := same.line s
    exact (Host.lines_at? (next ▸ known)).trans (line ▸ (Host.lines_at? known).symm)
  · have none {h : Host} (unknown : ¬ s < h.sessions.next) : h.lines.sessions[s]? = none :=
      List.getElem?_eq_none (by rw [← h.lines_next] at unknown; exact Nat.not_lt.mp unknown)
    rw [none known, none (next ▸ known)]

theorem steadfast : Steadfast h h' := by
  intro t s held isOpen
  rw [same.table, same.closed]
  exact ⟨held, isOpen⟩

end Slight

namespace Host

variable {h h' : Host}

theorem Sound.of_slight (sound : h.Sound) (same : Slight h h') : h'.Sound where
  counted := sound.counted.of_same same.lines_sessions
    (congrArg (List.map LinkedTable.session) same.tables) (congrArg Pool.shares same.pool)
    (congrArg Pool.shared same.pool)
  keyed t s held := by
    rw [same.table] at held ⊢
    rw [same.key]
    exact sound.keyed t s held
  owns s := same.owns s (sound.owns s)

theorem Fair.of_slight {key : LinkKey} (fair : h.Fair key) (same : Slight h h') : h'.Fair key where
  toSound := fair.toSound.of_slight same
  toClear := fair.toClear.guarded same.guarded
  answers fault there := fair.answers fault (same.script.answers.subset there)

end Host

/-! ### Other tables -/

/-- The other tables hold what they held, and remember what they did. -/
def Elsewhere (t : Nat) (h h' : Host) : Prop := ∀ u, u ≠ t →
  (h'.table u).session = (h.table u).session ∧ (h'.table u).failure = (h.table u).failure

theorem Elsewhere.of_tables {t : Nat} {h h' : Host} (tables : h'.tables = h.tables) :
    Elsewhere t h h' := fun u _ => by
  have table : h'.table u = h.table u := by rw [Host.table, tables]; rfl
  rw [table]
  exact ⟨rfl, rfl⟩

theorem Elsewhere.of_revise {t : Nat} {h : Host} (f : LinkedTable → LinkedTable) :
    Elsewhere t h { h with tables := h.tables.revise t f } := by
  intro u other
  rcases h.table_of_revise t u f with e | ⟨same, -⟩
  · rw [e]
    exact ⟨rfl, rfl⟩
  · exact absurd same.symm other

/-- The work on the link of a table concerns no other table. -/
theorem elsewhere (t : Nat) : LinkFrame t (Elsewhere t) where
  refl _ _ _ := ⟨rfl, rfl⟩
  trans a b u other :=
    ⟨(b u other).1.trans (a u other).1, (b u other).2.trans (a u other).2⟩
  calm c := .of_tables c.tables
  script _ := .of_tables rfl
  session _ := .of_tables rfl
  opened _ := .of_tables rfl
  link _ := .of_revise _
  adopt _ _ := .of_revise _

/-! ### Connecting where nothing fails -/

/-- The link of the table `t` was worked on with so many connects at most, which left everything
fair and did no harm to other tables. -/
structure Mends (key : LinkKey) (t n : Nat) (h h' : Host) : Prop where
  fair : h'.Fair key
  furnished : Furnished h h'
  elsewhere : Elsewhere t h h'
  steadfast : Steadfast h h'
  cursors : h'.cursors = h.cursors
  statements : h.statements.next ≤ h'.statements.next
  clients : h'.clients = h.clients
  sent : h'.sent = h.sent
  connects : h'.connects ≤ h.connects + n

theorem Mends.andThen {key : LinkKey} {t m n : Nat} {h g h' : Host} (a : Mends key t m h g)
    (b : Mends key t n g h') : Mends key t (m + n) h h' where
  fair := b.fair
  furnished := LinkedTables.furnished.trans a.furnished b.furnished
  elsewhere := (LinkedTables.elsewhere t).trans a.elsewhere b.elsewhere
  steadfast := LinkedTables.steadfast.trans a.steadfast b.steadfast
  cursors := b.cursors.trans a.cursors
  statements := Nat.le_trans a.statements b.statements
  clients := b.clients.trans a.clients
  sent := b.sent.trans a.sent
  connects := by
    have first := a.connects
    have second := b.connects
    omega

/-- How the link of a table comes from one host to another, but for what it comes to. -/
structure Relinks (key : LinkKey) (t : Nat) (h h' : Host) : Prop where
  clear : h'.Clear key
  stays : Stays h h'
  furnished : Furnished h h'
  elsewhere : Elsewhere t h h'
  aside : Aside t h h'

section Mending

variable {key : LinkKey} {h h' : Host} {t : Nat} (fair : h.Fair key)
  (stale : ∀ s, (h.table t).session = some s → (h.session s).closed = true)
include fair stale

/-- A table whose session is closed, if it has one, does no harm to others when it changes it. -/
theorem mends_of_relinks (relinks : Relinks key t h h') (counted : h'.lines.Counted none)
    (cursors : h'.cursors = h.cursors) {n : Nat} (connects : h'.connects ≤ h.connects + n)
    (own : ∀ s, (h'.table t).session = some s →
      (h'.session s).key = (h.table t).definition.key) : Mends key t n h h' := by
  have same := relinks.furnished
  refine ⟨⟨⟨counted, fun u s held => ?_, fun s => relinks.stays.owns s (fair.owns s)⟩,
    relinks.clear, fun fault there => fair.answers fault (same.script.answers.subset there)⟩,
    same, relinks.elsewhere, fun u s held isOpen => ?_, cursors, relinks.stays.statements,
    relinks.aside.clients, relinks.aside.sent, connects⟩
  · rw [same.definition]
    by_cases other : u = t
    · subst other
      exact own s held
    · rw [(relinks.elsewhere u other).1] at held
      rw [relinks.stays.key s (fair.known held)]
      exact fair.keyed u s held
  · have other : u ≠ t := by
      rintro rfl
      rw [stale s held] at isOpen
      cases isOpen
    rw [(relinks.elsewhere u other).1, relinks.stays.closed s (fair.known held)]
    exact ⟨held, isOpen⟩

/-- A table gives up a session that is closed. -/
theorem mends_giveUpSession : Mends key t 0 h (h.act (giveUpSession t)).2
    ∧ ((h.act (giveUpSession t)).2.table t).session = none := by
  have relinks : Relinks key t h (h.act (giveUpSession t)).2 :=
    ⟨fair.toClear.guarded (guarded_giveUpSession t h), stays_giveUpSession stale,
      furnished_giveUpSession t h, (elsewhere t).giveUpSession h, (asideLink t t).giveUpSession h⟩
  have lines := h.lines_giveUpSession t
  have ends := ((Lines.counted_lineLogic t).linkLogic fun cs _ => cs = h.cursors).giveUpSession
    (h := h) (g := h) ⟨⟨rfl, fair.counted⟩, rfl⟩
  have given := act_giveUpSession (.inl stale)
  rw [given] at ends
  generalize (h.act (giveUpSession t)).2 = g at relinks lines ends ⊢
  cases ends with | value ends => ?_
  obtain ⟨⟨-, counted, loose⟩, cursors⟩ := ends
  rw [g.lines_heldBy] at loose
  refine ⟨mends_of_relinks fair stale relinks counted cursors ?_ ?_, loose⟩
  · refine Nat.le_of_eq ((congrArg Lines.connects lines).trans ?_)
    split
    · rfl
    · exact Lines.connects_released ..
  · intro s held
    rw [loose] at held
    cases held

end Mending

/-- A table without a session is connected. -/
theorem mends_connect {key : LinkKey} {h : Host} {t : Nat} (fair : h.Fair key) (has : h.Has key t)
    (loose : (h.table t).session = none) :
    Reaches (connect t) h fun r h' => ∃ s, r = .ok s ∧ Mends key t 1 h h' ∧
      readySession (h'.table t) = .ok s ∧ (h'.session s).closed = false := by
  have stale (s : Nat) (held : (h.table t).session = some s) : (h.session s).closed = true := by
    rw [loose] at held
    cases held
  have gained := clear_connect fair.toClear (fun _ => fair.counted.sorted) has.target has.welcome
  have ends := ((Lines.counted_lineLogic t).linkLogic fun cs _ => cs = h.cursors).connect
    (h := h) (g := h) ⟨⟨rfl, fair.counted, (h.lines_heldBy t).trans loose⟩, rfl⟩
  have elsewhere := (elsewhere t).connect h
  have aside := (asideLink t t).connect h
  have held := reaches_connect has.known
  rw [Reaches] at gained held ⊢
  generalize h.act (connect t) = p at gained ends elsewhere aside held ⊢
  obtain ⟨_, h'⟩ := p
  obtain ⟨s, rfl, gained⟩ := gained
  cases ends with | value ends => ?_
  obtain ⟨-, ⟨⟨-, counted⟩, cursors⟩, -⟩ := ends
  cases held with | held session failure isOpen => ?_
  refine ⟨s, rfl, mends_of_relinks fair stale ⟨gained.clear, gained.stays, gained.furnished,
    elsewhere, aside⟩ counted cursors gained.connects ?_, readySession_eq_ok.mpr ⟨failure, session⟩,
    isOpen⟩
  intro s' held
  obtain rfl := Option.some.inj (session.symm.trans held)
  exact gained.target.trans has.target.symm

/-- A table whose session is closed, if it has one, gives it up and comes to one that is open. -/
theorem mends_anew {key : LinkKey} {h : Host} {t : Nat} (fair : h.Fair key) (has : h.Has key t)
    (stale : ∀ s, (h.table t).session = some s → (h.session s).closed = true) :
    ∃ g s h', h.act (giveUpSession t) = (.ok (), g) ∧ Stays h g ∧
      g.act (connect t) = (.ok s, h') ∧ Mends key t 1 h h' ∧
      readySession (h'.table t) = .ok s ∧ (h'.session s).closed = false := by
  have given := act_giveUpSession (.inl stale)
  obtain ⟨gave, loose⟩ := mends_giveUpSession fair stale
  have stays := stays_giveUpSession stale
  generalize (h.act (giveUpSession t)).2 = g at given gave loose stays
  have connected := mends_connect gave.fair (has.of_furnished gave.furnished) loose
  rw [Reaches] at connected
  generalize connects : g.act (connect t) = p at connected
  obtain ⟨_, h'⟩ := p
  obtain ⟨s, rfl, mended, ready, isOpen⟩ := connected
  exact ⟨g, s, h', given, stays, connects, Nat.zero_add 1 ▸ gave.andThen mended, ready, isOpen⟩

/-- A table reconnects behind the failure of a session that is closed. -/
theorem mends_reconnect {key : LinkKey} {h : Host} {t s : Nat} (fair : h.Fair key)
    (has : h.Has key t) (held : (h.table t).session = some s)
    (closed : (h.session s).closed = true) :
    ∃ s' h', Renewal t s h h' (.ok s') ∧ Mends key t 1 h h' ∧
      readySession (h'.table t) = .ok s' ∧ (h'.session s').closed = false := by
  have stale (s' : Nat) (held' : (h.table t).session = some s') :
      (h.session s').closed = true := by
    obtain rfl := Option.some.inj (held.symm.trans held')
    exact closed
  obtain ⟨g, s', h', given, stays, connects, mends, ready, isOpen⟩ := mends_anew fair has stale
  have still : replacement? h t (some s) = none := by simp [replacement?, held]
  refine ⟨s', h', ⟨held, ?_, g, given, (stays.closed s (fair.known held)).trans closed, connects⟩,
    mends, ready, isOpen⟩
  rw [reconnect, Host.act_get_bind, still]
  exact (Host.act_bind_ok h given).trans connects

/-! ### Executing a statement where nothing fails -/

/-- How the statement `st` comes to be executed for the table `t`, which holds the session `s`: on
that session, or on the session `z` that the table comes to when it connects anew. -/
inductive Heals (t : Nat) (sql : String) (params : List Value) (client : Option Nat) (s st : Nat)
    (h h' : Host) : (z reconnects : Nat) → Prop
  | atOnce (ran : h.act (attemptExecute t s sql params client) = (.ok (.ok st), h')) :
      Heals t sql params client s st h h' s 0
  | anew {z : Nat} {fault : Fault} {g g' : Host}
      (failed : h.act (attemptExecute t s sql params client) = (.ok (.error fault), g))
      (renewal : Renewal t s (g.reporting t fault) g' (.ok z))
      (ran : g'.act (attemptExecute t z sql params client) = (.ok (.ok st), h')) :
      Heals t sql params client s st h h' z 1

/-- Everything is fair still for a target, and all tables have their definitions. -/
structure Fares (key : LinkKey) (h h' : Host) : Prop where
  fair : h'.Fair key
  furnished : Furnished h h'
  steadfast : Steadfast h h'
  cursors : h'.cursors = h.cursors
  statements : h.statements.next ≤ h'.statements.next

theorem Fares.trans {key : LinkKey} {h g h' : Host} (a : Fares key h g) (b : Fares key g h') :
    Fares key h h' where
  fair := b.fair
  furnished := LinkedTables.furnished.trans a.furnished b.furnished
  steadfast := LinkedTables.steadfast.trans a.steadfast b.steadfast
  cursors := b.cursors.trans a.cursors
  statements := Nat.le_trans a.statements b.statements

theorem Mends.fares {key : LinkKey} {t n : Nat} {h h' : Host} (mends : Mends key t n h h') :
    Fares key h h' :=
  ⟨mends.fair, mends.furnished, mends.steadfast, mends.cursors, mends.statements⟩

theorem Host.Fair.fares {key : LinkKey} {h h' : Host} (fair : h.Fair key) (same : Slight h h') :
    Fares key h h' :=
  ⟨fair.of_slight same, .of_tables same.script same.tables, same.steadfast, same.cursors,
    same.statements⟩

theorem Sends.slight {n : Nat} {h h' : Host} (sends : Sends n h h') : Slight h h' :=
  ⟨sends.toFirm, sends.tables⟩

theorem connects_attemptExecute (t s : Nat) (sql : String) (params : List Value)
    (client : Option Nat) :
    Keeps (fun h h' => h'.connects = h.connects) (attemptExecute t s sql params client) :=
  fun h => congrArg Lines.connects
    (Steady.unmoved (fun _ _ => unmoved_attemptExecute t s sql params client) h).1

/-- A statement was executed for the table `t`, which holds the open session `z` now. -/
structure Executed (key : LinkKey) (t st z n : Nat) (h h' : Host) : Prop
    extends Fares key h h' where
  there : st < h'.statements.next
  ready : readySession (h'.table t) = .ok z
  isOpen : (h'.session z).closed = false
  sent : h'.sent.length = h.sent.length + (n + 1)
  connects : h'.connects ≤ h.connects + n

section Execution

variable {key : LinkKey} {h : Host} {t s : Nat} {params values : List Value} {client : Option Nat}
  (fair : h.Fair key) (bound : params.mapM (h.converted client) = .ok values)
include fair bound

/-- On a session that is open a statement is executed. -/
theorem executed_attempt (isOpen : (h.session s).closed = false)
    (ready : readySession (h.table t) = .ok s) (sql : String) : ∃ st h',
      h.act (attemptExecute t s sql params client) = (.ok (.ok st), h') ∧
        Executed key t st s 0 h h' := by
  have connects := connects_attemptExecute t s sql params client h
  obtain ⟨sends, -, answered⟩ := sends_attemptExecute (fair.owns s) bound t sql
  obtain ⟨st, ran, there⟩ := answered isOpen fair.answers
  refine ⟨st, _, Prod.ext ran rfl, fair.fares sends.slight, there, ?_,
    (sends.closed s).trans isOpen, sends.sent, Nat.le_of_eq connects⟩
  rw [sends.slight.table]
  exact ready

/-- A statement is executed for a table that is ready: at once, or behind one reconnect. -/
theorem executed_execute (has : h.Has key t) (ready : readySession (h.table t) = .ok s)
    (sql : String) : ∃ st z n h',
      h.act (execute t sql params client) = (.ok st, h') ∧
        Heals t sql params client s st h h' z n ∧ Executed key t st z n h h' := by
  have required := act_requireSession ready
  -- A session that is open takes the statement at once; one that was closed is replaced first.
  cases stale : (h.session s).closed with
  | false =>
    obtain ⟨st, h', ran, executed⟩ := executed_attempt fair bound stale ready sql
    refine ⟨st, s, 0, h', ?_, .atOnce ran, executed⟩
    rw [execute, Host.act_bind_ok h required, maxRetry, executeFrom, Host.act_bind_ok h ran]
    rfl
  | true =>
    obtain ⟨sends, fails, -⟩ := sends_attemptExecute (fair.owns s) bound t sql
    have connects := connects_attemptExecute t s sql params client h
    obtain ⟨fault, failed⟩ := fails stale
    generalize ran : h.act (attemptExecute t s sql params client) = p at sends failed connects
    obtain ⟨_, g⟩ := p
    obtain rfl := failed
    -- The failure is reported, and the table connects anew.
    have told : Slight g (g.reporting t fault) := slight_of (calm_report _) (firm_report _) g
    obtain ⟨-, -, connects', sent'⟩ := serving_reporting g t fault
    have clients' : (g.reporting t fault).clients = h.clients :=
      (calm_report _ g).clients.trans sends.clients
    have same : Slight h (g.reporting t fault) := slight.trans sends.slight told
    have reported : g.act (report (failedNotice (g.table t).name fault))
      = (.ok (), g.reporting t fault) := rfl
    have before := fair.fares same
    obtain ⟨z, g', renewal, mends, ready', isOpen⟩ := mends_reconnect (t := t) (s := s) before.fair
      (has.of_furnished before.furnished)
      (by rw [same.table]; exact (readySession_eq_ok.mp ready).2)
      ((same.closed s).trans stale)
    have bound' : params.mapM (g'.converted client) = .ok values := by
      rw [converted_of_clients (mends.clients.trans clients')]
      exact bound
    obtain ⟨st, h', ran', executed⟩ := executed_attempt mends.fair bound' isOpen ready' sql
    refine ⟨st, z, 1, h', ?_, .anew ran renewal ran', ⟨before.trans (mends.fares.trans
      executed.toFares), executed.there, executed.ready, executed.isOpen, ?_, ?_⟩⟩
    · rw [execute, Host.act_bind_ok h required, maxRetry, executeFrom, Host.act_bind_ok h ran]
      dsimp only
      rw [Host.act_get_bind, Host.act_bind_ok g reported, Host.act_bind_ok _ renewal.renewed,
        executeFrom, Host.act_bind_ok g' ran']
      rfl
    · rw [executed.sent, mends.sent, sent', sends.sent]
    · have first := mends.connects
      have second := executed.connects
      dsimp only at connects
      omega

end Execution

end LinkedTables
