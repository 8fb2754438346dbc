import LinkedTables.Proofs.FailureRemembered
import LinkedTables.Proofs.Isolation

/-!
# Sessions that were closed are replaced

A session that tables share may be closed in the hands of any of them, and together with the pool.
Whatever has led there, from the time on that nothing fails for a target any more
(`Estate.Favours`) the next statement of each of its tables that holds a session is executed, at
once or behind one reconnect, and all tables that have sent a statement since, and have not been
left disconnected on purpose, hold the same open session (`Estate.recovery_of_estates`). A table
holds a session unless it remembers a failure or was left disconnected on purpose.
-/

namespace LinkedTables

open LinkedTables.Action

/-- Every connector can be made, every connect succeeds, and every statement is answered. -/
structure Remote.Script.Obliging (script : Remote.Script) : Prop where
  connectors : ∀ fault, some fault ∉ script.connectors
  connects : ∀ fault, some fault ∉ script.connects
  answers : ∀ fault, .error fault ∉ script.answers

/-- An operation that disconnects nothing stands for none that does. -/
theorem Operation.lost_of_named {key : LinkKey} {made : Book → List Nat} {o o' : Operation}
    (named : o.named key made = some o') (none : o.lost = none) : o'.lost = Option.none := by
  cases o with
  | giveUpSession | closeLink | removeTable => cases none
  | clearUndo => cases named; rfl
  | createTable =>
    obtain ⟨-, named⟩ := Option.ite_none_right_eq_some.mp named
    cases named
    rfl
  | handBack t st sql =>
    obtain ⟨_, -, named⟩ := Option.bind_eq_some_iff.mp named
    obtain ⟨_, -, rfl⟩ := Option.map_eq_some_iff.mp named
    rfl
  | reconnect t failed =>
    cases failed with
    | none =>
      obtain ⟨_, -, rfl⟩ := Option.map_eq_some_iff.mp named
      rfl
    | some s =>
      obtain ⟨_, -, named⟩ := Option.bind_eq_some_iff.mp named
      obtain ⟨_, -, rfl⟩ := Option.map_eq_some_iff.mp named
      rfl
  | join | connect | registerTable | dropTable | acquire | release | closePool | prepare
  | executeStatement | putStatement | takeStatement | clearStatements | discard => cases named
  | _ =>
    obtain ⟨_, -, rfl⟩ := Option.map_eq_some_iff.mp named
    rfl

namespace Estate

variable {e : Estate} {key : LinkKey}

/-! ### Estates in order -/

/-- Every target goes its own way, everything was made for some target, and sessions are counted
right. -/
structure InOrder (e : Estate) : Prop extends e.Tended where
  whole : ∀ k n, n < e.host.size k → ∃ key, n ∈ e.made key k
  counted : e.host.lines.Counted none

/-- A deed is work for a target that stands for an operation on a host. -/
inductive Does (key : LinkKey) (e : Estate) : Deed → Host → Operation → Prop
  | intro (script : Remote.Script) {o o' : Operation} (named : o.named key (e.made key) = some o') :
      Does key e (.work key script o) (e.host.fed script) o'

/-- What belongs to a target is as it was. -/
structure Unmoved (key : LinkKey) (e e' : Estate) : Prop where
  made : e'.made key = e.made key
  table : ∀ t ∈ e.made key .tables, e'.host.table t = e.host.table t
  session : ∀ s ∈ e.made key .sessions, e'.host.session s = e.host.session s
  breaker : e'.host.pool.breakers.value? key = e.host.pool.breakers.value? key

section Named

variable (te : e.Tended)
include te

/-- A cursor that was made for a target reads from one of its tables, over a statement that is
there. -/
theorem Tended.cursor {c : Nat} (mine : c ∈ e.made key .cursors) :
    (e.host.cursor c).table ∈ e.made key .tables ∧
      ∀ st r, (e.host.cursor c).phase = .reading st r → st < e.host.statements.next := by
  have twin := (te.abreast key).twin
  obtain ⟨i, found⟩ := List.mem_iff_getElem?.mp mine
  obtain ⟨x, _, here, -, table, phase, -, ⟨j, found, -⟩, come⟩ :=
    twin.member .cursors c c ⟨i, found, found⟩
  have cursor : e.host.cursor c = x := Host.member_of_at? here
  rw [cursor]
  refine ⟨List.mem_of_getElem? found, fun st r reading => ?_⟩
  rw [reading] at come
  cases come with
  | reading statement => exact (twin.lt_of_pair statement).1

/-- An operation that stands for another names only what is there. -/
theorem Tended.proper {o o' : Operation} (named : o.named key (e.made key) = some o')
    (script : Remote.Script) : o'.Proper key (e.host.fed script) := by
  -- What is in a book of the target is there, and belongs to the target.
  have table {t a : Nat} (found : (e.made key .tables)[t]? = some a) :
      a < e.host.tables.next ∧ (e.host.table a).definition.key = key :=
    have ⟨known, target, _⟩ := te.table (List.mem_of_getElem? found)
    ⟨known, target⟩
  have cursor {c a : Nat} (found : (e.made key .cursors)[c]? = some a) :
      (Operation.next a).Proper key (e.host.fed script) := by
    obtain ⟨mine, there⟩ := te.cursor (List.mem_of_getElem? found)
    obtain ⟨known, target, -⟩ := te.table mine
    exact ⟨⟨known, target⟩, rfl, there⟩
  cases o with
  | clearUndo => cases named; exact trivial
  | createTable =>
    obtain ⟨own, named⟩ := Option.ite_none_right_eq_some.mp named
    cases named
    exact ⟨own.2, own.1⟩
  | addRow | removeRow | updateRows | rowCount | execute | query =>
    obtain ⟨a, found, rfl⟩ := Option.map_eq_some_iff.mp named
    exact table found
  | next | drain =>
    obtain ⟨a, found, rfl⟩ := Option.map_eq_some_iff.mp named
    exact cursor found
  | handBack t st sql =>
    obtain ⟨_, -, named⟩ := Option.bind_eq_some_iff.mp named
    obtain ⟨st', found, rfl⟩ := Option.map_eq_some_iff.mp named
    exact (te.abreast key).lt_of_mem (k := .statements) (List.mem_of_getElem? found)
  | reconnect t failed =>
    cases failed with
    | none =>
      obtain ⟨a, found, rfl⟩ := Option.map_eq_some_iff.mp named
      exact table found
    | some s =>
      obtain ⟨a, found, named⟩ := Option.bind_eq_some_iff.mp named
      obtain ⟨s', -, rfl⟩ := Option.map_eq_some_iff.mp named
      exact table found
  | openScan | openFind | closeCursor | convertRow | setReadOnly | setGlobalTemporary
  | setFetchSize | setDefault | setSequence | giveUpSession | closeLink | removeTable | fetchAll
  | closeStatement =>
    obtain ⟨a, -, rfl⟩ := Option.map_eq_some_iff.mp named
    exact trivial
  | _ => cases named

end Named

/-! ### Deeds -/

section Deeds

variable {deed : Deed} {h : Host} {o : Operation}

theorem Does.done (does : e.Does key deed h o) :
    ∃ fault, e.done deed = e.left key fault (h.perform o).2 := by
  obtain ⟨script, named⟩ := does
  refine ⟨faultOf ((e.host.fed script).perform o).1, ?_⟩
  rw [Estate.done, Estate.worked, named]

/-- What a target has grows at the end. -/
theorem Does.mem (does : e.Does key deed h o) {k : Book} {n : Nat} (mine : n ∈ e.made key k) :
    n ∈ (e.done deed).made key k := by
  obtain ⟨fault, done⟩ := does.done
  rw [done, made_left_self]
  exact List.mem_append_left _ mine

variable (te : e.Tended)
include te

theorem Unmoved.of_spared {key' : LinkKey} (ne : key ≠ key') {e' : Estate}
    (spared : Spared key' (fun k n => n ∈ e.made key' k) e.host e'.host)
    (made : e'.made key = e.made key) : Unmoved key e e' where
  made := made
  table t mine :=
    congrArg (·.getD default)
      (spared.member .tables t ((te.abreast key).lt_of_mem mine) (te.foreign ne _ _ mine))
  session s mine :=
    congrArg (·.getD default)
      (spared.member .sessions s ((te.abreast key).lt_of_mem mine) (te.foreign ne _ _ mine))
  breaker := spared.pool.breaker key ne

/-- A deed is work for a target, closes the pool, or leaves what belongs to the target alone. -/
theorem Tended.deed_cases (key : LinkKey) (deed : Deed) :
    (∃ h o, e.Does key deed h o) ∨ deed = .closePool ∨ Unmoved key e (e.done deed) := by
  have same : Unmoved key e e := ⟨rfl, fun _ _ => rfl, fun _ _ => rfl, rfl⟩
  cases deed with
  | work key' script o =>
    by_cases own : key' = key
    · subst own
      cases named : o.named key' (e.made key') with
      | some o' => exact .inl ⟨_, o', .intro script named⟩
      | none =>
        refine .inr (.inr ?_)
        rw [Estate.done, Estate.worked, named]
        exact same
    · refine .inr (.inr ?_)
      have ne : key ≠ key' := fun same => own same.symm
      rcases worked_cases (te.abreast key') script o with idle | ⟨fault, h', left, r⟩
      · rw [Estate.done, idle]
        exact same
      · rw [Estate.done, left]
        exact .of_spared te ne (spared_of_inStep r) (made_left_of_ne e fault h' ne)
  | join convert => exact .inr (.inr ⟨rfl, fun _ _ => rfl, fun _ _ => rfl, rfl⟩)
  | closePool => exact .inr (.inl rfl)

end Deeds

namespace InOrder

theorem start {pool : Pool} (level : Level) (shares : pool.shares = true)
    (unshared : pool.shared = []) : (Estate.start pool level).InOrder where
  toTended := tended_start level unshared
  whole k n known := by
    cases k <;> cases known
  counted := Host.counted_start .quiet level shares unshared

/-- What is new was made for the target that is worked for. -/
theorem whole_left (io : e.InOrder) (fault : Option Fault) (h : Host) (k : Book) (n : Nat)
    (known : n < h.size k) : ∃ key', n ∈ (e.left key fault h).made key' k := by
  by_cases old : n < e.host.size k
  · obtain ⟨key', mine⟩ := io.whole k n old
    refine ⟨key', ?_⟩
    by_cases own : key' = key
    · subst own
      rw [made_left_self]
      exact List.mem_append_left _ mine
    · rw [made_left_of_ne e fault h own]
      exact mine
  · refine ⟨key, ?_⟩
    rw [made_left_self]
    exact List.mem_append_right _ (List.mem_range'_1.mpr (by omega))

theorem done (io : e.InOrder) (deed : Deed) : (e.done deed).InOrder := by
  refine ⟨io.toTended.done deed, ?_, ?_⟩
  · cases deed with
    | work key script o =>
      rcases worked_cases (io.abreast key) script o with same | ⟨fault, h', left, -⟩
      · rw [Estate.done, same]
        exact io.whole
      · rw [Estate.done, left]
        exact io.whole_left fault h'
    | join convert =>
      intro k n known
      rw [Estate.done, Host.size, roster_join] at known
      exact io.whole k n known
    | closePool =>
      intro k n known
      rw [Host.size, (unnoticed_closePool e).roster] at known
      have size := (beside_allDropped e.cleared e.host.pool.shared).size k
      exact io.whole k n (Nat.lt_of_lt_of_eq known (size.trans (e.host.size_fed .quiet k)))
  · cases deed with
    | work key script o =>
      cases named : o.named key (e.made key) with
      | none =>
        rw [Estate.done, Estate.worked, named]
        exact io.counted
      | some o' =>
        rw [Estate.done, Estate.worked, named]
        exact Host.counted_perform (io.proper named script).usesTables io.counted
    | join convert => exact Host.counted_perform trivial io.counted
    | closePool => exact Host.counted_perform trivial io.counted

theorem after (io : e.InOrder) (deeds : List Deed) : (e.after deeds).InOrder := by
  induction deeds generalizing e with
  | nil => exact io
  | cons deed deeds ih => exact ih (io.done deed)

variable (io : e.InOrder)
include io

/-- A table that links to a target was made for it. -/
theorem mem_of_target {t : Nat} (known : t < e.host.tables.next)
    (target : (e.host.table t).definition.key = key) : t ∈ e.made key .tables := by
  obtain ⟨key', mine⟩ := io.whole .tables t known
  have target' := (io.table mine).2.1
  rwa [← target, target']

theorem sound (script : Remote.Script) : (e.host.fed script).Sound where
  counted := io.counted
  keyed t s held := by
    have known : t < e.host.tables.next := by
      by_contra unknown
      have none : e.host.tables.at? t = none := List.getElem?_eq_none (Nat.not_lt.mp unknown)
      change (((e.host.tables.at? t).getD default).session) = some s at held
      rw [none] at held
      cases held
    obtain ⟨key, mine⟩ := io.whole .tables t known
    obtain ⟨-, target, held'⟩ := io.table mine
    exact (io.session (held' s held)).2.1.trans target.symm
  owns s := by
    by_cases known : s < e.host.sessions.next
    · obtain ⟨key, mine⟩ := io.whole .sessions s known
      exact (io.session mine).2.2.2
    · intro sql st found
      have none : e.host.sessions.at? s = none := List.getElem?_eq_none (Nat.not_lt.mp known)
      change ((e.host.sessions.at? s).getD default).cache.value? sql = some st at found
      rw [none] at found
      cases found

end InOrder

/-! ### Time in which nothing fails -/

/-- A table is told to connect anew by one of the deeds. -/
def Rejoins (key : LinkKey) (t : Nat) (e : Estate) : List Deed → Prop
  | [] => False
  | deed :: deeds =>
    (∃ h failed, e.Does key deed h (.reconnect t failed)) ∨ Rejoins key t (e.done deed) deeds

/-- A table is disconnected by one of the deeds, and not told to connect anew behind it. -/
def Parts (key : LinkKey) (t : Nat) (e : Estate) : List Deed → Prop
  | [] => False
  | deed :: deeds =>
    (∃ h o, e.Does key deed h o ∧ o.lost = some t) ∧ ¬ Rejoins key t (e.done deed) deeds ∨
      Parts key t (e.done deed) deeds

/-- A statement is sent for a table by one of the deeds, and the table does not part behind it. -/
def Serves (key : LinkKey) (t : Nat) (e : Estate) : List Deed → Prop
  | [] => False
  | deed :: deeds =>
    (∃ h o, e.Does key deed h o ∧ o.executes h = some t ∧ (h.perform o).2.sent ≠ h.sent) ∧
        ¬ Parts key t (e.done deed) deeds ∨
      Serves key t (e.done deed) deeds

/-- Nothing fails for a target: whatever is done for its tables, all connects, handshakes and
statements that it needs succeed. Nobody closes the pool, or gives up an open session of the target
by force. -/
def Favours (key : LinkKey) (e : Estate) : List Deed → Prop
  | [] => True
  | deed :: deeds =>
    (deed ≠ .closePool ∧ ∀ h o, e.Does key deed h o →
      h.script.Obliging ∧ o.Greeted h ∧ ¬ o.Forces h) ∧ Favours key (e.done deed) deeds

/-- No table parts by deeds that do not say so. -/
theorem not_parts {t : Nat} {deeds : List Deed}
    (none : ∀ script o, .work key script o ∈ deeds → o.lost = none) : ¬ e.Parts key t deeds := by
  induction deeds generalizing e with
  | nil => exact id
  | cons deed deeds ih =>
    rintro (⟨⟨h, o, ⟨script, named⟩, lost⟩, -⟩ | later)
    · rw [Operation.lost_of_named named (none _ _ (.head _))] at lost
      cases lost
    · exact ih (fun script o there => none script o (.tail _ there)) later

/-- A table that does not part has what it had before, or what it is given when it connects anew:
`P`, as long as `I` holds of the deeds that are left. -/
theorem kept_of_not_parts {t : Nat} {P : Estate → Prop} {I : Estate → List Deed → Prop}
    (step : ∀ {e deed deeds}, I e (deed :: deeds) → I (e.done deed) deeds)
    (keep : ∀ {e deed deeds}, I e (deed :: deeds) →
      ¬ (∃ h o, e.Does key deed h o ∧ o.lost = some t) → P e → P (e.done deed))
    (give : ∀ {e deed deeds h failed}, I e (deed :: deeds) →
      e.Does key deed h (.reconnect t failed) → P (e.done deed)) {deeds : List Deed}
    (fit : I e deeds) (kept : ¬ e.Parts key t deeds) (had : P e ∨ e.Rejoins key t deeds) :
    P (e.after deeds) := by
  induction deeds generalizing e with
  | nil => exact had.resolve_right id
  | cons deed deeds ih =>
    obtain ⟨now, later⟩ := not_or.mp kept
    refine ih (step fit) later ?_
    by_cases lost : ∃ h o, e.Does key deed h o ∧ o.lost = some t
    · exact .inr (not_and_not_right.mp now lost)
    · rcases had with has | ⟨h, failed, does⟩ | rejoins
      · exact .inl (keep fit lost has)
      · exact .inl (give fit does)
      · exact .inr rejoins

/-- The breaker of a target is shut, if there is one. -/
def Shut (key : LinkKey) (e : Estate) : Prop :=
  ∀ breaker, e.host.pool.breakers.value? key = some breaker → breaker.state = .shut

/-- A table of a target holds a session, which is open. -/
structure Holds (key : LinkKey) (t s : Nat) (e : Estate) : Prop where
  mine : t ∈ e.made key .tables
  held : (e.host.table t).session = some s
  isOpen : (e.host.session s).closed = false

section Favoured

variable (io : e.InOrder)
include io

/-- All tables of a target that hold an open session hold the same. -/
theorem InOrder.same_of_holds {t s t' s' : Nat} (a : e.Holds key t s) (b : e.Holds key t' s') :
    s = s' := by
  have shared {t s : Nat} (holds : e.Holds key t s) :
      e.host.lines.shared.value? key = some s := by
    obtain ⟨-, -, held⟩ := io.table holds.mine
    obtain ⟨known, target, -⟩ := io.session (held s holds.held)
    exact (io.counted.mapped key s).mpr ⟨_, Host.lines_at? known, target, holds.isOpen⟩
  exact Option.some.inj ((shared a).symm.trans (shared b))

variable (address : ∃ url, Remote.Url.read key.url = .ok url) (shut : e.Shut key)
include address shut

theorem InOrder.fair {script : Remote.Script} (obliging : script.Obliging) :
    (e.host.fed script).Fair key :=
  ⟨io.sound script, ⟨address, shut, obliging.connectors, obliging.connects⟩, obliging.answers⟩

/-- What work for a target does to its tables where nothing fails. -/
theorem InOrder.upholds {deed : Deed} {h : Host} {o : Operation} (does : e.Does key deed h o)
    (obliging : h.script.Obliging) (greeted : o.Greeted h) (soft : ¬ o.Forces h) :
    (e.done deed).Shut key ∧
      (∀ t s, o.lost ≠ some t → e.Holds key t s → (e.done deed).Holds key t s) ∧
      ∀ t, o.executes h = some t → (h.perform o).2.sent ≠ h.sent →
        ∃ s, (e.done deed).Holds key t s := by
  obtain ⟨fault, done⟩ := does.done
  have mem {t : Nat} (mine : t ∈ e.made key .tables) := does.mem mine
  obtain ⟨script, named⟩ := does
  have proper := io.proper named script
  obtain ⟨upheld, linked⟩ :=
    upholds_perform (io.fair address shut obliging) proper greeted soft
  rw [done] at mem ⊢
  refine ⟨upheld.shut shut, fun t s kept holds => ?_, fun t executes sent => ?_⟩
  · obtain ⟨held, isOpen⟩ := upheld.holds t s kept holds.held holds.isOpen
    exact ⟨mem holds.mine, held, isOpen⟩
  · obtain ⟨s, held, isOpen⟩ := (linked t executes).resolve_left sent
    have mine := proper.target_of_executes executes
    exact ⟨s, mem (io.mem_of_target mine.1 mine.2), held, isOpen⟩

/-- What belongs to a target survives every deed in which nothing fails for it. -/
theorem InOrder.holds_done {deed : Deed} {deeds : List Deed}
    (favours : e.Favours key (deed :: deeds)) : (e.done deed).Shut key ∧
      ∀ t s, ¬ (∃ h o, e.Does key deed h o ∧ o.lost = some t) → e.Holds key t s →
        (e.done deed).Holds key t s := by
  obtain ⟨⟨apart, succeeds⟩, -⟩ := favours
  rcases io.deed_cases key deed with ⟨h, o, does⟩ | closes | unmoved
  · obtain ⟨obliging, greeted, soft⟩ := succeeds h o does
    obtain ⟨shut', holds, -⟩ := io.upholds address shut does obliging greeted soft
    exact ⟨shut', fun t s kept => holds t s fun lost => kept ⟨h, o, does, lost⟩⟩
  · exact absurd closes apart
  · refine ⟨fun breaker found => shut breaker (unmoved.breaker ▸ found), fun t s _ holds => ?_⟩
    have mine := (io.table holds.mine).2.2 s holds.held
    exact ⟨unmoved.made ▸ holds.mine, unmoved.table t holds.mine ▸ holds.held,
      unmoved.session s mine ▸ holds.isOpen⟩

/-- A table that connects anew holds an open session. -/
theorem InOrder.holds_of_does {deed : Deed} {deeds : List Deed}
    (favours : e.Favours key (deed :: deeds)) {h : Host} {t : Nat} {failed : Option Nat}
    (does : e.Does key deed h (.reconnect t failed)) : ∃ s, (e.done deed).Holds key t s := by
  obtain ⟨obliging, greeted, soft⟩ := favours.1.2 _ _ does
  obtain ⟨fault, done⟩ := does.done
  have mem {u : Nat} (mine : u ∈ e.made key .tables) := does.mem mine
  obtain ⟨script, named⟩ := does
  obtain ⟨known, target⟩ := io.proper named script
  have fair : (e.host.fed script).Fair key := io.fair address shut obliging
  obtain ⟨-, s, held, isOpen⟩ := upholds_reconnect fair ⟨known, target, greeted⟩ soft
  have performed := Host.snd_act_map (e.host.fed script) (reconnect t failed) Reply.session
  rw [← performed] at held isOpen
  rw [done] at mem ⊢
  exact ⟨s, mem (io.mem_of_target known target), held, isOpen⟩

omit shut in
/-- As long as nothing fails for a target, its breaker stays shut. -/
theorem InOrder.shut_after (shut : e.Shut key) {deeds : List Deed}
    (favours : e.Favours key deeds) : (e.after deeds).Shut key := by
  induction deeds generalizing e with
  | nil => exact shut
  | cons deed deeds ih =>
    exact ih (io.done deed) (io.holds_done address shut favours).1 favours.2

/-- As long as nothing fails for a target, its tables hold open sessions, if they do not part. -/
theorem InOrder.holds_after {t : Nat} {deeds : List Deed} (favours : e.Favours key deeds)
    (kept : ¬ e.Parts key t deeds) (holds : ∃ s, e.Holds key t s) :
    ∃ s, (e.after deeds).Holds key t s := by
  refine kept_of_not_parts (P := fun e => ∃ s, e.Holds key t s)
    (I := fun e deeds => e.InOrder ∧ e.Shut key ∧ e.Favours key deeds) ?_ ?_ ?_
    ⟨io, shut, favours⟩ kept (.inl holds)
  · rintro e deed deeds ⟨io, shut, favours⟩
    exact ⟨io.done deed, (io.holds_done address shut favours).1, favours.2⟩
  · rintro e deed deeds ⟨io, shut, favours⟩ kept ⟨s, holds⟩
    exact ⟨s, (io.holds_done address shut favours).2 t s kept holds⟩
  · rintro e deed deeds h failed ⟨io, shut, favours⟩ does
    exact io.holds_of_does address shut favours does

/-- A table that is served holds an open session. -/
theorem InOrder.holds_of_serves {deeds : List Deed} (favours : e.Favours key deeds) {t : Nat}
    (serves : e.Serves key t deeds) : ∃ s, (e.after deeds).Holds key t s := by
  induction deeds generalizing e with
  | nil => exact serves.elim
  | cons deed deeds ih =>
    obtain ⟨shut', -⟩ := io.holds_done address shut favours
    rcases serves with ⟨⟨h, o, does, executes, sent⟩, kept⟩ | serves
    · obtain ⟨obliging, greeted, soft⟩ := favours.1.2 h o does
      obtain ⟨-, -, served⟩ := io.upholds address shut does obliging greeted soft
      exact (io.done deed).holds_after address shut' favours.2 kept (served t executes sent)
    · exact ih (io.done deed) shut' favours.2 serves

end Favoured

/-! ### Tables that are not disconnected -/

section Minding

variable {t : Nat} (address : ∃ url, Remote.Url.read key.url = .ok url)

/-- A table of a target, if it was made, holds a session or remembers why not. -/
def Knows (key : LinkKey) (t : Nat) (e : Estate) : Prop :=
  t ∈ e.made key .tables → (e.host.table t).session = none → (e.host.table t).failure ≠ none

/-- Where every fault of connecting to a target is foreseen. -/
def Foresees (key : LinkKey) (deeds : List Deed) : Prop :=
  ∀ script o, .work key script o ∈ deeds → ∀ fault, ¬ script.Unforeseen key fault

include address

/-- Closing the pool does not touch what tables hold. -/
theorem knows_closePool (te : e.Tended) (knows : e.Knows key t) :
    (e.done .closePool).Knows key t := by
  intro mine
  obtain ⟨known, target, -⟩ := te.table mine
  obtain ⟨url, read⟩ := address
  have m : (e.host.fed .quiet).Minded key t := by
    refine ⟨fun fault raised => ?_, fun _ => target, fun _ => knows mine⟩
    rcases raised with there | ⟨-, there | there | unread⟩
    · cases there
    · cases there
    · cases there
    · cases read.symm.trans unread
  obtain ⟨known', -⟩ := (te.done .closePool).table mine
  exact ((mindsUpkeep key t).perform (o := .closePool) id _ m).minded known'

theorem knows_done (te : e.Tended) {deed : Deed}
    (foreseen : ∀ script o, deed = .work key script o → ∀ fault, ¬ script.Unforeseen key fault)
    (kept : ¬ ∃ h o, e.Does key deed h o ∧ o.lost = some t) (knows : e.Knows key t) :
    (e.done deed).Knows key t := by
  rcases te.deed_cases key deed with ⟨h, o, does⟩ | closes | unmoved
  · intro mine
    obtain ⟨known, -⟩ := (te.done deed).table mine
    obtain ⟨fault, done⟩ := does.done
    have lost : o.lost ≠ some t := fun lost => kept ⟨h, o, does, lost⟩
    obtain ⟨script, named⟩ := does
    -- A table that is not there yet is one that the deed makes.
    have old (there : t < e.host.tables.next) : t ∈ e.made key .tables := by
      rw [done, made_left_self, List.mem_append, List.mem_range'_1] at mine
      refine mine.resolve_right fun new => ?_
      have least : e.host.tables.next ≤ t := new.1
      omega
    have m : (e.host.fed script).Minded key t :=
      ⟨foreseen script _ rfl, fun there => (te.table (old there)).2.1,
        fun there => knows (old there)⟩
    rw [done] at known ⊢
    exact (minds_perform (te.proper named script) lost m).minded known
  · exact closes ▸ knows_closePool address te knows
  · intro mine
    rw [unmoved.made] at mine
    rw [unmoved.table t mine]
    exact knows mine

omit address in
/-- A table that connects anew knows why it has no session, if it has none. -/
theorem knows_of_does (te : e.Tended) {deed : Deed} {h : Host} {failed : Option Nat}
    (foreseen : ∀ script o, deed = .work key script o → ∀ fault, ¬ script.Unforeseen key fault)
    (does : e.Does key deed h (.reconnect t failed)) : (e.done deed).Knows key t := by
  intro mine
  obtain ⟨known, -⟩ := (te.done deed).table mine
  obtain ⟨fault, done⟩ := does.done
  obtain ⟨script, named⟩ := does
  have minded := minded_reconnect (fun _ => (te.proper named script).2) (foreseen script _ rfl)
    failed
  have performed := Host.snd_act_map (e.host.fed script) (reconnect t failed) Reply.session
  rw [Reaches, ← performed] at minded
  rw [done] at known ⊢
  exact minded.minded known

theorem knows_after (te : e.Tended) {deeds : List Deed} (foreseen : Foresees key deeds)
    (kept : ¬ e.Parts key t deeds) (knows : e.Knows key t) : (e.after deeds).Knows key t := by
  refine kept_of_not_parts (P := Knows key t) (I := fun e deeds => e.Tended ∧ Foresees key deeds)
    ?_ ?_ ?_ ⟨te, foreseen⟩ kept (.inl knows)
  · rintro e deed deeds ⟨te, foreseen⟩
    exact ⟨te.done deed, fun script o there => foreseen script o (.tail _ there)⟩
  · rintro e deed deeds ⟨te, foreseen⟩ kept knows
    exact knows_done address te (fun script o e => foreseen script o (e ▸ .head _)) kept knows
  · rintro e deed deeds h failed ⟨te, foreseen⟩ does
    exact knows_of_does te (fun script o e => foreseen script o (e ▸ .head _)) does

end Minding

/-! ### Recovery -/

/-- Behind any deeds on a pool that shares its sessions, among them such as close sessions in the
hands of others: from the time on that the breaker of a target is shut and nothing fails for the
target any more, a table of the target that was not left disconnected on purpose and remembers no
failure holds a session, if every fault of connecting to the target was foreseen; the next statement
of a table that holds a session, if its values can be bound, is executed, at once on that session or
behind one reconnect on another, and leaves the table with an open session; and all tables that have
been served since, and not left disconnected behind that, hold the same open session. -/
theorem recovery_of_estates (pool : Pool) (level : Level) (shares : pool.shares = true)
    (unshared : pool.shared = []) (deeds later : List Deed) (key : LinkKey)
    (address : ∃ url, Remote.Url.read key.url = .ok url) :
    let e := (start pool level).after deeds
    let e' := e.after later
    e.Shut key → e.Favours key later →
    (Foresees key (deeds ++ later) → ∀ t ∈ e'.made key .tables,
      ¬ (start pool level).Parts key t (deeds ++ later) →
      (e'.host.table t).failure = none → ∃ s, readySession (e'.host.table t) = .ok s) ∧
    (∀ t ∈ e'.made key .tables, ∀ s, readySession (e'.host.table t) = .ok s →
      ∀ script : Remote.Script, script.Obliging → (e'.host.table t).Welcome script →
      ∀ sql params client values, params.mapM (e'.host.converted client) = .ok values →
      let h := e'.host.fed script
      ∃ st z n h', n ≤ 1 ∧ h.act (execute t sql params client) = (.ok st, h') ∧
        Heals t sql params client s st h h' z n ∧ Executed key t st z n h h') ∧
    ∃ s, ∀ t, e.Serves key t later →
      (e'.host.table t).session = some s ∧ (e'.host.session s).closed = false := by
  intro e e' shut favours
  have io : e.InOrder := (InOrder.start level shares unshared).after deeds
  have io' : e'.InOrder := io.after later
  have shut' : e'.Shut key := io.shut_after address shut favours
  refine ⟨fun foreseen t mine kept blank => ?_, ?_, ?_⟩
  · have behind : (start pool level).after (deeds ++ later) = e' := List.foldl_append
    have knows := knows_after address (tended_start level unshared) foreseen kept nofun
    rw [behind] at knows
    cases held : (e'.host.table t).session with
    | none => exact absurd blank (knows mine held)
    | some s => exact ⟨s, readySession_eq_ok.mpr ⟨blank, held⟩⟩
  · intro t mine s ready script obliging welcome sql params client values bound h
    obtain ⟨known, target, -⟩ := io'.table mine
    obtain ⟨st, z, n, h', ran, heals, executed⟩ := executed_execute
      (io'.fair address shut' obliging) bound ⟨known, target, welcome⟩ ready sql
    exact ⟨st, z, n, h', by cases heals <;> decide, ran, heals, executed⟩
  · by_cases some : ∃ t, e.Serves key t later
    · obtain ⟨t, serves⟩ := some
      obtain ⟨s, holds⟩ := io.holds_of_serves address shut favours serves
      refine ⟨s, fun t' serves' => ?_⟩
      obtain ⟨s', holds'⟩ := io.holds_of_serves address shut favours serves'
      obtain rfl := io'.same_of_holds holds holds'
      exact ⟨holds'.held, holds'.isOpen⟩
    · exact ⟨0, fun t serves => absurd ⟨t, serves⟩ some⟩

/-! ### Two tables that share a session -/

/-- A link to a query, which can always be read. -/
def asking (name : String) : LinkedTable :=
  .unconnected "PUBLIC" 1 name { Definition.bare with remoteTable := "(SELECT 1)" } 100 [.bare]

/-- The target of such links. -/
def asked : LinkKey := (asking "").definition.key

/-- A statement is executed for a table of that target. -/
def executing (t : Nat) (answers : List (Except Fault Remote.Answer)) : Deed :=
  .work asked { Remote.Script.quiet with answers } (.execute t none "DELETE FROM T" [] false)

/-- Two tables are created. -/
def creating : List Deed :=
  [.work asked .quiet (.createTable (asking "FIRST")),
    .work asked .quiet (.createTable (asking "SECOND"))]

/-- Two tables are created, and the first execution of a statement for one of them fails. -/
def losing : List Deed :=
  creating ++ [executing 0 [.error (.remote ⟨.operational, "connection lost", none⟩)]]

/-- Two tables share a session. -/
def sharing : Estate := (start (.bare true) .error).after creating

/-- One of two tables has closed the session that they shared, with which the other is stranded. -/
def stranded : Estate := (start (.bare true) .error).after losing

theorem address_asked : ∃ url, Remote.Url.read asked.url = .ok url := by
  have readable : (Remote.Url.read asked.url).toOption.isSome := by decide +kernel
  cases read : Remote.Url.read asked.url with
  | ok url => exact ⟨url, rfl⟩
  | error =>
    rw [read] at readable
    cases readable

theorem shut_of_mem
    (shut : ∀ breaker ∈ e.host.pool.breakers.value? key, breaker.state = .shut) : e.Shut key :=
  shut

theorem obliging_quiet : Remote.Script.quiet.Obliging :=
  ⟨fun _ there => (List.not_mem_nil there).elim, fun _ there => (List.not_mem_nil there).elim,
    fun _ there => (List.not_mem_nil there).elim⟩

theorem welcome_of_asking {table : LinkedTable} (query : table.definition.isQuery = true)
    (some : table.catalogs.isEmpty = false) : table.Welcome .quiet where
  some := List.isEmpty_eq_false_iff.mp some
  readable catalog _ := catalog.readable_of_query query rfl

section Executing

variable {t t' : Nat} (found : (e.made asked .tables)[t]? = some t')
include found

theorem does_executing {answers : List (Except Fault Remote.Answer)} {h : Host} {o : Operation} :
    e.Does asked (executing t answers) h o ↔
      h = e.host.fed { Remote.Script.quiet with answers } ∧
        o = .execute t' none "DELETE FROM T" [] false := by
  constructor
  · intro does
    cases does with
    | intro script named =>
      obtain ⟨a, found', rfl⟩ := Option.map_eq_some_iff.mp named
      obtain rfl : t' = a := Option.some.inj (found.symm.trans found')
      exact ⟨rfl, rfl⟩
  · rintro ⟨rfl, rfl⟩
    exact .intro _ (Option.map_eq_some_iff.mpr ⟨t', found, rfl⟩)

theorem favours_executing (welcome : (e.host.table t').Welcome .quiet) :
    e.Favours asked [executing t []] := by
  refine ⟨⟨nofun, fun h o does => ?_⟩, trivial⟩
  obtain ⟨rfl, rfl⟩ := (does_executing found).mp does
  refine ⟨obliging_quiet, ?_, id⟩
  rintro _ ⟨⟩
  exact welcome

theorem serves_executing (sent : ((e.host.fed .quiet).perform
      (.execute t' none "DELETE FROM T" [] false)).2.sent.length ≠ e.host.sent.length)
    {deeds : List Deed} (kept : ∀ script o, .work asked script o ∈ deeds → o.lost = none) :
    e.Serves asked t' (executing t [] :: deeds) := by
  have more : ((e.host.fed .quiet).perform (.execute t' none "DELETE FROM T" [] false)).2.sent
      ≠ (e.host.fed .quiet).sent := fun same => sent (congrArg List.length same)
  exact .inl ⟨⟨_, _, (does_executing found).mpr ⟨rfl, rfl⟩, rfl, more⟩, not_parts kept⟩

end Executing

/-- The next statement of the second table has been executed. -/
def rejoined : Estate := stranded.after [executing 1 []]

/-- The session of the second table was closed in the hands of the first one. Its next statement
brings it where the first one is, and the next statement of the first one is executed. -/
theorem recovery_of_lost_connection :
    ((stranded.host.table 0).session = some 1 ∧ (stranded.host.table 1).session = some 0 ∧
      (stranded.host.session 0).closed = true) ∧
    (stranded.Shut asked ∧ stranded.Favours asked [executing 1 []] ∧
      Foresees asked (losing ++ [executing 1 []])) ∧
    (∃ s, (rejoined.host.table 1).session = some s ∧ (rejoined.host.session s).closed = false) ∧
    ∃ st z n h', n ≤ 1 ∧
      (rejoined.host.fed .quiet).act (execute 0 "DELETE FROM T" [] none) = (.ok st, h') ∧
      Executed asked 0 st z n (rejoined.host.fed .quiet) h' := by
  have shut : stranded.Shut asked := shut_of_mem (by decide +kernel)
  have second : (stranded.made asked .tables)[1]? = some 1 := by decide +kernel
  have favours := favours_executing second
    (welcome_of_asking (by decide +kernel) (by decide +kernel))
  have serves : stranded.Serves asked 1 [executing 1 []] :=
    serves_executing second (by decide +kernel) fun _ _ there => (List.not_mem_nil there).elim
  -- Of what is to come only an answer fails, and no table is disconnected.
  have plain {script : Remote.Script} {o : Operation}
      (there : .work asked script o ∈ losing ++ [executing 1 []]) : script.connectors = [] ∧
        script.connects = [] ∧ script.invalidations = [] ∧ o.lost = none := by
    rcases there with _ | ⟨_, _ | ⟨_, _ | ⟨_, _ | ⟨_, ⟨⟩⟩⟩⟩⟩ <;> exact ⟨rfl, rfl, rfl, rfl⟩
  have foreseen : Foresees asked (losing ++ [executing 1 []]) := by
    intro script o there fault raised
    obtain ⟨connectors, connects, invalidations, -⟩ := plain there
    obtain ⟨url, read⟩ := address_asked
    rw [Remote.Script.Unforeseen, connectors, connects, invalidations, read] at raised
    simp at raised
  have recovered := recovery_of_estates (.bare true) .error rfl rfl losing [executing 1 []] asked
    address_asked shut favours
  dsimp only at recovered
  rw [show ((start (.bare true) .error).after losing).after [executing 1 []] = rejoined from rfl]
    at recovered
  obtain ⟨ready, executed, s, held⟩ := recovered
  have mine : 0 ∈ rejoined.made asked .tables := by decide +kernel
  obtain ⟨s', ready⟩ := ready foreseen 0 mine
    (not_parts fun script o there => (plain there).2.2.2) (by decide +kernel)
  obtain ⟨st, z, n, h', few, ran, -, executed⟩ := executed 0 mine s' ready .quiet obliging_quiet
    (welcome_of_asking (by decide +kernel) (by decide +kernel)) "DELETE FROM T" [] none [] rfl
  exact ⟨⟨by decide +kernel, by decide +kernel, by decide +kernel⟩, ⟨shut, favours, foreseen⟩,
    ⟨s, held 1 serves⟩, st, z, n, h', few, ran, executed⟩

/-- A table has been told to give up its session. -/
def discarded : Estate := sharing.after [.work asked .quiet (.giveUpSession 0)]

/-- What is given up on purpose does not heal. A table that has been told to give up its session has
none for its next statement, though it has not been removed and remembers no failure. A table that
has been served is left with a session that is closed, without having been disconnected, when
another one is told to connect anew, or when the pool is closed. -/
theorem unready_of_discarding :
    (0 ∈ discarded.made asked .tables ∧ (discarded.host.table 0).valid = true ∧
      (discarded.host.table 0).failure = none ∧ discarded.Shut asked ∧
      (discarded.host.table 0).Welcome .quiet ∧ ∀ sql params client, ∃ failure,
        (discarded.host.fed .quiet).act (execute 0 sql params client)
          = (.error (.link failure), discarded.host.fed .quiet)) ∧
    (sharing.Serves asked 1 [executing 1 [], .work asked .quiet (.reconnect 0 none)] ∧
      let e := sharing.after [executing 1 [], .work asked .quiet (.reconnect 0 none)]
      (e.host.table 1).session = some 0 ∧ (e.host.session 0).closed = true) ∧
    sharing.Serves asked 1 [executing 1 [], .closePool] ∧
      let e := sharing.after [executing 1 [], .closePool]
      (e.host.table 1).session = some 0 ∧ (e.host.session 0).closed = true := by
  have shut : discarded.Shut asked := shut_of_mem (by decide +kernel)
  have blank : (discarded.host.table 0).failure = none := by decide +kernel
  have loose : (discarded.host.table 0).session = none := by decide +kernel
  have unready : ∃ failure, readySession (discarded.host.table 0) = .error (.link failure) := by
    rw [readySession, blank, loose]
    exact ⟨_, rfl⟩
  have second : (sharing.made asked .tables)[1]? = some 1 := by decide +kernel
  have sent : ((sharing.host.fed .quiet).perform
      (.execute 1 none "DELETE FROM T" [] false)).2.sent.length ≠ sharing.host.sent.length := by
    decide +kernel
  refine ⟨⟨by decide +kernel, by decide +kernel, blank, shut,
    welcome_of_asking (by decide +kernel) (by decide +kernel), fun sql params client => ?_⟩,
    ⟨serves_executing second sent ?_, by decide +kernel⟩,
    serves_executing second sent ?_, by decide +kernel⟩
  · obtain ⟨failure, unready⟩ := unready
    exact ⟨failure, act_execute_unready sql params client (h := discarded.host.fed .quiet) unready⟩
  · rintro script o (_ | ⟨_, ⟨⟩⟩)
    rfl
  · rintro script o (_ | ⟨_, ⟨⟩⟩)

end Estate

end LinkedTables
