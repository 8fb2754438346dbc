import LinkedTables.Proofs.StatementsWithoutExecution
import LinkedTables.Proofs.TwinTables

/-!
# What each target has on a host

An `Estate` is a host together with what was made on it for each target, in the order in which it
was made, and with what came of the work for each target. A `Deed` is work for one target, whose
operation counts the members that it names among those of its target (`Operation.named`), or
something that concerns all targets. So one deed can be done on hosts that differ in what they have
for other targets. Where the estates of two hosts are abreast for a target (`Estate.Abreast`) they
stay so: work for the target comes to the same on both (`Estate.Abreast.worked`), and work for
another target makes no difference (`Estate.Abreast.spared`).
-/

namespace LinkedTables

/-! ### Naming what a target has -/

/-- Two lists of numbers for each book, paired place by place. -/
def Matching.atPlace (made made' : Book → List Nat) : Matching := fun k a b =>
  ∃ n : Nat, (made k)[n]? = some a ∧ (made' k)[n]? = some b

theorem rel_map {α β γ δ : Type} {R : α → β → Prop} {T : γ → δ → Prop} {o : Option α}
    {o' : Option β} {f : α → γ} {f' : β → δ} (same : o.Rel R o')
    (hf : ∀ a b, R a b → T (f a) (f' b)) : (o.map f).Rel T (o'.map f') := by
  cases same with
  | some r => exact .some (hf _ _ r)
  | none => exact .none

theorem rel_bind {α β γ δ : Type} {R : α → β → Prop} {T : γ → δ → Prop} {o : Option α}
    {o' : Option β} {f : α → Option γ} {f' : β → Option δ} (same : o.Rel R o')
    (hf : ∀ a b, R a b → (f a).Rel T (f' b)) : (o.bind f).Rel T (o'.bind f') := by
  cases same with
  | some r => exact hf _ _ r
  | none => exact .none

/-- Where two lists are equally long, both have a number at a place or neither does. -/
theorem rel_atPlace {made made' : Book → List Nat} {k : Book}
    (equal : (made k).length = (made' k).length) (n : Nat) :
    ((made k)[n]?).Rel (Matching.atPlace made made' k) (made' k)[n]? := by
  cases h : (made k)[n]? with
  | some a =>
    obtain ⟨known, -⟩ := List.getElem?_eq_some_iff.mp h
    have h' : (made' k)[n]? = some (made' k)[n] := List.getElem?_eq_getElem (equal ▸ known)
    rw [h']
    exact .some ⟨n, h, h'⟩
  | none =>
    rw [List.getElem?_eq_none (equal ▸ List.getElem?_eq_none_iff.mp h)]
    exact .none

namespace Operation

/-- The operation of a host that an operation for a target stands for, if the members that it names
are counted among those that were made for the target. A table that is created has to be one of the
target, without a session. Nothing stands for an operation that names what has not been made, that
concerns other targets too, or that does not leave the sessions to the tables. -/
def named (key : LinkKey) (made : Book → List Nat) : Operation → Option Operation
  | clearUndo client => some (clearUndo client)
  | createTable table =>
    if table.definition.key = key ∧ table.session = none then some (createTable table) else none
  | addRow t client row => (made .tables)[t]?.map fun t => addRow t client row
  | removeRow t client row => (made .tables)[t]?.map fun t => removeRow t client row
  | updateRows t client cancelled pairs =>
    (made .tables)[t]?.map fun t => updateRows t client cancelled pairs
  | rowCount t client => (made .tables)[t]?.map fun t => rowCount t client
  | openScan t client => (made .tables)[t]?.map fun t => openScan t client
  | openFind t index client first last =>
    (made .tables)[t]?.map fun t => openFind t index client first last
  | next c => (made .cursors)[c]?.map next
  | drain c => (made .cursors)[c]?.map drain
  | closeCursor c => (made .cursors)[c]?.map closeCursor
  | execute t client sql params keep =>
    (made .tables)[t]?.map fun t => execute t client sql params keep
  | query t client sql params failure =>
    (made .tables)[t]?.map fun t => query t client sql params failure
  | handBack t st sql =>
    (made .tables)[t]?.bind fun t => (made .statements)[st]?.map fun st => handBack t st sql
  | convertRow t row => (made .tables)[t]?.map fun t => convertRow t row
  | setReadOnly t b => (made .tables)[t]?.map fun t => setReadOnly t b
  | setGlobalTemporary t b => (made .tables)[t]?.map fun t => setGlobalTemporary t b
  | setFetchSize t n => (made .tables)[t]?.map fun t => setFetchSize t n
  | setDefault t c default => (made .tables)[t]?.map fun t => setDefault t c default
  | setSequence t c sequence => (made .tables)[t]?.map fun t => setSequence t c sequence
  | reconnect t none => (made .tables)[t]?.map fun t => reconnect t none
  | reconnect t (some failed) =>
    (made .tables)[t]?.bind fun t =>
      (made .sessions)[failed]?.map fun failed => reconnect t (some failed)
  | giveUpSession t => (made .tables)[t]?.map giveUpSession
  | closeLink t => (made .tables)[t]?.map closeLink
  | removeTable t => (made .tables)[t]?.map removeTable
  | fetchAll r => (made .results)[r]?.map fetchAll
  | closeStatement st => (made .statements)[st]?.map closeStatement
  | join _ | connect _ | registerTable .. | dropTable .. | acquire _ | release .. | closePool
  | prepare .. | executeStatement .. | putStatement .. | takeStatement .. | clearStatements _
  | discard .. => none

/-- Where the same was made for a target on two hosts, an operation stands for counterparts. -/
theorem rel_named {made made' : Book → List Nat}
    (equal : ∀ k, (made k).length = (made' k).length) (key : LinkKey) (h g : Host)
    (o : Operation) :
    (o.named key made).Rel (Like key (.atPlace made made') h g) (o.named key made') := by
  -- An operation names members by their places in the book of the target, which is as long on
  -- either side.
  have place (k : Book) (n : Nat) := rel_atPlace (equal k) n
  cases o with
  | clearUndo client => exact .some (.clearUndo client)
  | createTable table =>
    simp only [named]
    split
    next own => exact .some (.createTable own.1 own.2)
    next => exact .none
  | addRow t client row => exact rel_map (place _ t) fun _ _ ht => .addRow ht client row
  | removeRow t client row => exact rel_map (place _ t) fun _ _ ht => .removeRow ht client row
  | updateRows t client cancelled pairs =>
    exact rel_map (place _ t) fun _ _ ht => .updateRows ht client cancelled pairs
  | rowCount t client => exact rel_map (place _ t) fun _ _ ht => .rowCount ht client
  | openScan t client => exact rel_map (place _ t) fun _ _ ht => .openScan ht client
  | openFind t index client first last =>
    exact rel_map (place _ t) fun _ _ ht => .openFind ht index client first last
  | next c => exact rel_map (place _ c) fun _ _ hc => .next hc
  | drain c => exact rel_map (place _ c) fun _ _ hc => .drain hc
  | closeCursor c => exact rel_map (place _ c) fun _ _ hc => .closeCursor hc
  | execute t client sql params keep =>
    exact rel_map (place _ t) fun _ _ ht => .execute ht client sql params keep
  | query t client sql params failure =>
    exact rel_map (place _ t) fun _ _ ht => .query ht client sql params failure
  | handBack t st sql =>
    exact rel_bind (place _ t) fun _ _ ht =>
      rel_map (place _ st) fun _ _ hst => .handBack ht hst sql
  | convertRow t row => exact rel_map (place _ t) fun _ _ ht => .convertRow ht row
  | setReadOnly t b => exact rel_map (place _ t) fun _ _ ht => .setReadOnly ht b
  | setGlobalTemporary t b => exact rel_map (place _ t) fun _ _ ht => .setGlobalTemporary ht b
  | setFetchSize t n => exact rel_map (place _ t) fun _ _ ht => .setFetchSize ht n
  | setDefault t c default => exact rel_map (place _ t) fun _ _ ht => .setDefault ht c default
  | setSequence t c sequence => exact rel_map (place _ t) fun _ _ ht => .setSequence ht c sequence
  | reconnect t failed =>
    cases failed with
    | none => exact rel_map (place _ t) fun _ _ ht => .reconnect ht .none
    | some s =>
      exact rel_bind (place _ t) fun _ _ ht =>
        rel_map (place _ s) fun _ _ hs => .reconnect ht (.some hs)
  | giveUpSession t => exact rel_map (place _ t) fun _ _ ht => .giveUpSession ht
  | closeLink t => exact rel_map (place _ t) fun _ _ ht => .closeLink ht
  | removeTable t => exact rel_map (place _ t) fun _ _ ht => .removeTable ht
  | fetchAll r => exact rel_map (place _ r) fun _ _ hr => .fetchAll hr
  | closeStatement st => exact rel_map (place _ st) fun _ _ hst => .closeStatement hst
  | _ => exact .none

end Operation

/-! ### Estates -/

/-- The host with other outcomes of remote calls to come. -/
def Host.fed (h : Host) (script : Remote.Script) : Host := { h with script }

@[simp] theorem Host.roster_fed (h : Host) (script : Remote.Script) (k : Book) :
    (h.fed script).roster k = h.roster k := by
  cases k <;> rfl

@[simp] theorem Host.size_fed (h : Host) (script : Remote.Script) (k : Book) :
    (h.fed script).size k = h.size k := by
  rw [Host.size, Host.roster_fed, Host.size]

theorem Twin.fed {key : LinkKey} {φ : Matching} {h g : Host} (twin : Twin key φ h g)
    (script : Remote.Script) : Twin key φ (h.fed script) (g.fed script) :=
  ⟨twin.single, by simpa using twin.member, fun s s' p => (twin.lodges s s' p).of_rosters (by simp),
    twin.converts, twin.pool⟩

/-- The fault in which something ended, if it did. -/
def faultOf {α : Type} : Except Fault α → Option Fault
  | .ok _ => none
  | .error fault => some fault

/-- What came of an operation: the fault in which it ended, if it did, and the outcomes of the
connects that it made, the latest first. -/
structure Account where
  fault : Option Fault
  dials : List Bool

/-- A host together with what was made on it for each target, by number in each book, and with what
came of the work for each target, the latest first. -/
structure Estate where
  host : Host
  made : LinkKey → Book → List Nat
  seen : LinkKey → List Account

/-- What is done next. -/
inductive Deed where
  /-- An operation for a target, which names members as `Operation.named` says, with the outcomes of
  the remote calls that it makes. -/
  | work (key : LinkKey) (script : Remote.Script) (operation : Operation)
  /-- A client joins, with its way to convert the values that are bound. -/
  | join (convert : Value → Except Fault Value)
  | closePool

/-- Whether a deed is work for a target or concerns all of them. -/
def Deed.concerns (key : LinkKey) : Deed → Bool
  | work key' .. => key' = key
  | _ => true

theorem Pool.Tripped.of_settings {pool pool' : Pool} {dials : List Bool}
    (tripped : pool.Tripped dials) (same : pool'.settings = pool.settings) :
    pool'.Tripped dials := by
  simp only [Pool.settings, Prod.mk.injEq] at same
  rw [Pool.Tripped, same.2.1]
  exact tripped

namespace Estate

/-- Nothing was made yet. -/
def start (pool : Pool) (level : Level) : Estate :=
  ⟨.start .quiet pool level, fun _ _ => [], fun _ => []⟩

/-- The outcomes of all connects to a target, the latest first. -/
def dials (e : Estate) (key : LinkKey) : List Bool := (e.seen key).flatMap (·.dials)

/-- The estate behind work for a target that left a host behind it. -/
def left (e : Estate) (key : LinkKey) (fault : Option Fault) (h : Host) : Estate where
  host := h
  made := Function.update e.made key fun k =>
    e.made key k ++ List.range' (e.host.size k) (h.size k - e.host.size k)
  seen := Function.update e.seen key
    (⟨fault, h.dials.take (h.dials.length - e.host.dials.length)⟩ :: e.seen key)

/-- The estate behind work for a target. -/
def worked (e : Estate) (key : LinkKey) (script : Remote.Script) (o : Operation) : Estate :=
  match o.named key (e.made key) with
  | none => e
  | some o =>
    let (r, h) := (e.host.fed script).perform o
    e.left key (faultOf r) h

/-- The estate behind a deed. -/
def done (e : Estate) : Deed → Estate
  | .work key script o => e.worked key script o
  | .join convert => { e with host := (e.host.perform (.join convert)).2 }
  | .closePool => { e with host := ((e.host.fed .quiet).perform .closePool).2 }

/-- The estate behind deeds that are done one after the other. -/
def after (e : Estate) (deeds : List Deed) : Estate := deeds.foldl done e

/-! ### Estates that are abreast -/

/-- Two estates have the same for a target: equally much was made, place by place the same, and the
same came of the work. -/
structure Abreast (key : LinkKey) (e g : Estate) : Prop where
  equal : ∀ k, (e.made key k).length = (g.made key k).length
  twin : Twin key (.atPlace (e.made key) (g.made key)) e.host g.host
  seen : e.seen key = g.seen key

theorem getElem?_append_range' (l : List Nat) (low m n a : Nat) :
    (l ++ List.range' low m)[n]? = some a
      ↔ l[n]? = some a ∨ l.length ≤ n ∧ n < l.length + m ∧ a = low + (n - l.length) := by
  by_cases old : n < l.length
  · rw [List.getElem?_append_left old]
    exact ⟨.inl, fun p => p.resolve_right fun later => absurd old (by omega)⟩
  · rw [List.getElem?_append_right (by omega), List.getElem?_eq_none (Nat.not_lt.mp old)]
    by_cases new : n - l.length < m
    · rw [List.getElem?_range' new, Option.some.injEq]
      constructor
      · exact fun e => .inr (by omega)
      · rintro (e | e)
        · cases e
        · omega
    · rw [List.getElem?_eq_none (by simpa using new)]
      constructor
      · exact nofun
      · rintro (e | e)
        · cases e
        · omega

section Left

variable (e : Estate) (key : LinkKey) (fault : Option Fault) (h : Host)

theorem made_left_self (k : Book) : (e.left key fault h).made key k
    = e.made key k ++ List.range' (e.host.size k) (h.size k - e.host.size k) := by
  simp [left]

theorem seen_left_self : (e.left key fault h).seen key
    = ⟨fault, h.dials.take (h.dials.length - e.host.dials.length)⟩ :: e.seen key := by
  simp [left]

variable {key} {key' : LinkKey} (ne : key' ≠ key)
include ne

theorem made_left_of_ne : (e.left key fault h).made key' = e.made key' := by
  simp [left, ne]

theorem seen_left_of_ne : (e.left key fault h).seen key' = e.seen key' := by
  simp [left, ne]

end Left

/-- The scene of work for a target on the hosts of two estates. -/
def scene (key : LinkKey) (e g : Estate) (script : Remote.Script) : Scene :=
  ⟨key, .atPlace (e.made key) (g.made key), e.host.fed script, g.host.fed script, False⟩

section Scene

variable {key : LinkKey} {e g : Estate} {script : Remote.Script} {h' g' : Host}

theorem Abreast.begin (a : e.Abreast key g) (script : Remote.Script) :
    (scene key e g script).At (.atPlace (e.made key) (g.made key)) (e.host.fed script)
      (g.host.fed script) := by
  have pairs : (scene key e g script).pairs (e.host.fed script)
      = .atPlace (e.made key) (g.made key) := by
    funext k n n'
    refine propext ⟨fun p => p.resolve_right fun ⟨low, high, _⟩ => ?_, .inl⟩
    exact absurd high (Nat.not_lt.mpr low)
  refine ⟨⟨?_, rfl, False.elim, fun k => Nat.add_comm .., .refl .., .refl .., [],
    .of_same rfl rfl rfl, .of_same rfl rfl rfl⟩, pairs ▸ .refl _⟩
  rw [pairs]
  exact a.twin.fed script

/-- What was made by work that has come equally far is paired place by place. -/
theorem pairs_scene (equal : ∀ k, (e.made key k).length = (g.made key k).length)
    (r : (scene key e g script).InStep h' g') (fault : Option Fault) :
    (scene key e g script).pairs h'
      = .atPlace ((e.left key fault h').made key) ((g.left key fault g').made key) := by
  funext k n n'
  have grown : e.host.size k ≤ h'.size k := by simpa [scene] using r.left.size k
  have grown' : g.host.size k ≤ g'.size k := by simpa [scene] using r.right.size k
  have pace : h'.size k + g.host.size k = g'.size k + e.host.size k := by
    simpa [scene] using r.pace k
  have same := equal k
  simp only [Matching.atPlace, made_left_self, getElem?_append_range', Scene.pairs, scene,
    Host.size_fed, eq_iff_iff]
  constructor
  · rintro (⟨i, p, q⟩ | ⟨low, high, level⟩)
    · exact ⟨i, .inl p, .inl q⟩
    · refine ⟨(e.made key k).length + (n - e.host.size k), .inr ?_, .inr ?_⟩ <;> omega
  · rintro ⟨i, p, q⟩
    have old {l : List Nat} {a : Nat} (p : l[i]? = some a) : i < l.length :=
      (List.getElem?_eq_some_iff.mp p).1
    rcases p with p | p <;> rcases q with q | q
    · exact .inl ⟨i, p, q⟩
    · have := old p
      omega
    · have := old q
      omega
    · exact .inr (by omega)

theorem Abreast.left (a : e.Abreast key g) (r : (scene key e g script).InStep h' g')
    (fault : Option Fault) : (e.left key fault h').Abreast key (g.left key fault g') where
  equal k := by
    have pace : h'.size k + g.host.size k = g'.size k + e.host.size k := by
      simpa [scene] using r.pace k
    have grown : e.host.size k ≤ h'.size k := by simpa [scene] using r.left.size k
    have same := a.equal k
    simp only [made_left_self, List.length_append, List.length_range']
    omega
  twin := by
    rw [← pairs_scene a.equal r fault]
    exact r.twin
  seen := by
    obtain ⟨new, dialled, dialled'⟩ := r.dialled
    have dials : h'.dials = new ++ e.host.dials := dialled.dials
    have dials' : g'.dials = new ++ g.host.dials := dialled'.dials
    simp [seen_left_self, dials, dials', a.seen]

/-- Work for a target comes to the same where it has the same. -/
theorem Abreast.worked (a : e.Abreast key g) (script : Remote.Script) (o : Operation) :
    (e.worked key script o).Abreast key (g.worked key script o) := by
  have counterparts := o.rel_named a.equal key (e.host.fed script) (g.host.fed script)
  unfold Estate.worked
  generalize o.named key (e.made key) = x, o.named key (g.made key) = y at counterparts
  cases counterparts with
  | none => exact a
  | @some o₁ o₂ like =>
    have ends := Scene.perform_like like (a.begin script)
    dsimp only
    generalize (e.host.fed script).perform o₁ = p, (g.host.fed script).perform o₂ = q at ends ⊢
    obtain ⟨_, h'⟩ := p
    obtain ⟨_, g'⟩ := q
    cases ends with
    | value r => exact a.left r.1 none
    | @fault fault _ _ r => exact a.left r.1 (some fault)

/-- Work for a target that was tended either is none or goes its way in step with itself. -/
theorem worked_cases (a : e.Abreast key e) (script : Remote.Script) (o : Operation) :
    e.worked key script o = e ∨ ∃ fault h', e.worked key script o = e.left key fault h' ∧
      (scene key e e script).InStep h' h' := by
  have counterparts := o.rel_named a.equal key (e.host.fed script) (e.host.fed script)
  unfold Estate.worked
  generalize o.named key (e.made key) = x at counterparts
  cases counterparts with
  | none => exact .inl rfl
  | some like =>
    have ends := Scene.perform_like like (a.begin script)
    refine .inr ?_
    dsimp only
    generalize (e.host.fed script).perform _ = p at ends ⊢
    obtain ⟨r, h'⟩ := p
    refine ⟨_, h', rfl, ?_⟩
    cases ends with
    | value r => exact r.1
    | fault r => exact r.1

/-- What belongs to another target makes no difference. -/
theorem Abreast.spared (a : e.Abreast key g) {e' g' : Estate} {key' : LinkKey}
    {own own' : Book → Nat → Prop} (ne : key ≠ key')
    (left : Spared key' own e.host e'.host) (right : Spared key' own' g.host g'.host)
    (apart : ∀ k n, n ∈ e.made key k → ¬ own k n) (apart' : ∀ k n, n ∈ g.made key k → ¬ own' k n)
    (made : e'.made key = e.made key) (made' : g'.made key = g.made key)
    (seen : e'.seen key = e.seen key) (seen' : g'.seen key = g.seen key) :
    e'.Abreast key g' where
  equal := by
    rw [made, made']
    exact a.equal
  twin := by
    rw [made, made']
    refine a.twin.spared left right ne ?_
    rintro k n n' ⟨i, p, q⟩
    exact ⟨apart k n (List.mem_of_getElem? p), apart' k n' (List.mem_of_getElem? q)⟩
  seen := by rw [seen, seen', a.seen]

end Scene

/-! ### Estates that are tended -/

/-- Every target goes its own way: what was made for it is as work for it left it, and belongs to no
other target, and sessions are shared under their own targets. -/
structure Tended (e : Estate) : Prop where
  abreast : ∀ key, e.Abreast key e
  apart : ∀ key key' k n, n ∈ e.made key k → n ∈ e.made key' k → key = key'
  unique : (e.host.pool.shared.map (·.1)).Nodup

/-- Each breaker has counted the connects to its target. -/
def Heard (e : Estate) : Prop := ∀ key, e.host.pool.Counts key (e.dials key)

theorem Abreast.lt_of_mem {e : Estate} {key : LinkKey} (a : e.Abreast key e) {k : Book} {n : Nat}
    (mine : n ∈ e.made key k) : n < e.host.size k := by
  obtain ⟨i, found⟩ := List.mem_iff_getElem?.mp mine
  obtain ⟨x, -, here, -⟩ := a.twin.member k n n ⟨i, found, found⟩
  exact Host.lt_of_at? here

/-- Work for a target leaves alone what belongs to others. -/
theorem spared_of_inStep {e : Estate} {key : LinkKey} {script : Remote.Script} {h' : Host}
    (r : (scene key e e script).InStep h' h') :
    Spared key (fun k n => n ∈ e.made key k) e.host h' where
  size k := by simpa [scene] using r.left.size k
  member k n known apart := by
    have spared := r.left.member k n (by simpa [scene] using known)
      fun ⟨_, _, found, _⟩ => apart (List.mem_of_getElem? found)
    simpa [scene] using spared
  converts := r.left.converts
  pool := r.left.pool

namespace Tended

variable {e : Estate} (te : e.Tended)
include te

theorem worked (key : LinkKey) (script : Remote.Script) (o : Operation) :
    (e.worked key script o).Tended := by
  rcases worked_cases (te.abreast key) script o with same | ⟨fault, h', same, r⟩
  · rw [same]
    exact te
  rw [same]
  have spared := spared_of_inStep r
  refine ⟨fun key' => ?_, fun key₁ key₂ k n => ?_, spared.pool.unique te.unique⟩
  · by_cases own : key' = key
    · subst own
      exact (te.abreast key').left r fault
    · have foreign (k : Book) (n : Nat) (theirs : n ∈ e.made key' k) : n ∉ e.made key k :=
        fun mine => own (te.apart key' key k n theirs mine)
      have made := made_left_of_ne e fault h' own
      have seen := seen_left_of_ne e fault h' own
      exact (te.abreast key').spared own spared spared foreign foreign made made seen seen
  · -- What is new is in no book yet.
    have new {k : Book} {n : Nat} {key' : LinkKey}
        (fresh : n ∈ List.range' (e.host.size k) (h'.size k - e.host.size k)) :
        n ∉ e.made key' k := fun old => by
      have := (te.abreast key').lt_of_mem old
      rw [List.mem_range'_1] at fresh
      omega
    by_cases own₁ : key₁ = key <;> by_cases own₂ : key₂ = key
    · exact fun _ _ => own₁.trans own₂.symm
    · subst own₁
      rw [made_left_self, made_left_of_ne e fault h' own₂, List.mem_append]
      rintro (old | fresh) theirs
      · exact te.apart _ _ k n old theirs
      · exact absurd theirs (new fresh)
    · subst own₂
      rw [made_left_self, made_left_of_ne e fault h' own₁, List.mem_append]
      rintro theirs (old | fresh)
      · exact te.apart _ _ k n theirs old
      · exact absurd theirs (new fresh)
    · rw [made_left_of_ne e fault h' own₁, made_left_of_ne e fault h' own₂]
      exact te.apart _ _ k n

theorem heard_worked (heard : e.Heard) (key : LinkKey) (script : Remote.Script) (o : Operation) :
    (e.worked key script o).Heard := by
  rcases worked_cases (te.abreast key) script o with same | ⟨fault, h', same, r⟩
  · rw [same]
    exact heard
  rw [same]
  intro key'
  by_cases own : key' = key
  · subst own
    obtain ⟨new, dialled, -⟩ := r.dialled
    have dials : h'.dials = new ++ e.host.dials := dialled.dials
    have behind : (e.left key' fault h').dials key' = new ++ e.dials key' := by
      simp [Estate.dials, seen_left_self, dials]
    rw [behind]
    exact dialled.counts (e.dials key') (heard key')
  · have spared := spared_of_inStep r
    rw [Estate.dials, seen_left_of_ne e fault h' own]
    exact (heard key').of_same spared.pool.settings (spared.pool.breaker key' own)

/-- Where connecting has failed so often that the breaker of a target is open, work for the target
connects no more. -/
theorem dials_worked (heard : e.Heard) {key : LinkKey} (tripped : e.host.pool.Tripped (e.dials key))
    (script : Remote.Script) (o : Operation) : (e.worked key script o).dials key = e.dials key := by
  rcases worked_cases (te.abreast key) script o with same | ⟨fault, h', same, r⟩
  · rw [same]
  · obtain ⟨new, dialled, -⟩ := r.dialled
    have dials : h'.dials = new ++ e.host.dials := dialled.dials
    have none : new = [] := dialled.turned (e.dials key) (heard key) tripped
    rw [same, Estate.dials, seen_left_self, dials, none]
    simp [Estate.dials]

end Tended

/-! ### Closing the pool -/

/-- The estate without a session, which is closed. -/
def dropped (e : Estate) (s : Nat) : Estate :=
  { e with host := (e.host.act (Action.discard s false)).2 }

/-- The estate without sessions, which are closed one after the other. -/
def allDropped (e : Estate) (shared : Ledger LinkKey Nat) : Estate :=
  shared.foldl (fun e entry => e.dropped entry.2) e

/-- The estate whose pool shares nothing and has no connectors. -/
def cleared (e : Estate) : Estate :=
  { e with host := { e.host.fed .quiet with
      pool := { e.host.pool with shared := [], connectors := [] } } }

end Estate

namespace Action

/-- A loop of rounds that all succeed. -/
theorem act_forM {ι : Type} {f : ι → Action Unit} (ok : ∀ i, Succeeds (f i)) (l : List ι)
    (h : Host) : h.act (l.forM f) = (.ok (), l.foldl (fun h i => (h.act (f i)).2) h) := by
  induction l generalizing h with
  | nil => rfl
  | cons i l ih =>
    obtain ⟨_, done⟩ := ok i h
    have first : h.act (f i) = (.ok (), (h.act (f i)).2) := Prod.ext done rfl
    exact (Host.act_bind_ok h first).trans (ih _)

/-- A session that is given up without force invalidates nothing. -/
theorem discard_succeeds (s : Nat) : Succeeds (discard s false) :=
  .get_bind fun _ => .of_ite (.of_pure _) <| .bind (.of_modify _) fun _ =>
    .bind (clearStatements_succeeds s) fun _ => .of_modify _

end Action

namespace Estate

/-- As many members, the same pool and the same outcomes to come. -/
structure Beside (h h' : Host) : Prop where
  size : ∀ k, h'.size k = h.size k
  pool : h'.pool = h.pool
  script : h'.script = h.script

theorem beside : Frame Beside where
  refl _ := ⟨fun _ => rfl, rfl, rfl⟩
  trans a b := ⟨fun k => (b.size k).trans (a.size k), b.pool.trans a.pool,
    b.script.trans a.script⟩

theorem beside_revised (k : Book) (a : Nat) (f : k.Member → k.Member) :
    Action.Keeps Beside (modify fun h => h.revised k a f) :=
  .of_modify fun h => ⟨fun k' => h.size_revised k k' a f, by simp [Host.revised],
    by simp [Host.revised]⟩

theorem beside_note (event : Event) : Action.Keeps Beside (Action.note event) :=
  .of_modify fun _ => ⟨fun k => by cases k <;> rfl, rfl, rfl⟩

open LinkedTables.Action in
theorem beside_closeStatement (st : Nat) : Keeps Beside (closeStatement st) := by
  refine .bind beside (.get_bind fun h => ?_) fun _ => beside_revised .statements _ _
  split
  · exact .of_pure beside _
  · exact .bind beside (beside_note _) fun _ => .bind beside (beside_revised .results _ _) fun _ =>
      beside_revised .statements _ _

open LinkedTables.Action in
theorem beside_discard (s : Nat) : Keeps Beside (discard s false) := by
  refine .get_bind fun h => .of_ite (.of_pure beside _) ?_
  refine .bind beside (beside_revised .sessions _ _) fun _ => ?_
  refine .bind beside (.get_bind fun h => ?_) fun _ => beside_note _
  refine .bind beside (beside_revised .sessions _ _) fun _ => ?_
  exact .of_forM beside _ fun _ => beside_closeStatement _

section Dropped

variable {e g : Estate} {key : LinkKey} {s s' : Nat}

theorem beside_dropped (e : Estate) (s : Nat) : Beside e.host (e.dropped s).host :=
  beside_discard s e.host

/-- Closing a session comes equally far where the session is the same. -/
theorem inStep_dropped (a : e.Abreast key g) (script : e.host.script = g.host.script)
    (p : Matching.atPlace (e.made key) (g.made key) .sessions s s') :
    (scene key e g e.host.script).InStep (e.dropped s).host (g.dropped s').host := by
  have r := a.begin e.host.script
  have same : g.host.fed e.host.script = g.host := by rw [script]; rfl
  rw [same] at r
  have ends := Scene.alike_discard p false r
  unfold dropped
  rw [show e.host.fed e.host.script = e.host from rfl] at ends
  generalize e.host.act _ = x, g.host.act _ = y at ends ⊢
  obtain ⟨_, h'⟩ := x
  obtain ⟨_, g'⟩ := y
  cases ends with
  | value q => exact q.2.1
  | fault r => exact r.1

theorem Abreast.dropped (a : e.Abreast key g) (script : e.host.script = g.host.script)
    (p : Matching.atPlace (e.made key) (g.made key) .sessions s s') :
    (e.dropped s).Abreast key (g.dropped s') where
  equal := a.equal
  twin := by
    have r := inStep_dropped a script p
    have pairs := pairs_scene a.equal r none
    have twin := r.twin
    rw [pairs] at twin
    -- Nothing is made by closing a session.
    have made {e : Estate} {s : Nat} :
        (e.left key none (e.dropped s).host).made key = e.made key := by
      funext k
      rw [made_left_self, (beside_dropped e s).size k, Nat.sub_self, List.range'_zero,
        List.append_nil]
    rw [made, made] at twin
    exact twin
  seen := a.seen

theorem spared_dropped (a : e.Abreast key e) (mine : s ∈ e.made key .sessions) :
    Spared key (fun k n => n ∈ e.made key k) e.host (e.dropped s).host := by
  obtain ⟨i, found⟩ := List.mem_iff_getElem?.mp mine
  exact spared_of_inStep (inStep_dropped a rfl ⟨i, found, found⟩)

variable (te : e.Tended)
include te

theorem Tended.foreign {key' : LinkKey} (ne : key ≠ key') (k : Book) (n : Nat)
    (theirs : n ∈ e.made key k) : n ∉ e.made key' k :=
  fun mine => ne (te.apart key key' k n theirs mine)

theorem Tended.dropped (mine : s ∈ e.made key .sessions) : (e.dropped s).Tended := by
  have spared := spared_dropped (te.abreast key) mine
  have pool : (e.dropped s).host.pool = e.host.pool := (beside_dropped e s).pool
  refine ⟨fun key' => ?_, te.apart, ?_⟩
  · by_cases own : key' = key
    · subst own
      obtain ⟨i, found⟩ := List.mem_iff_getElem?.mp mine
      exact (te.abreast key').dropped rfl ⟨i, found, found⟩
    · exact (te.abreast key').spared own spared spared (te.foreign own) (te.foreign own) rfl rfl
        rfl rfl
  · rw [pool]
    exact te.unique

/-- Closing a session of another target makes no difference. -/
theorem Abreast.left_dropped (a : e.Abreast key g) {key' : LinkKey} (ne : key ≠ key')
    (mine : s ∈ e.made key' .sessions) : (e.dropped s).Abreast key g :=
  a.spared ne (spared_dropped (te.abreast key') mine)
    (.refl key' (fun _ _ => False) g.host) (te.foreign ne) (fun _ _ _ => id) rfl rfl rfl rfl

omit te in
theorem Abreast.right_dropped (tg : g.Tended) (a : e.Abreast key g) {key' : LinkKey}
    (ne : key ≠ key') (mine : s ∈ g.made key' .sessions) : e.Abreast key (g.dropped s) :=
  a.spared ne (.refl key' (fun _ _ => False) e.host) (spared_dropped (tg.abreast key') mine)
    (fun _ _ _ => id) (tg.foreign ne) rfl rfl rfl rfl

end Dropped

section AllDropped

variable {e g : Estate} {key : LinkKey} {shared shared' : Ledger LinkKey Nat}

theorem allDropped_append (e : Estate) (shared shared' : Ledger LinkKey Nat) :
    e.allDropped (shared ++ shared') = (e.allDropped shared).allDropped shared' :=
  List.foldl_append

theorem made_allDropped (e : Estate) (shared : Ledger LinkKey Nat) :
    (e.allDropped shared).made = e.made := by
  induction shared generalizing e with
  | nil => rfl
  | cons entry shared ih => exact ih (e.dropped entry.2)

theorem seen_allDropped (e : Estate) (shared : Ledger LinkKey Nat) :
    (e.allDropped shared).seen = e.seen := by
  induction shared generalizing e with
  | nil => rfl
  | cons entry shared ih => exact ih (e.dropped entry.2)

theorem beside_allDropped (e : Estate) (shared : Ledger LinkKey Nat) :
    Beside e.host (e.allDropped shared).host := by
  induction shared generalizing e with
  | nil => exact beside.refl _
  | cons entry shared ih => exact beside.trans (beside_dropped e entry.2) (ih (e.dropped entry.2))

theorem Tended.allDropped (te : e.Tended)
    (mine : ∀ entry ∈ shared, entry.2 ∈ e.made entry.1 .sessions) :
    (e.allDropped shared).Tended := by
  induction shared generalizing e with
  | nil => exact te
  | cons entry shared ih =>
    exact ih (te.dropped (mine entry (List.mem_cons_self ..))) fun entry' there =>
      mine entry' (List.mem_cons_of_mem _ there)

/-- Sessions of other targets are closed on both sides. -/
theorem Abreast.othersDropped (te : e.Tended) (tg : g.Tended) (a : e.Abreast key g)
    (mine : ∀ entry ∈ shared, entry.2 ∈ e.made entry.1 .sessions ∧ key ≠ entry.1)
    (mine' : ∀ entry ∈ shared', entry.2 ∈ g.made entry.1 .sessions ∧ key ≠ entry.1) :
    (e.allDropped shared).Abreast key (g.allDropped shared') := by
  induction shared generalizing e with
  | cons entry shared ih =>
    obtain ⟨here, ne⟩ := mine entry (List.mem_cons_self ..)
    exact ih (te.dropped here) (a.left_dropped te ne here) fun entry' there =>
      mine entry' (List.mem_cons_of_mem _ there)
  | nil =>
    induction shared' generalizing g with
    | nil => exact a
    | cons entry shared' ih =>
      obtain ⟨here, ne⟩ := mine' entry (List.mem_cons_self ..)
      exact ih (tg.dropped here) (fun entry' there => mine' entry' (List.mem_cons_of_mem _ there))
        (a.right_dropped tg ne here)

/-- The entry of a key is the only one of its key. -/
theorem ne_of_unique {α : Type} {before behind : Ledger LinkKey α} {x : α}
    (unique : ((before ++ (key, x) :: behind).map (·.1)).Nodup) :
    (∀ entry ∈ before, key ≠ entry.1) ∧ ∀ entry ∈ behind, key ≠ entry.1 := by
  simp only [List.map_append, List.map_cons, List.nodup_append, List.nodup_cons,
    List.mem_cons, List.mem_map] at unique
  obtain ⟨-, ⟨apart, -⟩, across⟩ := unique
  refine ⟨fun entry there e => ?_, fun entry there e => apart ⟨entry, there, e.symm⟩⟩
  exact across entry.1 ⟨entry, there, rfl⟩ key (.inl rfl) e.symm

/-- Without an entry of a key, all entries are of other keys. -/
theorem ne_of_value?_eq_none {α : Type} {shared : Ledger LinkKey α}
    (unique : (shared.map (·.1)).Nodup) (none : shared.value? key = none) {entry : LinkKey × α}
    (there : entry ∈ shared) : key ≠ entry.1 := by
  rintro rfl
  rw [Ledger.value?_of_mem unique there] at none
  cases none

/-- The session of a target stands between those of others. -/
theorem exists_of_value? {s : Nat} (mine : ∀ entry ∈ shared, entry.2 ∈ e.made entry.1 .sessions)
    (unique : (shared.map (·.1)).Nodup) (found : shared.value? key = some s) :
    ∃ before behind, shared = before ++ (key, s) :: behind ∧
      (∀ entry ∈ before, entry.2 ∈ e.made entry.1 .sessions ∧ key ≠ entry.1) ∧
      s ∈ e.made key .sessions ∧
      ∀ entry ∈ behind, entry.2 ∈ e.made entry.1 .sessions ∧ key ≠ entry.1 := by
  obtain ⟨before, behind, rfl⟩ := List.append_of_mem (Ledger.mem_of_value? found)
  obtain ⟨ne, ne'⟩ := ne_of_unique unique
  refine ⟨before, behind, rfl, fun entry there => ⟨?_, ne entry there⟩, ?_,
    fun entry there => ⟨?_, ne' entry there⟩⟩
  · exact mine entry (List.mem_append_left _ there)
  · exact mine (key, s) (List.mem_append_right before List.mem_cons_self)
  · exact mine entry (List.mem_append_right _ (List.mem_cons_of_mem _ there))

/-- Sessions under their targets are closed on both sides, those of the target itself being the
same. -/
theorem Abreast.allDropped (te : e.Tended) (tg : g.Tended) (a : e.Abreast key g)
    (script : e.host.script = g.host.script)
    (mine : ∀ entry ∈ shared, entry.2 ∈ e.made entry.1 .sessions)
    (mine' : ∀ entry ∈ shared', entry.2 ∈ g.made entry.1 .sessions)
    (unique : (shared.map (·.1)).Nodup) (unique' : (shared'.map (·.1)).Nodup)
    (same : (shared.value? key).Rel (Matching.atPlace (e.made key) (g.made key) .sessions)
      (shared'.value? key)) :
    (e.allDropped shared).Abreast key (g.allDropped shared') := by
  cases hs : shared.value? key <;> cases hs' : shared'.value? key <;> rw [hs, hs'] at same
  · -- No session of the target is shared on either side.
    exact a.othersDropped te tg
      (fun entry there => ⟨mine entry there, ne_of_value?_eq_none unique hs there⟩)
      fun entry there => ⟨mine' entry there, ne_of_value?_eq_none unique' hs' there⟩
  · cases same
  · cases same
  next s s' =>
    have p : Matching.atPlace (e.made key) (g.made key) .sessions s s' := by
      cases same
      assumption
    obtain ⟨before, behind, rfl, first, own, last⟩ := exists_of_value? mine unique hs
    obtain ⟨before', behind', rfl, first', own', last'⟩ := exists_of_value? mine' unique' hs'
    rw [allDropped_append, allDropped_append]
    -- First the sessions before that of the target, then that one, then those behind it.
    have te₁ := te.allDropped fun entry there => (first entry there).1
    have tg₁ := tg.allDropped fun entry there => (first' entry there).1
    have a₁ := a.othersDropped te tg first first'
    have script₁ : (e.allDropped before).host.script = (g.allDropped before').host.script := by
      rw [(beside_allDropped e before).script, (beside_allDropped g before').script, script]
    rw [← made_allDropped e before] at p own last
    rw [← made_allDropped g before'] at p own' last'
    have a₂ := a₁.dropped script₁ p
    have a₃ := a₂.othersDropped (te₁.dropped own) (tg₁.dropped own') last last'
    exact a₃

end AllDropped

theorem unnoticed : Frame Unnoticed where
  refl _ := ⟨fun _ => rfl, rfl, rfl, rfl, rfl, rfl⟩
  trans a b := ⟨fun k => (b.roster k).trans (a.roster k), b.converts.trans a.converts,
    b.pool.trans a.pool, b.script.trans a.script, b.cancelled.trans a.cancelled,
    b.dials.trans a.dials⟩

section ClosePool

variable {e g : Estate} {key : LinkKey}

theorem Abreast.unnoticed (a : e.Abreast key g) {h' g' : Host} (left : Unnoticed e.host h')
    (right : Unnoticed g.host g') :
    ({ e with host := h' } : Estate).Abreast key { g with host := g' } where
  equal := a.equal
  twin := by
    refine ⟨a.twin.single, fun k n n' p => ?_,
      fun s s' p => (a.twin.lodges s s' p).of_rosters left.roster, ?_, ?_⟩
    · rw [left.roster, right.roster]
      exact a.twin.member k n n' p
    · rw [left.converts, right.converts, a.twin.converts]
    · rw [left.pool, right.pool]
      exact a.twin.pool
  seen := a.seen

theorem Abreast.cleared (a : e.Abreast key g) : e.cleared.Abreast key g.cleared where
  equal := a.equal
  twin :=
    have roster (h : Host) (pool : Pool) (k : Book) :
        ({ h.fed .quiet with pool } : Host).roster k = h.roster k := by cases k <;> rfl
    { single := a.twin.single
      member := fun k n n' p => by
        rw [Estate.cleared, Estate.cleared, roster, roster]
        exact a.twin.member k n n' p
      lodges := fun s s' p => (a.twin.lodges s s' p).of_rosters (roster e.host _)
      converts := a.twin.converts
      pool := ⟨a.twin.pool.settings, rfl, a.twin.pool.breaker, .none⟩ }
  seen := a.seen

theorem Tended.cleared (te : e.Tended) : e.cleared.Tended where
  abreast key := (te.abreast key).cleared
  apart := te.apart
  unique := List.nodup_nil

theorem Tended.mine_shared (te : e.Tended) :
    ∀ entry ∈ e.host.pool.shared, entry.2 ∈ e.made entry.1 .sessions := by
  rintro ⟨key, s⟩ there
  have shared := (te.abreast key).twin.pool.shared
  rw [Ledger.value?_of_mem te.unique there] at shared
  cases shared with
  | some p =>
    obtain ⟨i, found, -⟩ := p
    exact List.mem_of_getElem? found

theorem host_allDropped (e : Estate) (shared : Ledger LinkKey Nat) :
    (e.allDropped shared).host
      = shared.foldl (fun h entry => (h.act (Action.discard entry.2 false)).2) e.host := by
  induction shared generalizing e with
  | nil => rfl
  | cons entry shared ih => exact ih (e.dropped entry.2)

/-- Closing the pool closes what it shares, and is noted for each connector. -/
theorem unnoticed_closePool (e : Estate) :
    Unnoticed (e.cleared.allDropped e.host.pool.shared).host (e.done .closePool).host := by
  have closed : (e.host.fed .quiet).act Action.closePool
      = ((e.cleared.allDropped e.host.pool.shared).host.act
          (e.host.pool.connectors.forM fun entry => Action.note (.disposed entry.2))) := by
    have discarded := Action.act_forM
      (fun entry : LinkKey × Nat => Action.discard_succeeds entry.2) e.host.pool.shared
      e.cleared.host
    have revised : (e.host.fed .quiet).act (Action.revisePool fun pool =>
        { pool with shared := [], connectors := [] }) = (.ok (), e.cleared.host) := rfl
    rw [host_allDropped, Action.closePool, Host.act_get_bind, Host.act_bind_ok _ revised]
    exact Host.act_bind_ok _ discarded
  have noted : Action.Keeps Unnoticed
      (e.host.pool.connectors.forM fun entry => Action.note (.disposed entry.2)) :=
    .of_forM unnoticed _ fun _ => .of_modify fun h =>
      ⟨fun k => by cases k <;> rfl, rfl, rfl, rfl, rfl, rfl⟩
  have e' : (e.done .closePool).host = ((e.host.fed .quiet).act Action.closePool).2 :=
    congrArg Prod.snd (Host.act_silently _ _)
  rw [e', closed]
  exact noted _

theorem pool_closePool (e : Estate) :
    (e.done .closePool).host.pool = { e.host.pool with shared := [], connectors := [] } := by
  rw [(unnoticed_closePool e).pool, (beside_allDropped e.cleared e.host.pool.shared).pool]
  rfl

/-- The pool is closed on both sides. -/
theorem Abreast.closePool (te : e.Tended) (tg : g.Tended) (a : e.Abreast key g) :
    (e.done .closePool).Abreast key (g.done .closePool) := by
  have dropped := a.cleared.allDropped te.cleared tg.cleared rfl te.mine_shared tg.mine_shared
    te.unique tg.unique a.twin.pool.shared
  have closed := dropped.unnoticed (unnoticed_closePool e) (unnoticed_closePool g)
  have same (e : Estate) : { e.cleared.allDropped e.host.pool.shared with
      host := (e.done .closePool).host } = e.done .closePool := by
    simp only [made_allDropped, seen_allDropped]
    rfl
  rw [same, same] at closed
  exact closed

theorem Tended.closePool (te : e.Tended) : (e.done .closePool).Tended where
  abreast key := (te.abreast key).closePool te te
  apart := te.apart
  unique := by
    rw [pool_closePool]
    exact List.nodup_nil

end ClosePool

/-! ### Deeds -/

section Deeds

variable {e g : Estate} {key : LinkKey}

theorem roster_join (h : Host) (convert : Value → Except Fault Value) (k : Book) :
    (h.perform (.join convert)).2.roster k = h.roster k := by
  cases k <;> rfl

theorem twin_join {φ : Matching} {h g : Host} (twin : Twin key φ h g)
    (convert : Value → Except Fault Value) :
    Twin key φ (h.perform (.join convert)).2 (g.perform (.join convert)).2 where
  single := twin.single
  member k n n' p := by
    rw [roster_join, roster_join]
    exact twin.member k n n' p
  lodges s s' p := (twin.lodges s s' p).of_rosters fun k => roster_join h convert k
  converts := by
    have converts (h : Host) :
        (h.perform (.join convert)).2.converts = h.converts ++ [convert] := List.map_append
    rw [converts, converts, twin.converts]
  pool := twin.pool

theorem Tended.done (te : e.Tended) (deed : Deed) : (e.done deed).Tended := by
  cases deed with
  | work key script o => exact te.worked key script o
  | join convert =>
    exact ⟨fun key => ⟨fun _ => rfl, twin_join (te.abreast key).twin convert, rfl⟩, te.apart,
      te.unique⟩
  | closePool => exact te.closePool

theorem Tended.after (te : e.Tended) (deeds : List Deed) : (e.after deeds).Tended := by
  induction deeds generalizing e with
  | nil => exact te
  | cons deed deeds ih => exact ih (te.done deed)

/-- A deed that concerns a target keeps estates abreast for it. -/
theorem Abreast.done (te : e.Tended) (tg : g.Tended) (a : e.Abreast key g) {deed : Deed}
    (concerns : deed.concerns key) : (e.done deed).Abreast key (g.done deed) := by
  cases deed with
  | work key' script o =>
    obtain rfl : key' = key := by simpa [Deed.concerns] using concerns
    exact a.worked script o
  | join convert => exact ⟨a.equal, twin_join a.twin convert, a.seen⟩
  | closePool => exact a.closePool te tg

/-- A deed that does not concern a target makes no difference for it. -/
theorem Abreast.skip (te : e.Tended) (a : e.Abreast key g) {deed : Deed}
    (other : deed.concerns key = false) : (e.done deed).Abreast key g := by
  cases deed with
  | work key' script o =>
    have ne : key ≠ key' := fun same => by simp [Deed.concerns, same] at other
    rcases worked_cases (te.abreast key') script o with same | ⟨fault, h', same, r⟩
    · exact (congrArg (Estate.Abreast key · g) same).mpr a
    · refine (congrArg (Estate.Abreast key · g) same).mpr ?_
      exact a.spared ne (spared_of_inStep r) (.refl key' (fun _ _ => False) g.host)
        (te.foreign ne) (fun _ _ _ => id) (made_left_of_ne e fault h' ne) rfl
        (seen_left_of_ne e fault h' ne) rfl
  | join convert => cases other
  | closePool => cases other

/-- What is done for other targets can be left out. -/
theorem Abreast.after_filter (te : e.Tended) (tg : g.Tended) (a : e.Abreast key g)
    (deeds : List Deed) :
    (e.after deeds).Abreast key (g.after (deeds.filter (·.concerns key))) := by
  induction deeds generalizing e g with
  | nil => exact a
  | cons deed deeds ih =>
    rw [List.filter_cons]
    split
    next concerns => exact ih (te.done deed) (tg.done deed) (a.done te tg concerns)
    next other => exact ih (te.done deed) tg (a.skip te (by simpa using other))

theorem tended_start {pool : Pool} (level : Level) (unshared : pool.shared = []) :
    (start pool level).Tended where
  abreast key := by
    refine ⟨fun _ => rfl, ⟨?_, ?_, ?_, rfl, rfl, rfl, rfl, ?_⟩, rfl⟩
    · rintro k n n' m m' ⟨i, found, -⟩
      cases found
    · rintro k n n' ⟨i, found, -⟩
      cases found
    · rintro s s' ⟨i, found, -⟩
      cases found
    · rw [show (start pool level).host.pool.shared = [] from unshared]
      exact .none
  apart _ _ _ _ mine := by cases mine
  unique := by
    rw [show (start pool level).host.pool.shared = [] from unshared]
    exact List.nodup_nil

theorem heard_start {pool : Pool} (level : Level) (lasting : 0 < pool.resetTimeout)
    (unused : pool.breakers = []) : (start pool level).Heard := by
  intro key
  have none {breaker} : (start pool level).host.pool.breakers.value? key ≠ some breaker := by
    rw [show (start pool level).host.pool.breakers = [] from unused]
    exact nofun
  exact ⟨lasting, fun _ => rfl, fun _ there => absurd there none,
    fun _ there => absurd there none, fun _ there => absurd there none⟩

theorem Tended.heard_done (te : e.Tended) (heard : e.Heard) (deed : Deed) :
    (e.done deed).Heard := by
  cases deed with
  | work key script o => exact te.heard_worked heard key script o
  | join convert => exact heard
  | closePool =>
    exact fun key => (heard key).of_same (by rw [pool_closePool]; rfl) (by rw [pool_closePool])

theorem Tended.heard_after (te : e.Tended) (heard : e.Heard) (deeds : List Deed) :
    (e.after deeds).Heard := by
  induction deeds generalizing e with
  | nil => exact heard
  | cons deed deeds ih => exact ih (te.done deed) (te.heard_done heard deed)

theorem Tended.settings_done (te : e.Tended) (deed : Deed) :
    (e.done deed).host.pool.settings = e.host.pool.settings := by
  cases deed with
  | work key script o =>
    rcases worked_cases (te.abreast key) script o with same | ⟨fault, h', same, r⟩
    · exact congrArg (fun e : Estate => e.host.pool.settings) same
    · exact (congrArg (fun e : Estate => e.host.pool.settings) same).trans
        (spared_of_inStep r).pool.settings
  | join convert => rfl
  | closePool =>
    rw [pool_closePool]
    rfl

theorem Tended.settings_after (te : e.Tended) (deeds : List Deed) :
    (e.after deeds).host.pool.settings = e.host.pool.settings := by
  induction deeds generalizing e with
  | nil => rfl
  | cons deed deeds ih => exact (ih (te.done deed)).trans (te.settings_done deed)

theorem Tended.dials_done (te : e.Tended) (heard : e.Heard)
    (tripped : e.host.pool.Tripped (e.dials key))
    (deed : Deed) : (e.done deed).dials key = e.dials key := by
  cases deed with
  | work key' script o =>
    by_cases own : key' = key
    · subst own
      exact te.dials_worked heard tripped script o
    · have ne : key ≠ key' := fun same => own same.symm
      rcases worked_cases (te.abreast key') script o with same | ⟨fault, h', same, r⟩
      · exact congrArg (Estate.dials · key) same
      · refine (congrArg (Estate.dials · key) same).trans ?_
        rw [Estate.dials, seen_left_of_ne e fault h' ne, Estate.dials]
  | join convert => rfl
  | closePool => rfl

/-- Where connecting to a target has failed so often that its breaker is open, nothing that is done
connects to it again. -/
theorem Tended.dials_after (te : e.Tended) (heard : e.Heard)
    (tripped : e.host.pool.Tripped (e.dials key))
    (deeds : List Deed) : (e.after deeds).dials key = e.dials key := by
  induction deeds generalizing e with
  | nil => rfl
  | cons deed deeds ih =>
    have dials := te.dials_done heard tripped deed
    have tripped' : (e.done deed).host.pool.Tripped ((e.done deed).dials key) := by
      rw [dials]
      exact tripped.of_settings (te.settings_done deed)
    exact (ih (te.done deed) (te.heard_done heard deed) tripped').trans dials

end Deeds

end Estate

end LinkedTables
