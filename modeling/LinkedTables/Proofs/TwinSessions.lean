import LinkedTables.Proofs.TwinHosts

/-!
# Sessions of twins

Whatever is done with a session of one host and with its counterpart of the other, both stay in
step: statements are prepared, executed and closed alike (`brings_executeStatement`), and sessions
are acquired and given back alike (`brings_acquire`, `alike_release`). The breaker of the target
counts every connect and nothing else on the way (`coupled_connectGuarded`).
-/

namespace LinkedTables

/-! ### Statements that wait in a cache -/

section SameIdle

variable {φ : Matching} {idle idle' : Ledger String Nat}

theorem value?_of_sameIdle (same : List.Forall₂ (SameIdle φ) idle idle') (sql : String) :
    (idle.value? sql).Rel (φ .statements) (idle'.value? sql) := by
  induction same with
  | nil => exact .none
  | @cons e e' rest rest' first _ ih =>
    obtain ⟨text, st⟩ := e
    obtain ⟨_, st'⟩ := e'
    obtain ⟨rfl, p⟩ := first
    by_cases here : text = sql
    · simp only [Ledger.value?, here, if_true]
      exact .some p
    · simp only [Ledger.value?, here, if_false]
      exact ih

theorem drop_of_sameIdle (same : List.Forall₂ (SameIdle φ) idle idle') (sql : String) :
    List.Forall₂ (SameIdle φ) (idle.drop sql) (idle'.drop sql) := by
  induction same with
  | nil => exact .nil
  | @cons e e' rest rest' first _ ih =>
    have text : e'.1 = e.1 := first.1.symm
    simp only [Ledger.drop, List.filter_cons, text] at ih ⊢
    split
    · exact .cons first ih
    · exact ih

theorem put_of_sameIdle (same : List.Forall₂ (SameIdle φ) idle idle') (sql : String) {st st' : Nat}
    (p : φ .statements st st') :
    List.Forall₂ (SameIdle φ) (idle.put sql st) (idle'.put sql st') := by
  induction same with
  | nil => exact .cons ⟨rfl, p⟩ .nil
  | @cons e e' rest rest' first others ih =>
    obtain ⟨text, old⟩ := e
    obtain ⟨_, old'⟩ := e'
    obtain ⟨rfl, q⟩ := first
    by_cases here : text = sql
    · simp only [Ledger.put, here, if_true]
      exact .cons ⟨rfl, p⟩ others
    · simp only [Ledger.put, here, if_false]
      exact .cons ⟨rfl, q⟩ ih

end SameIdle

namespace Scene

open LinkedTables.Action

variable {S : Scene} {K : Matching} {α β : Type}

/-- What is found to be paired may be used from then on. -/
theorem coupled_get {f : Host → Action α} {f' : Host → Action β} {Q : α → β → Host → Host → Prop}
    (hf : ∀ h g, S.At (S.pairs h) h g → K.Within (S.pairs h) →
      Coupled (S.At (S.pairs h)) (f h) (f' g) Q (S.At (S.pairs h))) :
    Coupled (S.At K) (get >>= f) (get >>= f') Q (S.At K) := by
  refine Coupled.get_bind fun h g r => Coupled.mono (hf h g ⟨r.1, .refl _⟩ r.2) ?_
    (fun _ _ _ _ q => q) fun _ _ e => e.mono r.2
  rintro _ _ ⟨rfl, rfl, r⟩
  exact ⟨r.1, .refl _⟩

theorem alike_get {f f' : Host → Action α}
    (hf : ∀ h g, S.At (S.pairs h) h g → K.Within (S.pairs h) →
      Alike (S.At (S.pairs h)) (f h) (f' g)) :
    Alike (S.At K) (get >>= f) (get >>= f') :=
  coupled_get fun h g r within =>
    Leads.behind (hf h g r within) (fun _ _ _ r => r.mono within) fun _ _ e => e

/-- What is found may be used for the next change. -/
theorem alike_get_at {f f' : Host → Action α}
    (hf : ∀ h g, S.At (S.pairs h) h g → K.Within (S.pairs h) →
      Leads (fun h' g' => h' = h ∧ g' = g ∧ S.At (S.pairs h) h g) (f h) (f' g)
        (fun _ => S.At (S.pairs h)) (S.At (S.pairs h))) :
    Alike (S.At K) (get >>= f) (get >>= f') := by
  refine Coupled.get_bind fun h g r => Coupled.mono (hf h g ⟨r.1, .refl _⟩ r.2) ?_ ?_ ?_
  · exact fun _ _ q => ⟨q.1, q.2.1, q.2.2.1, .refl _⟩
  · exact fun _ _ _ _ q => ⟨q.1, q.2.mono r.2⟩
  · exact fun _ _ e => e.mono r.2

theorem alike_forM {ι : Type} {P : ι → ι → Prop} {l l' : List ι} {f f' : ι → Action Unit}
    (same : List.Forall₂ P l l') (hf : ∀ i i', P i i' → Alike (S.At K) (f i) (f' i')) :
    Alike (S.At K) (l.forM f) (l'.forM f') := by
  induction same with
  | nil => exact Steady.of_pure ()
  | cons first _ ih => exact Leads.bind (hf _ _ first) fun _ => ih

/-! ### Statements -/

section Statements

variable {s s' st st' : Nat}

theorem At.session {h g : Host} (r : S.At K h g) (hs : K .sessions s s') :
    ∃ connection cache, g.session s' = { h.session s with connection, cache } :=
  let ⟨_, connection, cache, e, _⟩ := r.resembles hs
  ⟨connection, cache, e⟩

theorem At.statement {h g : Host} (r : S.At K h g) (hst : K .statements st st') :
    ∃ session result, g.statement st' = { h.statement st with session, result } ∧
      S.pairs h .sessions (h.statement st).session session ∧
      (h.statement st).result.Rel (S.pairs h .results) result :=
  r.resembles hst

theorem At.result {h g : Host} (r : S.At K h g) {n n' : Nat} (hn : K .results n n') :
    ∃ connection, g.result n' = { h.result n with connection } :=
  r.resembles hn

theorem brings_prepare (hs : K .sessions s s') (sql : String) (fetchSize : Int) :
    S.Brings K .statements (prepare s sql fetchSize) (prepare s' sql fetchSize) :=
  brings_join (k := .statements) trivial fun _ within =>
    ⟨s', none, rfl, within _ _ _ hs, .none⟩

theorem alike_closeResult (hst : K .statements st st') :
    Alike (S.At K) (closeResult st) (closeResult st') := by
  refine alike_get fun h g r within => ?_
  have hst := within _ _ _ hst
  obtain ⟨session, result, e, -, rel⟩ := r.statement hst
  rw [e]
  dsimp only
  generalize (h.statement st).result = own at rel ⊢
  cases rel with
  | none => exact Steady.of_pure ()
  | some hr =>
    refine Leads.bind (leads_note rfl rfl) fun _ => ?_
    refine Leads.bind (leads_revise (k := .results) hr (fun _ => trivial)
      fun φ x y _ same => ?_) fun _ => ?_
    · obtain ⟨connection, rfl⟩ := same
      exact ⟨connection, rfl⟩
    · refine leads_revise (k := .statements) hst (fun _ _ => rfl) fun φ x y _ same => ?_
      obtain ⟨session, result, rfl, own, -⟩ := same
      exact ⟨session, none, rfl, own, .none⟩

theorem alike_closeStatement (hst : K .statements st st') :
    Alike (S.At K) (closeStatement st) (closeStatement st') := by
  refine Leads.bind (alike_closeResult hst) fun _ => ?_
  refine leads_revise (k := .statements) hst (fun _ _ => rfl) fun φ x y _ same => ?_
  obtain ⟨session, result, rfl, own, rel⟩ := same
  exact ⟨session, result, rfl, own, rel⟩

theorem brings_executeStatement (hst : K .statements st st') (params : List Value) :
    S.Brings K .results (executeStatement st params) (executeStatement st' params) := by
  refine Leads.bind (alike_closeResult hst) fun _ => coupled_get fun h g r within => ?_
  have hst := within _ _ _ hst
  obtain ⟨session, result, e, own, -⟩ := r.statement hst
  obtain ⟨connection, cache, e'⟩ := r.session own
  rw [e]
  dsimp only
  rw [e']
  dsimp only
  refine Leads.bind (leads_note rfl rfl) fun _ => ?_
  split
  · exact Coupled.of_throw fun _ _ r => r
  refine Leads.bind (leads_fromScript _) fun answer => ?_
  refine Leads.bind (Steady.of_ofExcept answer) fun answer => ?_
  refine Coupled.get_bind fun h' g' r' => ?_
  refine Coupled.modify_bind
    (T := S.At ((S.pairs h).and .results h'.results.next g'.results.next)) ?_ ?_
  · rintro h' g' ⟨rfl, rfl, r⟩
    have told : S.At (S.pairs h) { h' with cancelled := h'.cancelled || answer.cancels }
        { g' with cancelled := g'.cancelled || answer.cancels } :=
      r.cancelled fun c => by rw [r.1.cancelled c]
    exact told.joined (k := .results) (x := ⟨_, answer.rows, false⟩) trivial ⟨connection, rfl⟩
  · refine Leads.bind (leads_revise (k := .statements) (.inl hst) (fun _ _ => rfl)
      fun φ x y within same => ?_)
      fun _ => ?_
    · obtain ⟨session, result, rfl, own, rel⟩ := same
      exact ⟨session, _, rfl, own, .some (within _ _ _ Matching.and_self)⟩
    · exact Coupled.of_pure fun _ _ r => r.mono within.and_and

/-- The next row of a result, up to the end or a fault. -/
theorem alike_fetch {r r' : Nat} (hr : K .results r r') :
    Alike (S.At K) (fetch r) (fetch r') := by
  refine alike_get fun h g at' within => ?_
  have hr := within _ _ _ hr
  obtain ⟨connection, e⟩ := at'.result hr
  rw [e]
  dsimp only
  split
  · exact Steady.of_pure none
  next row rest _ =>
    split
    · exact Steady.of_throw _
    refine Leads.bind (leads_revise (k := .results) hr (fun _ => trivial)
      fun φ x y _ same => ?_) fun _ => ?_
    · obtain ⟨connection, rfl⟩ := same
      exact ⟨connection, rfl⟩
    · cases row with
      | ok values => exact Steady.of_pure (some values)
      | error fault => exact Steady.of_throw fault

/-! ### The cache of a session -/

/-- A statement that is taken out on one side is paired with the one of the other side. -/
theorem coupled_takeStatement (hs : K .sessions s s') (sql : String) :
    Coupled (S.At K) (takeStatement s sql) (takeStatement s' sql)
      (fun st st' h g => S.At K h g ∧ st.Rel (S.pairs h .statements) st') (S.At K) := by
  refine Coupled.get_bind fun h g r => ?_
  obtain ⟨-, connection, cache, e, idle⟩ := r.resembles hs
  have e : g.session s' = { h.session s with connection, cache } := e
  have found : ((h.session s).cache.value? sql).Rel (S.pairs h .statements) (cache.value? sql) :=
    value?_of_sameIdle idle sql
  rw [e]
  dsimp only
  refine Coupled.modify_bind (T := fun h' g' => S.At K h' g' ∧
    ((h.session s).cache.value? sql).Rel (S.pairs h' .statements) (cache.value? sql)) ?_ ?_
  · rintro h' g' ⟨rfl, rfl, r⟩
    refine ⟨r.revised (k := .sessions) hs (fun _ _ there => .inl (Ledger.mem_drop there).1)
      fun x y same => ?_, ?_⟩
    · obtain ⟨target, connection, cache, rfl, idle⟩ := same
      exact ⟨target, connection, _, rfl, drop_of_sameIdle idle sql⟩
    · have size := h'.size_revised .sessions (a := s)
        (f := fun session => { session with cache := session.cache.drop sql })
      exact (pairs_of_size (S := S) size).symm ▸ found
  · exact Coupled.of_pure fun _ _ q => q

theorem alike_putStatement (hs : K .sessions s s') (hst : K .statements st st') (sql : String) :
    Alike (S.At K) (putStatement s sql st) (putStatement s' sql st') := by
  refine alike_get_at fun h g r within => ?_
  have hs := within _ _ _ hs
  have hst := within _ _ _ hst
  obtain ⟨-, connection, cache, e, idle⟩ := r.resembles hs
  have e : g.session s' = { h.session s with connection, cache } := e
  obtain ⟨session, result, e', own, -⟩ := r.statement hst
  have other : (h.statement st).session ≠ s ↔ session ≠ s' :=
    not_congr (r.1.twin.single _ _ _ _ _ own hs)
  rw [e, e']
  simp only [other]
  -- On a session that is closed, or not its own, the statement is closed on both sides.
  split
  · refine Coupled.before (alike_closeStatement hst) ?_
    rintro _ _ ⟨rfl, rfl, r⟩
    exact r
  next fits =>
  have its : (h.statement st).session = s :=
    Classical.byContradiction fun away => fits (by simp [other.mp away])
  refine Leads.bind (show Leads _ _ _ (fun _ => S.At (S.pairs h)) _ from Coupled.of_modify ?_)
    fun _ => ?_
  · rintro _ _ ⟨rfl, rfl, r⟩
    refine ⟨rfl, r.revised (k := .sessions) hs (fun x e there => ?_) fun x y same => ?_⟩
    · exact (Ledger.mem_put there).elim (fun e => .inr (e ▸ its)) .inl
    · obtain ⟨target, connection, cache, rfl, idle⟩ := same
      exact ⟨target, connection, _, rfl, put_of_sameIdle idle sql hst⟩
  -- One that was kept under the text before is closed, unless it is the same.
  have previous : ((h.session s).cache.value? sql).Rel (S.pairs h .statements)
    (cache.value? sql) := value?_of_sameIdle idle sql
  generalize (h.session s).cache.value? sql = o, cache.value? sql = o' at previous ⊢
  cases previous with
  | none => exact Steady.of_pure ()
  | @some a b p =>
    have same : a = st ↔ b = st' := r.1.twin.single _ _ _ _ _ p hst
    dsimp only
    by_cases here : a = st
    · rw [if_neg (not_not_intro here), if_neg (not_not_intro (same.mp here))]
      exact Steady.of_pure ()
    · rw [if_pos here, if_pos (mt same.mpr here)]
      exact alike_closeStatement p

theorem alike_clearStatements (hs : K .sessions s s') :
    Alike (S.At K) (clearStatements s) (clearStatements s') := by
  refine alike_get fun h g r within => ?_
  obtain ⟨-, connection, cache, e, idle⟩ := r.resembles (within _ _ _ hs)
  have e : g.session s' = { h.session s with connection, cache } := e
  rw [e]
  dsimp only
  refine Leads.bind (leads_revise (k := .sessions) (within _ _ _ hs)
    (fun _ _ _ there => by cases there)
    fun φ x y _ same => ?_)
    fun _ => ?_
  · obtain ⟨target, connection, cache, rfl, -⟩ := same
    exact ⟨target, connection, [], rfl, .nil⟩
  · exact alike_forM idle fun _ _ p => alike_closeStatement p.2

theorem alike_discard (hs : K .sessions s s') (force : Bool) :
    Alike (S.At K) (discard s force) (discard s' force) := by
  refine alike_get fun h g r within => ?_
  have hs := within _ _ _ hs
  obtain ⟨connection, cache, e⟩ := r.session hs
  rw [e]
  dsimp only
  split
  · exact Steady.of_pure ()
  refine Leads.bind (leads_revise (k := .sessions) hs (fun _ _ _ => .inl)
    fun φ x y _ same => ?_) fun _ => ?_
  · obtain ⟨target, connection, cache, rfl, idle⟩ := same
    exact ⟨target, connection, cache, rfl, idle⟩
  refine Leads.bind (alike_clearStatements hs) fun _ => ?_
  split
  · refine Leads.bind (leads_note rfl rfl) fun _ => ?_
    refine Leads.bind (leads_fromScript _) fun r => ?_
    exact Leads.bind (leads_note rfl rfl) fun _ => Steady.of_ofExcept r
  · exact leads_note rfl rfl

end Statements

end Scene

/-! ### Sessions that a pool shares -/

namespace Pool

/-- The pool with a session that is shared, if sessions are shared. -/
def sharing (pool : Pool) (key : LinkKey) (s : Nat) : Pool :=
  if pool.shares then { pool with shared := pool.shared.put key s } else pool

/-- The pool without a session that was shared. -/
def unsharing (pool : Pool) (key : LinkKey) (s : Nat) : Pool :=
  if pool.shared.value? key = some s then { pool with shared := pool.shared.drop key } else pool

theorem breakers_sharing (pool : Pool) (key : LinkKey) (s : Nat) :
    (pool.sharing key s).breakers = pool.breakers := by
  unfold sharing
  split <;> rfl

theorem breakers_unsharing (pool : Pool) (key : LinkKey) (s : Nat) :
    (pool.unsharing key s).breakers = pool.breakers := by
  unfold unsharing
  split <;> rfl

end Pool

theorem poolSpared_sharing (pool : Pool) (key : LinkKey) (s : Nat) :
    PoolSpared key pool (pool.sharing key s) := by
  unfold Pool.sharing
  split
  · exact ⟨rfl, fun _ _ => rfl, fun _ _ => rfl, fun _ ne => Ledger.value?_put_of_ne _ _ ne.symm,
      fun unique => Ledger.unique_put unique _ _⟩
  · exact .refl _ _

theorem poolSpared_unsharing (pool : Pool) (key : LinkKey) (s : Nat) :
    PoolSpared key pool (pool.unsharing key s) := by
  unfold Pool.unsharing
  split
  · exact ⟨rfl, fun _ _ => rfl, fun _ _ => rfl, fun _ ne => Ledger.value?_drop_of_ne _ ne.symm,
      fun unique => Ledger.unique_drop unique _⟩
  · exact .refl _ _

/-! ### What a breaker counts -/

section Breaker

variable {pool : Pool} {key : LinkKey} {past : List Bool} {breaker breaker' : Remote.Breaker}

/-- The pool with another breaker for a target. -/
def Pool.withBreaker (pool : Pool) (key : LinkKey) (breaker : Remote.Breaker) : Pool :=
  { pool with breakers := pool.breakers.put key breaker }

theorem poolSpared_withBreaker (pool : Pool) (key : LinkKey) (breaker : Remote.Breaker) :
    PoolSpared key pool (pool.withBreaker key breaker) :=
  ⟨rfl, fun _ _ => rfl, fun _ ne => Ledger.value?_put_of_ne _ _ ne.symm, fun _ _ => rfl, id⟩

/-- A breaker that lets a call through is not open. -/
theorem state_of_allow {notices : List Notice} (e : breaker.allow = .ok (breaker', notices)) :
    breaker'.state ≠ .opened := by
  unfold Remote.Breaker.allow at e
  split at e
  next shut =>
    cases e
    exact shut
  next =>
    split at e
    · cases e
      exact nofun
    · cases e

namespace Pool.Counts

variable (c : pool.Counts key past)
include c

/-- What is known of a breaker that is kept is known of the pool that keeps it. -/
theorem withBreaker {dials : List Bool} (readable : ∃ url, Remote.Url.read key.url = .ok url)
    (failMax : breaker.failMax = pool.failMax)
    (resetTimeout : breaker.resetTimeout = pool.resetTimeout)
    (failures : breaker.failures = misses dials)
    (state : breaker.state = if pool.Tripped dials then .opened else .shut) :
    (pool.withBreaker key breaker).Counts key dials where
  lasting := c.lasting
  unused none := by rw [Pool.withBreaker, Ledger.value?_put_self] at none; cases none
  readable _ _ := readable
  made _ kept := by
    rw [Pool.withBreaker, Ledger.value?_put_self] at kept
    cases kept
    exact ⟨failMax, resetTimeout⟩
  counted _ kept := by
    rw [Pool.withBreaker, Ledger.value?_put_self] at kept
    cases kept
    exact ⟨failures, state⟩

/-- A breaker that is made when it is first needed has nothing to count yet. -/
theorem begin (unused : pool.breakers.value? key = none) {url : Remote.Url}
    (readable : Remote.Url.read key.url = .ok url) (name : String) :
    (pool.withBreaker key (.make name pool.failMax pool.resetTimeout)).Counts key past := by
  obtain rfl := c.unused unused
  refine c.withBreaker ⟨url, readable⟩ rfl rfl rfl ?_
  rw [if_neg fun tripped => absurd tripped.1 (by decide)]
  rfl

variable (kept : pool.breakers.value? key = some breaker)
include kept

/-- A breaker that counts lets a call through as it is, and only if it is shut. -/
theorem allowed {notices : List Notice} (e : breaker.allow = .ok (breaker', notices)) :
    breaker' = breaker ∧ ¬ pool.Tripped past := by
  obtain ⟨-, resetTimeout⟩ := c.made _ kept
  obtain ⟨-, state⟩ := c.counted _ kept
  by_cases tripped : pool.Tripped past
  · rw [if_pos tripped] at state
    have waiting : ¬ breaker.resetTimeout ≤ 0 := by
      have := c.lasting
      omega
    simp [Remote.Breaker.allow, Remote.Breaker.isOver, state, waiting] at e
  · rw [if_neg tripped] at state
    simp only [Remote.Breaker.allow, state, ne_eq, reduceCtorEq, not_false_eq_true, if_true] at e
    cases e
    exact ⟨rfl, tripped⟩

variable (cleared : ¬ pool.Tripped past)
include cleared

/-- A success is counted. -/
theorem succeed : (pool.withBreaker key breaker.succeed.1).Counts key (true :: past) := by
  obtain ⟨failMax, resetTimeout⟩ := c.made _ kept
  obtain ⟨-, state⟩ := c.counted _ kept
  rw [if_neg cleared] at state
  have still : breaker.succeed.1 = { breaker with failures := 0 } := by
    simp [Remote.Breaker.succeed, state]
  rw [still]
  refine c.withBreaker (c.readable _ kept) failMax resetTimeout rfl ?_
  rw [if_neg fun tripped => absurd tripped.1 (by simp [misses])]
  exact state

/-- A failure is counted. -/
theorem fail (fault : Fault) :
    (pool.withBreaker key (breaker.fail fault).2.1).Counts key (false :: past) := by
  obtain ⟨failMax, resetTimeout⟩ := c.made _ kept
  obtain ⟨failures, state⟩ := c.counted _ kept
  rw [if_neg cleared] at state
  have missed : misses (false :: past) = misses past + 1 := by simp [misses]
  have tripped : pool.Tripped (false :: past) ↔ breaker.failMax ≤ breaker.failures + 1 := by
    rw [Pool.Tripped, missed, failMax, failures]
    omega
  have opens : (breaker.fail fault).2.1 = { breaker with
      failures := breaker.failures + 1
      state := if breaker.failMax ≤ breaker.failures + 1 then .opened else .shut } := by
    simp only [Remote.Breaker.fail, state, reduceCtorEq, if_false]
    split <;> simp_all [Remote.Breaker.enter]
  rw [opens]
  refine c.withBreaker (c.readable _ kept) failMax resetTimeout (by rw [missed, failures]) ?_
  simp only [tripped]

end Pool.Counts

/-- Behind a host its pool keeps another breaker for the target, which has counted the connects that
were made in between. -/
structure Told (key : LinkKey) (breaker : Remote.Breaker) (new : List Bool) (h h' : Host) :
    Prop where
  roster : ∀ k, h'.roster k = h.roster k
  converts : h'.converts = h.converts
  cancelled : h'.cancelled = h.cancelled
  pool : h'.pool = h.pool.withBreaker key breaker
  dialled : Dialled key new h h'

namespace Told

variable {h : Host}

theorem kept (counts : ∀ past, h.pool.Counts key past →
      (h.pool.withBreaker key breaker).Counts key past) :
    Told key breaker [] h { h with pool := h.pool.withBreaker key breaker } :=
  ⟨fun k => by cases k <;> rfl, rfl, rfl, rfl, rfl, rfl, counts, fun _ _ _ => rfl⟩

theorem called {ok : Bool} {n : Nat} {script : Remote.Script}
    (counts : ∀ past, h.pool.Counts key past →
      (h.pool.withBreaker key breaker).Counts key (ok :: past))
    (cleared : ∀ past, h.pool.Counts key past → ¬ h.pool.Tripped past) :
    Told key breaker [ok] h { h with
      script, connects := n, journal := .connected n ok :: h.journal
      pool := h.pool.withBreaker key breaker } :=
  ⟨fun k => by cases k <;> rfl, rfl, rfl, rfl, rfl, rfl, counts, fun past c tripped =>
    absurd tripped (cleared past c)⟩

end Told

end Breaker

namespace Scene

open LinkedTables.Action

variable {S : Scene} {K : Matching} {α β : Type}

/-! ### The breaker of the target -/

theorem alike_reportAll (notices : List Notice) :
    Alike (S.At K) (reportAll notices) (reportAll notices) :=
  Alike.of_forM notices fun notice => leads_report notice notice

theorem alike_connectorFor : Alike (S.At K) (connectorFor S.key) (connectorFor S.key) := by
  refine Coupled.get_bind' fun h g r => ?_
  dsimp only
  rw [← r.1.twin.pool.connector]
  split
  next url _ => exact Steady.of_pure url
  refine Leads.bind (Steady.of_ofExcept _) fun url => ?_
  refine Leads.bind (leads_note rfl rfl) fun _ => ?_
  refine Leads.bind (leads_fromScript _) fun made => ?_
  refine Leads.bind (Steady.of_ofExcept made) fun _ => ?_
  refine Leads.bind (show Leads _ _ _ (fun _ => S.At K) _ from ?_) fun _ => Steady.of_pure url
  have spared (pool : Pool) :
      PoolSpared S.key pool { pool with connectors := pool.connectors.put S.key url } :=
    ⟨rfl, fun _ ne => Ledger.value?_put_of_ne _ _ ne.symm, fun _ _ => rfl, fun _ _ => rfl, id⟩
  refine Coupled.of_modify fun h g r => ⟨rfl, ?_⟩
  refine r.pooled ⟨r.1.twin.pool.settings, ?_, r.1.twin.pool.breaker, r.1.twin.pool.shared⟩
    (spared _) (spared _) rfl rfl
  dsimp only
  rw [Ledger.value?_put_self, Ledger.value?_put_self]

/-- The pool keeps a certain breaker for the target. -/
def Facing (S : Scene) (K : Matching) (breaker : Remote.Breaker) (h g : Host) : Prop :=
  S.At K h g ∧ h.pool.breakers.value? S.key = some breaker

/-- The pool keeps a certain breaker for the target, which lets the next call through. -/
def Cleared (S : Scene) (K : Matching) (breaker : Remote.Breaker) (h g : Host) : Prop :=
  S.Facing K breaker h g ∧ ∀ past, h.pool.Counts S.key past → ¬ h.pool.Tripped past

/-- A call has been made through a breaker that has not been told of it. -/
def Called (S : Scene) (K : Matching) (breaker : Remote.Breaker) (ok : Bool) (h g : Host) : Prop :=
  ∃ h₁ g₁ n n' script, S.Cleared K breaker h₁ g₁ ∧
    h = { h₁ with script, connects := n, journal := .connected n ok :: h₁.journal } ∧
    g = { g₁ with script, connects := n', journal := .connected n' ok :: g₁.journal }

section Breaker

variable {breaker breaker' : Remote.Breaker} {h g : Host}

theorem Facing.right (r : S.Facing K breaker h g) :
    g.pool.breakers.value? S.key = some breaker :=
  r.1.1.twin.pool.breaker.symm.trans r.2

theorem Facing.unnoticed {h' g' : Host} (r : S.Facing K breaker h g) (left : Unnoticed h h')
    (right : Unnoticed g g') : S.Facing K breaker h' g' :=
  ⟨r.1.unnoticed left right, by rw [left.pool]; exact r.2⟩

theorem Cleared.unnoticed {h' g' : Host} (r : S.Cleared K breaker h g) (left : Unnoticed h h')
    (right : Unnoticed g g') : S.Cleared K breaker h' g' :=
  ⟨r.1.unnoticed left right, by rw [left.pool]; exact r.2⟩

theorem Cleared.right (r : S.Cleared K breaker h g) (past : List Bool)
    (c : g.pool.Counts S.key past) : ¬ g.pool.Tripped past := by
  have same := r.1.1.1.twin.pool
  have cleared := r.2 past (c.of_same same.settings same.breaker)
  have e := same.settings
  simp only [Pool.settings, Prod.mk.injEq] at e
  rw [Pool.Tripped, ← e.2.1]
  exact cleared

/-- Another breaker is kept on both sides, and it knows of the connects in between. -/
theorem At.told {h' g' : Host} {new : List Bool} (r : S.At K h g)
    (left : Told S.key breaker new h h') (right : Told S.key breaker new g g')
    (script : h'.script = g'.script) : S.Facing K breaker h' g' := by
  have size (k : Book) : h'.size k = h.size k := by rw [Host.size, left.roster]; rfl
  have twin : PoolTwin S.key (S.pairs h) h'.pool g'.pool := by
    rw [left.pool, right.pool]
    refine ⟨r.1.twin.pool.settings, r.1.twin.pool.connector, ?_, r.1.twin.pool.shared⟩
    simp only [Pool.withBreaker, Ledger.value?_put_self]
  refine ⟨⟨r.1.beside left.roster right.roster left.converts right.converts twin
    (left.pool ▸ poolSpared_withBreaker _ _ _) (right.pool ▸ poolSpared_withBreaker _ _ _) script
    ?_ left.dialled right.dialled, ?_⟩, ?_⟩
  · rw [left.cancelled, right.cancelled]
    exact r.1.cancelled
  · rw [pairs_of_size size]
    exact r.2
  · rw [left.pool, Pool.withBreaker, Ledger.value?_put_self]

/-- A breaker is kept before any call is made. -/
theorem At.keepBreaker (r : S.At K h g)
    (counts : ∀ past, h.pool.Counts S.key past →
      (h.pool.withBreaker S.key breaker).Counts S.key past)
    (counts' : ∀ past, g.pool.Counts S.key past →
      (g.pool.withBreaker S.key breaker).Counts S.key past) :
    S.Facing K breaker { h with pool := h.pool.withBreaker S.key breaker }
      { g with pool := g.pool.withBreaker S.key breaker } :=
  r.told (.kept counts) (.kept counts') r.1.script

/-- The breaker is told of the call. -/
theorem Called.keepBreaker {ok : Bool} (r : S.Called K breaker ok h g)
    (counts : ∀ (pool : Pool) past, pool.Counts S.key past →
      pool.breakers.value? S.key = some breaker → ¬ pool.Tripped past →
      (pool.withBreaker S.key breaker').Counts S.key (ok :: past)) :
    S.At K { h with pool := h.pool.withBreaker S.key breaker' }
      { g with pool := g.pool.withBreaker S.key breaker' } := by
  obtain ⟨h₁, g₁, n, n', script, r, rfl, rfl⟩ := r
  have left : Told S.key breaker' [ok] h₁ { h₁ with
      script, connects := n, journal := .connected n ok :: h₁.journal
      pool := h₁.pool.withBreaker S.key breaker' } :=
    .called (fun past c => counts _ past c r.1.2 (r.2 past c)) r.2
  have right : Told S.key breaker' [ok] g₁ { g₁ with
      script, connects := n', journal := .connected n' ok :: g₁.journal
      pool := g₁.pool.withBreaker S.key breaker' } :=
    .called (fun past c => counts _ past c r.1.right (r.right past c)) r.right
  exact (r.1.1.told left right rfl).1

end Breaker

theorem coupled_breakerFor :
    Leads (S.At K) (breakerFor S.key) (breakerFor S.key) (fun breaker => S.Facing K breaker)
      (S.At K) := by
  refine Coupled.get_bind fun h g r => ?_
  have twin := r.1.twin.pool
  dsimp only
  rw [← twin.breaker]
  -- Either both pools keep the same breaker for the target, or both make one by the same settings.
  cases kept : h.pool.breakers.value? S.key with
  | some breaker =>
    refine Leads.of_pure breaker ?_
    rintro _ _ ⟨rfl, rfl, r⟩
    exact ⟨r, kept⟩
  | none =>
    cases readable : Remote.Url.read S.key.url with
    | error fault =>
      refine Coupled.of_throw ?_
      rintro _ _ ⟨rfl, rfl, r⟩
      exact r
    | ok url =>
      have settings := twin.settings
      simp only [Pool.settings, Prod.mk.injEq] at settings
      rw [← settings.2.1, ← settings.2.2]
      refine Coupled.ok_bind ?_
      generalize made : Remote.Breaker.make (breakerName url) h.pool.failMax h.pool.resetTimeout
        = breaker
      refine Leads.bind (show Leads _ _ _ (fun _ => S.Facing K breaker) _ from ?_) fun _ =>
        Leads.of_pure breaker fun _ _ r => r
      refine Coupled.of_modify ?_
      rintro h g ⟨rfl, rfl, r⟩
      refine ⟨rfl, r.keepBreaker (fun past c => ?_) fun past c => ?_⟩
      · rw [← made]
        exact c.begin kept readable _
      · rw [← made, settings.2.1, settings.2.2]
        exact c.begin (twin.breaker.symm.trans kept) readable _

theorem coupled_connectOnce {breaker : Remote.Breaker} :
    Coupled (S.Cleared K breaker) connectOnce connectOnce
      (Ends (fun _ _ => S.Called K breaker true) (S.Called K breaker false)) (S.At K) := by
  intro h g r
  have script := r.1.1.1.script
  have made (h : Host) : h.act connectOnce
      = (.ok (h.script.connect.1.map fun _ => h.connects + 1), { h with
          script := h.script.connect.2
          connects := h.connects + 1
          journal := .connected (h.connects + 1) h.script.connect.1.toBool :: h.journal }) := rfl
  rw [made, made, ← script]
  refine .value ?_
  generalize h.script.connect = outcome
  obtain ⟨fault | _, script⟩ := outcome
  · exact .fault ⟨h, g, _, _, script, r, rfl, rfl⟩
  · exact .value ⟨h, g, _, _, script, r, rfl, rfl⟩

/-- Connecting through the breaker of the target. -/
theorem coupled_connectGuarded :
    Coupled (S.At K) (connectGuarded S.key) (connectGuarded S.key) (fun _ _ => S.At K)
      (S.At K) := by
  refine Leads.bind coupled_breakerFor fun breaker => ?_
  cases allowed : breaker.allow with
  | error fault => exact Coupled.of_throw fun _ _ r => r.1
  | ok p =>
    obtain ⟨breaker', notices⟩ := p
    refine Coupled.ok_bind ?_
    -- The breaker that is kept has let the connect through, so the target has not tripped it.
    have cleared : Leads (S.Facing K breaker) (keepBreaker S.key breaker')
        (keepBreaker S.key breaker') (fun _ => S.Cleared K breaker') (S.At K) := by
      have counts {pool : Pool} (kept : pool.breakers.value? S.key = some breaker)
          (past : List Bool) (c : pool.Counts S.key past) :
          (pool.withBreaker S.key breaker').Counts S.key past := by
        obtain ⟨rfl, -⟩ := c.allowed kept allowed
        exact c.of_same rfl ((Ledger.value?_put_self ..).trans kept.symm)
      refine Coupled.of_modify fun h g r =>
        ⟨rfl, r.1.keepBreaker (counts r.2) (counts r.right), fun past c tripped => ?_⟩
      obtain ⟨-, state⟩ := c.counted breaker' (Ledger.value?_put_self ..)
      rw [if_pos tripped] at state
      exact state_of_allow allowed state
    have reported : Smooth (S.Cleared K breaker') (reportAll notices) :=
      Smooth.of_forM notices fun notice => Smooth.of_modify fun h g r =>
        r.unnoticed (unnoticed_report h notice) (unnoticed_report g notice)
    refine Leads.bind cleared fun _ => Smooth.bind_coupled reported fun _ => ?_
    refine Coupled.bind coupled_connectOnce fun r r' => Coupled.of_ends ?_ ?_
    · rintro n n' rfl rfl
      refine Leads.bind (show Leads _ _ _ (fun _ => S.At K) _ from ?_) fun _ =>
        Leads.bind (alike_reportAll _) fun _ => Coupled.of_pure fun _ _ r => r
      exact Coupled.of_modify fun h g r => ⟨rfl, r.keepBreaker fun pool past c => c.succeed⟩
    · rintro fault rfl rfl
      refine Leads.bind (show Leads _ _ _ (fun _ => S.At K) _ from ?_) fun _ =>
        Leads.bind (alike_reportAll _) fun _ => Coupled.of_throw fun _ _ r => r
      exact Coupled.of_modify fun h g r => ⟨rfl, r.keepBreaker fun pool past c kept cleared =>
        c.fail kept cleared fault⟩

/-! ### Sessions of the target -/

/-- A session is shared from now on, if sessions are shared. -/
theorem At.sharing {h g : Host} {s s' : Nat} (r : S.At K h g) (p : S.pairs h .sessions s s') :
    S.At K { h with pool := h.pool.sharing S.key s }
      { g with pool := g.pool.sharing S.key s' } := by
  have twin := r.1.twin.pool
  have settings := twin.settings
  simp only [Pool.settings, Prod.mk.injEq] at settings
  refine r.pooled ?_ (poolSpared_sharing ..) (poolSpared_sharing ..)
    (by rw [Pool.breakers_sharing]) (by rw [Pool.breakers_sharing])
  by_cases shares : h.pool.shares = true
  · rw [Pool.sharing, Pool.sharing, if_pos shares, if_pos (settings.1 ▸ shares)]
    refine ⟨twin.settings, twin.connector, twin.breaker, ?_⟩
    simp only [Ledger.value?_put_self]
    exact .some p
  · rw [Pool.sharing, Pool.sharing, if_neg shares, if_neg (settings.1 ▸ shares)]
    exact twin

/-- A session is shared no longer, on both sides or on neither. -/
theorem At.unsharing {h g : Host} {s s' : Nat} (r : S.At K h g) (p : S.pairs h .sessions s s') :
    S.At K { h with pool := h.pool.unsharing S.key s }
      { g with pool := g.pool.unsharing S.key s' } := by
  have twin := r.1.twin.pool
  have same : h.pool.shared.value? S.key = some s ↔ g.pool.shared.value? S.key = some s' := by
    have shared := twin.shared
    generalize h.pool.shared.value? S.key = o, g.pool.shared.value? S.key = o' at shared
    cases shared with
    | none => simp
    | some q => simpa using r.1.twin.single _ _ _ _ _ q p
  refine r.pooled ?_ (poolSpared_unsharing ..) (poolSpared_unsharing ..)
    (by rw [Pool.breakers_unsharing]) (by rw [Pool.breakers_unsharing])
  simp only [Pool.unsharing, same]
  split
  · refine ⟨twin.settings, twin.connector, twin.breaker, ?_⟩
    simp only [Ledger.value?_drop_self]
    exact .none
  · exact twin

/-- The shared sessions of the target that are open are paired. -/
theorem At.sharedSession {h g : Host} (r : S.At K h g) :
    (sharedSession? h S.key).Rel (S.pairs h .sessions) (sharedSession? g S.key) := by
  have settings := r.1.twin.pool.settings
  simp only [Pool.settings, Prod.mk.injEq] at settings
  have shared := r.1.twin.pool.shared
  unfold sharedSession?
  rw [← settings.1]
  split
  · generalize h.pool.shared.value? S.key = o, g.pool.shared.value? S.key = o' at shared
    cases shared with
    | none => exact .none
    | @some s s' p =>
      obtain ⟨connection, cache, e⟩ := At.session (K := S.pairs h) ⟨r.1, .refl _⟩ p
      simp only [Option.filter_some, e]
      split
      · exact .some p
      · exact .none
  · exact .none

/-- A session that is opened is shared under the target, if sessions are shared. -/
theorem brings_openSession : S.Brings K .sessions (openSession S.key) (openSession S.key) := by
  refine Leads.bind alike_connectorFor fun url => ?_
  refine Coupled.bind coupled_connectGuarded fun n n' => ?_
  refine Leads.bind (leads_note rfl rfl) fun _ => ?_
  refine Coupled.get_bind fun h g r => ?_
  generalize its : Dialect.Vendor.ofUrl S.key.url = vendor
  let opened (n : Nat) : Session := ⟨S.key, n, url.dialect, vendor, .none, 1, false, []⟩
  refine Coupled.modify_bind (T := S.At (K.and .sessions h.sessions.next g.sessions.next)) ?_ ?_
  · rintro h g ⟨rfl, rfl, r⟩
    exact r.joined (k := .sessions) (x := opened n) (y := opened n') rfl
      ⟨⟨rfl, its.symm⟩, n', [], rfl, .nil⟩
  refine Leads.bind (show Leads _ _ _
    (fun _ => S.At (K.and .sessions h.sessions.next g.sessions.next)) _ from ?_) fun _ =>
    Leads.bind (leads_report _ _) fun _ => Coupled.of_pure fun _ _ r => r
  exact Coupled.of_modify fun h' g' r' => ⟨rfl, r'.sharing (r'.2 _ _ _ Matching.and_self)⟩

theorem brings_acquire : S.Brings K .sessions (acquire S.key) (acquire S.key) := by
  refine Coupled.get_bind fun h g r => ?_
  have shared := r.sharedSession
  generalize sharedSession? h S.key = o, sharedSession? g S.key = o' at shared ⊢
  cases shared with
  | none => exact brings_openSession.before fun _ _ q => by rw [q.1, q.2.1]; exact r
  | @some s s' p =>
    refine Coupled.before (R := S.At (K.and .sessions s s')) ?_ ?_
    · refine Leads.bind (leads_revise (k := .sessions) Matching.and_self
        (fun _ _ _ => .inl) fun φ x y _ same => ?_)
        fun _ => Coupled.of_pure fun _ _ r => r
      obtain ⟨target, connection, cache, rfl, idle⟩ := same
      exact ⟨target, connection, cache, rfl, idle⟩
    · rintro h g ⟨rfl, rfl, r⟩
      exact r.and p

theorem alike_release {s s' : Nat} (hs : K .sessions s s') (force : Bool) :
    Alike (S.At K) (release s force) (release s' force) := by
  refine Leads.bind (leads_revise (k := .sessions) hs (fun _ _ _ => .inl)
    fun φ x y _ same => ?_) fun _ => ?_
  · obtain ⟨target, connection, cache, rfl, idle⟩ := same
    exact ⟨target, connection, cache, rfl, idle⟩
  refine alike_get fun h g r within => ?_
  have hs := within _ _ _ hs
  obtain ⟨target, connection, cache, e, idle⟩ := r.resembles hs
  have e : g.session s' = { h.session s with connection, cache } := e
  have target : (h.session s).key = S.key := target.1
  rw [e]
  dsimp only
  rw [target]
  split
  · exact Steady.of_pure ()
  refine Leads.bind (show Leads _ _ _ (fun _ => S.At (S.pairs h)) _ from ?_) fun _ =>
    alike_discard hs force
  exact Coupled.of_modify fun h' g' r' => ⟨rfl, r'.unsharing (r'.2 _ _ _ hs)⟩

end Scene

end LinkedTables
