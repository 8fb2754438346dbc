import LinkedTables.Proofs.LinkLogic
import LinkedTables.Proofs.TwinSessions

/-!
# Links of twins

Tables that are paired connect alike: they read the same shapes, attempt to connect equally often,
remember the same failures and hold paired sessions (`brings_connect`, `brings_reconnect`). So they
execute statements alike, on sessions that are paired (`brings_execute`).
-/

namespace LinkedTables

namespace Scene

open LinkedTables.Action

variable {S : Scene} {K K' : Matching} {α β : Type} {t t' s s' : Nat}

/-- Two tries came to paired numbers, or both to the same failure. -/
inductive Reached (S : Scene) (K : Matching) (k : Book) {ε : Type} :
    Except ε Nat → Except ε Nat → Host → Host → Prop
  | value {a b : Nat} {h g : Host} (r : S.At (K.and k a b) h g) : Reached S K k (.ok a) (.ok b) h g
  | failure {e : ε} {h g : Host} (r : S.At K h g) : Reached S K k (.error e) (.error e) h g

/-- What follows two tries, by what they came to. -/
theorem reached_bind {ε : Type} {k : Book} {x y : Action (Except ε Nat)}
    {f : Except ε Nat → Action α} {f' : Except ε Nat → Action β} {Q : α → β → Host → Host → Prop}
    (hx : Coupled (S.At K) x y (S.Reached K k) (S.At K))
    (hf : ∀ a b, Coupled (S.At (K.and k a b)) (f (.ok a)) (f' (.ok b)) Q (S.At (K.and k a b)))
    (he : ∀ e, Coupled (S.At K) (f (.error e)) (f' (.error e)) Q (S.At K)) :
    Coupled (S.At K) (x >>= f) (y >>= f') Q (S.At K) := by
  refine Coupled.bind hx fun r r' h g reached => ?_
  cases reached with
  | value r => exact (hf _ _ r).mono (fun _ _ _ _ q => q) fun _ _ e => e.mono Matching.within_and
  | failure r => exact he _ r

theorem At.table {h g : Host} (r : S.At K h g) (ht : K .tables t t') :
    (h.table t).definition.key = S.key ∧ ∃ session, g.table t' = { h.table t with session } ∧
      (h.table t).session.Rel (S.pairs h .sessions) session :=
  r.resembles ht

/-- A change of a table, whatever session it holds. -/
theorem leads_reviseTable {E : Host → Host → Prop} (ht : K .tables t t')
    {f : LinkedTable → LinkedTable}
    (definition : ∀ table, (f table).definition = table.definition)
    (held : ∀ table session, f { table with session } = { f table with session })
    (session : ∀ table, (f table).session = table.session) :
    Leads (S.At K) (reviseTable t f) (reviseTable t' f) (fun _ => S.At K) E := by
  refine leads_revise (k := .tables) ht (fun _ => trivial) fun φ x y _ same => ?_
  obtain ⟨target, session', rfl, rel⟩ := same
  have kept : (f x).session = x.session := session x
  exact ⟨(congrArg Definition.key (definition x)).trans target, session', held _ _, kept ▸ rel⟩

/-! ### Reading the shape -/

theorem steady_ask (catalog : Catalog) (question : CatalogQuestion) (schema : Option String)
    (table : String) : Steady (S.At K) (ask catalog question schema table) :=
  Steady.of_ite (fun _ => leads_note rfl rfl) fun _ => Steady.of_pure ()

/-- A probe comes to the same on whatever connections it is sent. -/
theorem alike_probe (s s' : Nat) (name table : String) :
    Alike (S.At K) (probe s name table) (probe s' name table) := by
  refine alike_get fun h g r within => ?_
  dsimp only
  refine Leads.bind (leads_note rfl rfl) fun _ => ?_
  refine Leads.bind (leads_fromScript _) fun outcome => ?_
  cases outcome with
  | error fault => exact Steady.of_throw _
  | ok description =>
    refine Leads.bind (leads_note rfl rfl) fun _ => Coupled.get_bind' fun h g r => ?_
    rw [r.1.script]
    exact Steady.of_ofExcept _

theorem steady_readCatalogColumns (catalog : Catalog) (canonicalName : String → String)
    (schema : Option String) (table : String) :
    Steady (S.At K) (readCatalogColumns catalog canonicalName schema table) := by
  refine Steady.bind (steady_ask ..) fun _ => ?_
  refine Steady.bind (Steady.of_ofExcept _) fun found => ?_
  refine Steady.of_ite (fun _ => Steady.of_throw _) fun _ => ?_
  exact Steady.bind (steady_ask ..) fun _ => Steady.of_ofExcept _

theorem steady_readCatalogIndexes (catalog : Catalog) (resolve : Reconstruction.Resolver)
    (schema : Option String) (table : String) :
    Steady (S.At K) (readCatalogIndexes catalog resolve schema table) := by
  refine Steady.bind (steady_ask ..) fun _ => ?_
  refine Steady.bind (alike_reportAll _) fun _ => ?_
  refine Steady.bind (Steady.of_ofExcept _) fun (primary, key) => ?_
  refine Steady.bind (steady_ask ..) fun _ => ?_
  refine Steady.bind (alike_reportAll _) fun _ => ?_
  exact Steady.bind (Steady.of_ofExcept _) fun others => Steady.of_pure _

theorem alike_readShape (hs : K .sessions s s') (d : Definition) (catalog : Catalog) :
    Alike (S.At K) (readShape d catalog s) (readShape d catalog s') := by
  refine Leads.bind (leads_revise (k := .sessions) hs (fun _ _ _ => .inl)
    fun φ x y _ same => ?_) fun _ => ?_
  · obtain ⟨target, connection, cache, rfl, idle⟩ := same
    exact ⟨target, connection, cache, rfl, idle⟩
  refine alike_get fun h g r within => ?_
  have hs := within _ _ _ hs
  obtain ⟨connection, cache, e⟩ := r.session hs
  rw [e]
  dsimp only
  by_cases hq : d.isQuery = true
  · simp only [hq, if_true]
    refine Leads.bind (Steady.of_pure _) fun (reported, schema) => ?_
    refine Leads.bind (alike_probe s s' _ _) fun probed => ?_
    refine Leads.bind (Steady.of_pure _) fun others => ?_
    exact Leads.bind (leads_report _ _) fun _ => Steady.of_pure _
  · simp only [if_neg hq]
    refine Leads.bind (steady_readCatalogColumns ..) fun (reported, schema) => ?_
    refine Leads.bind (alike_probe s s' _ _) fun probed => ?_
    refine Leads.bind (steady_readCatalogIndexes ..) fun others => ?_
    exact Leads.bind (leads_report _ _) fun _ => Steady.of_pure _

/-! ### The handshake -/

theorem alike_nextCatalog (ht : K .tables t t') :
    Alike (S.At K) (nextCatalog t) (nextCatalog t') := by
  refine alike_get fun h g r within => ?_
  obtain ⟨-, session, e, -⟩ := r.table (within _ _ _ ht)
  rw [e]
  dsimp only
  split
  · exact Steady.of_throw _
  · exact Steady.of_pure _
  · exact Leads.bind (leads_reviseTable (within _ _ _ ht) (fun _ => rfl) (fun _ _ => rfl)
      fun _ => rfl) fun _ => Steady.of_pure _

theorem alike_handshake (ht : K .tables t t') (hs : K .sessions s s') :
    Alike (S.At K) (handshake t s) (handshake t' s') := by
  refine alike_get fun h g r within => ?_
  have ht := within _ _ _ ht
  obtain ⟨-, session, e, -⟩ := r.table ht
  rw [e]
  refine Leads.bind (alike_nextCatalog ht) fun catalog => ?_
  refine Leads.bind (alike_readShape (within _ _ _ hs) _ catalog) fun shape => ?_
  refine Leads.bind (leads_reviseTable ht (fun _ => rfl) (fun _ _ => rfl) fun _ => rfl) fun _ => ?_
  refine alike_get fun h' g' r' within' => ?_
  have ht := within' _ _ _ ht
  obtain ⟨-, session, e, -⟩ := r'.table ht
  rw [e]
  dsimp only
  split
  · exact leads_reviseTable ht (fun _ => rfl) (fun _ _ => rfl) fun _ => rfl
  split
  · exact leads_report _ _
  · exact Steady.of_pure ()

/-! ### Connecting -/

theorem reached_attemptConnect (ht : K .tables t t') :
    Coupled (S.At K) (attemptConnect t) (attemptConnect t') (S.Reached K .sessions) (S.At K) := by
  refine Coupled.get_bind' fun h g r => ?_
  obtain ⟨target, session, e, -⟩ := r.table ht
  rw [e]
  dsimp only
  rw [target]
  refine Coupled.outcome_bind brings_acquire (fun s s' => ?_) fun fault => ?_
  · have ht : K.and .sessions s s' .tables t t' := .inl ht
    refine Leads.outcome_bind (alike_handshake ht Matching.and_self) (fun _ => ?_) fun fault => ?_
    · exact Coupled.of_pure fun _ _ r => .value r
    · refine Leads.bind (alike_within (alike_release Matching.and_self true)
        Matching.within_and) fun _ => ?_
      split
      · exact Coupled.of_pure fun _ _ r => .failure r
      · exact Coupled.of_pure fun _ _ r => .failure r
  · dsimp only
    split
    · exact Coupled.of_pure fun _ _ r => .failure r
    · exact Coupled.of_throw fun _ _ r => r

theorem coupled_giveUp (ht : K .tables t t') (failure : LinkFault)
    {Q : Nat → Nat → Host → Host → Prop} :
    Coupled (S.At K) (giveUp t failure) (giveUp t' failure) Q (S.At K) :=
  Leads.bind (leads_reviseTable ht (fun _ => rfl) (fun _ _ => rfl) fun _ => rfl) fun _ =>
    Coupled.of_throw fun _ _ r => r

/-- The table holds a session from now on. -/
theorem brings_hold (ht : K .tables t t') :
    Coupled (S.At (K.and .sessions s s')) (hold t s) (hold t' s')
      (fun a b => S.At (K.and .sessions a b)) (S.At (K.and .sessions s s')) := by
  have ht : K.and .sessions s s' .tables t t' := .inl ht
  refine Leads.bind (leads_revise (k := .tables) ht (fun _ => trivial)
    fun φ x y within same => ?_) fun _ =>
    Coupled.of_pure fun _ _ r => r
  obtain ⟨target, session, rfl, rel⟩ := same
  exact ⟨target, some s', rfl, .some (within _ _ _ Matching.and_self)⟩

theorem brings_connectFrom (ht : K .tables t t') (attempt left : Nat) :
    S.Brings K .sessions (connectFrom t attempt left) (connectFrom t' attempt left) := by
  induction left generalizing attempt with
  | zero =>
    refine reached_bind (reached_attemptConnect ht) (fun s s' => ?_) fun failure => ?_
    · exact brings_hold ht
    · exact coupled_giveUp ht failure
  | succ left ih =>
    refine reached_bind (reached_attemptConnect ht) (fun s s' => ?_) fun failure => ?_
    · exact brings_hold ht
    · dsimp only
      split
      · exact coupled_giveUp ht failure
      · refine Coupled.get_bind' fun h g r => ?_
        obtain ⟨-, session, e, -⟩ := r.table ht
        rw [e]
        exact Leads.bind (leads_report _ _) fun _ => ih (attempt + 1)

theorem brings_connect (ht : K .tables t t') :
    S.Brings K .sessions (connect t) (connect t') :=
  Leads.bind (leads_reviseTable ht (fun _ => rfl) (fun _ _ => rfl) fun _ => rfl) fun _ =>
    brings_connectFrom ht 1 maxRetry

/-! ### Letting a session go -/

theorem alike_letGoSession (ht : K .tables t t') (force : Bool) :
    Alike (S.At K) (letGoSession t force) (letGoSession t' force) := by
  refine alike_get fun h g r within => ?_
  have ht := within _ _ _ ht
  obtain ⟨-, session, e, held⟩ := r.table ht
  rw [e]
  dsimp only
  refine Leads.bind (leads_revise (k := .tables) ht (fun _ => trivial)
    fun φ x y within same => ?_) fun _ => ?_
  · obtain ⟨target, session, rfl, -⟩ := same
    exact ⟨target, none, rfl, .none⟩
  generalize (h.table t).session = o at held ⊢
  cases held with
  | none => exact Steady.of_pure ()
  | some hs => exact alike_release hs force

/-- The session that has replaced a failed one is paired with its counterpart. -/
theorem At.replacement {h g : Host} (r : S.At K h g) (ht : K .tables t t')
    {failed failed' : Option Nat} (hf : failed.Rel (K .sessions) failed') :
    (replacement? h t failed).Rel (S.pairs h .sessions) (replacement? g t' failed') := by
  obtain ⟨-, session, e, held⟩ := r.table ht
  rw [replacement?.eq_def, replacement?.eq_def, e]
  dsimp only
  generalize (h.table t).session = o at held ⊢
  cases hf with
  | none => cases held <;> exact .none
  | @some old old' ho =>
    cases held with
    | none => exact .none
    | @some s s' hs =>
      obtain ⟨connection, cache, e⟩ := At.session (K := S.pairs h) ⟨r.1, .refl _⟩ hs
      have same : s ≠ old ↔ s' ≠ old' := not_congr (r.1.twin.single _ _ _ _ _ hs (r.2 _ _ _ ho))
      simp only [e, same]
      split
      · exact .some hs
      · exact .none

theorem brings_reconnect (ht : K .tables t t') {failed failed' : Option Nat}
    (hf : failed.Rel (K .sessions) failed') :
    S.Brings K .sessions (reconnect t failed) (reconnect t' failed') := by
  refine Coupled.get_bind fun h g r => ?_
  have replaced := r.replacement ht hf
  generalize replacement? h t failed = o, replacement? g t' failed' = o' at replaced ⊢
  cases replaced with
  | none =>
    refine Coupled.before (R := S.At K) ?_ fun _ _ q => by rw [q.1, q.2.1]; exact r
    exact Leads.bind (alike_letGoSession ht true) fun _ => brings_connect ht
  | some p =>
    refine Coupled.of_pure ?_
    rintro _ _ ⟨rfl, rfl, r⟩
    exact r.and p

theorem brings_requireSession (ht : K .tables t t') :
    S.Brings K .sessions (requireSession t) (requireSession t') := by
  refine Coupled.get_bind fun h g r => ?_
  obtain ⟨-, session, e, held⟩ := r.table ht
  rw [e, readySession.eq_def, readySession.eq_def]
  dsimp only
  generalize (h.table t).session = o at held ⊢
  cases failed : (h.table t).failure with
  | some failure => exact Coupled.of_throw fun _ _ q => by rw [q.1, q.2.1]; exact r
  | none =>
    cases held with
    | none => exact Coupled.of_throw fun _ _ q => by rw [q.1, q.2.1]; exact r
    | some p =>
      refine Coupled.of_pure ?_
      rintro _ _ ⟨rfl, rfl, r⟩
      exact r.and p

/-! ### Executing -/

theorem steady_convertFor (client : Option Nat) (v : Value) :
    Steady (S.At K) (convertFor client v) := by
  cases client with
  | none => exact Steady.of_pure v
  | some c =>
    refine Coupled.get_bind' fun h g r => ?_
    have same : ((h.clients.at? c).getD default).convert
        = ((g.clients.at? c).getD default).convert := by
      have e := congrArg (·[c]?) r.1.twin.converts
      simp only [Host.converts, List.getElem?_map] at e
      simp only [Roster.at?]
      cases hc : h.clients[c]? <;> cases gc : g.clients[c]? <;> simp [hc, gc] at e ⊢
      exact e
    rw [same]
    exact Steady.of_ofExcept _

/-- Running a statement that both have. -/
theorem reached_executed (st st' : Nat) (name sql : String) (params values : List Value) :
    Coupled (S.At (K.and .statements st st'))
      (do
        report ⟨.debug, Sql.trace name sql params⟩
        match ← outcome (executeStatement st values) with
        | .ok _ => return .ok st
        | .error fault =>
          if fault.isRemote then
            closeStatement st
            return .error fault
          else throw fault)
      (do
        report ⟨.debug, Sql.trace name sql params⟩
        match ← outcome (executeStatement st' values) with
        | .ok _ => return .ok st'
        | .error fault =>
          if fault.isRemote then
            closeStatement st'
            return .error fault
          else throw fault)
      (S.Reached K .statements) (S.At K) := by
  refine Leads.bind (leads_report _ _) fun _ => ?_
  refine Coupled.outcome_bind (brings_executeStatement Matching.and_self values)
    (fun r r' => ?_) fun fault => ?_
  · exact Coupled.of_pure fun _ _ q => .value (q.mono Matching.within_and)
  · dsimp only
    split
    · exact Leads.bind (alike_within (alike_closeStatement Matching.and_self)
        Matching.within_and) fun _ => Coupled.of_pure fun _ _ r => .failure r
    · exact Coupled.of_throw fun _ _ q => q.mono Matching.within_and

theorem reached_attemptExecute (ht : K .tables t t') (hs : K .sessions s s') (sql : String)
    (params : List Value) (client : Option Nat) :
    Coupled (S.At K) (attemptExecute t s sql params client) (attemptExecute t' s' sql params client)
      (S.Reached K .statements) (S.At K) := by
  refine Leads.bind (Steady.of_mapM params (steady_convertFor client)) fun values => ?_
  refine Coupled.get_bind' fun h g r => ?_
  obtain ⟨-, session, e, -⟩ := r.table ht
  rw [e]
  dsimp only
  refine Coupled.bind (coupled_takeStatement hs sql) fun st st' => ?_
  rintro h' g' ⟨r, taken⟩
  cases taken with
  | none => exact Coupled.bind (brings_prepare hs sql _) (fun _ _ => reached_executed ..) r
  | some p => exact reached_executed _ _ _ _ _ _ (r.and p)

theorem brings_executeFrom (ht : K .tables t t') (hs : K .sessions s s') (sql : String)
    (params : List Value) (client : Option Nat) (left : Nat) :
    S.Brings K .statements (executeFrom t sql params client s left)
      (executeFrom t' sql params client s' left) := by
  induction left generalizing s s' K with
  | zero =>
    refine reached_bind (reached_attemptExecute ht hs sql params client) (fun st st' => ?_)
      fun fault => ?_
    · exact Coupled.of_pure fun _ _ r => r
    · exact Coupled.of_throw fun _ _ r => r
  | succ left ih =>
    refine reached_bind (reached_attemptExecute ht hs sql params client) (fun st st' => ?_)
      fun fault => ?_
    · exact Coupled.of_pure fun _ _ r => r
    · refine Coupled.get_bind' fun h g r => ?_
      obtain ⟨-, session, e, -⟩ := r.table ht
      rw [e]
      refine Leads.bind (leads_report _ _) fun _ => ?_
      refine (brings_reconnect ht (.some hs)).bind fun s s' => ?_
      exact (ih (.inl ht) Matching.and_self).behind
        (fun _ _ _ _ r => r.mono Matching.within_and.and_and) fun _ _ r => r

/-- What is executed for paired tables comes to statements that are paired. -/
theorem brings_execute (ht : K .tables t t') (sql : String) (params : List Value)
    (client : Option Nat) :
    S.Brings K .statements (execute t sql params client) (execute t' sql params client) :=
  (brings_requireSession ht).bind fun _ _ =>
    (brings_executeFrom (.inl ht) Matching.and_self sql params client maxRetry).behind
      (fun _ _ _ _ r => r.mono Matching.within_and.and_and) fun _ _ r => r

theorem alike_handBack {st st' : Nat} (ht : K .tables t t') (hst : K .statements st st')
    (sql : String) : Alike (S.At K) (handBack t st sql) (handBack t' st' sql) := by
  refine alike_get fun h g r within => ?_
  have hst := within _ _ _ hst
  obtain ⟨-, session, e, held⟩ := r.table (within _ _ _ ht)
  obtain ⟨_, _, e', own, -⟩ := r.statement hst
  rw [e, e']
  dsimp only
  generalize (h.table t).session = o at held ⊢
  cases held with
  | none => exact alike_closeStatement hst
  | @some s s' hs =>
    obtain ⟨connection, cache, e⟩ := r.session hs
    have other := not_congr (r.1.twin.single _ _ _ _ _ own hs)
    simp only [e, ne_eq, other]
    split
    · exact alike_closeStatement hst
    · exact Leads.bind (alike_closeResult hst) fun _ => alike_putStatement hs hst sql

theorem alike_run (ht : K .tables t t') (sql : String) (params : List Value)
    (client : Option Nat) :
    Alike (S.At K) (run t sql params client) (run t' sql params client) :=
  (brings_execute ht sql params client).bind fun _ _ =>
    Leads.behind (alike_handBack (.inl ht) Matching.and_self sql)
      (fun _ _ _ r => r.mono Matching.within_and) fun _ _ r => r

/-- What is read of a statement is read alike. -/
theorem alike_reading (ht : K .tables t t') (sql : String) (params : List Value)
    (client : Option Nat) {read : Nat → Action α}
    (hread : ∀ st st', Alike (S.At (K.and .statements st st')) (read st) (read st')) :
    Alike (S.At K) (reading t sql params client read) (reading t' sql params client read) := by
  refine (brings_execute ht sql params client).bind fun st st' => ?_
  refine Leads.outcome_bind (hread st st') (fun a => ?_) fun fault => ?_
  · exact Leads.bind (alike_handBack (.inl ht) Matching.and_self sql) fun _ =>
      Leads.of_pure a fun _ _ r => r.mono Matching.within_and
  · exact Leads.bind (alike_closeStatement Matching.and_self) fun _ =>
      Coupled.of_throw fun _ _ r => r

/-! ### Reading results -/

section Reading

variable {r r' st st' : Nat}

theorem alike_fetchFrom (hr : K .results r r') (fuel : Nat) :
    Alike (S.At K) (fetchFrom r fuel) (fetchFrom r' fuel) := by
  induction fuel with
  | zero => exact Steady.of_pure []
  | succ fuel ih =>
    refine Leads.bind (alike_fetch hr) fun row => ?_
    cases row with
    | none => exact Steady.of_pure []
    | some row => exact Leads.bind ih fun rows => Steady.of_pure (row :: rows)

theorem alike_fetchAll (hr : K .results r r') :
    Alike (S.At K) (fetchAll r) (fetchAll r') := by
  refine Coupled.get_bind' fun h g q => ?_
  obtain ⟨connection, e⟩ := q.result hr
  rw [e]
  exact alike_fetchFrom hr _

theorem alike_readRows (hst : K .statements st st') :
    Alike (S.At K) (readRows st) (readRows st') := by
  refine alike_get fun h g q within => ?_
  obtain ⟨session, result, e, -, opened⟩ := q.statement (within _ _ _ hst)
  rw [e]
  dsimp only
  generalize (h.statement st).result = o at opened ⊢
  cases opened with
  | none => exact Steady.of_pure []
  | some hr => exact alike_fetchAll hr

theorem alike_readSingle (hst : K .statements st st') :
    Alike (S.At K) (readSingle st) (readSingle st') := by
  refine alike_get fun h g q within => ?_
  obtain ⟨session, result, e, -, opened⟩ := q.statement (within _ _ _ hst)
  rw [e]
  dsimp only
  generalize (h.statement st).result = o at opened ⊢
  cases opened with
  | none => exact Steady.of_throw _
  | some hr =>
    refine Leads.bind (alike_fetch hr) fun row => ?_
    cases row with
    | none => exact Steady.of_throw _
    | some row =>
      refine Leads.bind (alike_fetch hr) fun more => ?_
      cases more with
      | some _ => exact Steady.of_throw _
      | none =>
        cases row with
        | nil => exact Steady.of_throw _
        | cons v _ => exact Steady.of_pure v

end Reading

end Scene

end LinkedTables
