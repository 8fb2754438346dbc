import LinkedTables.Proofs.OpenBreakerRefuses

/-!
# Targets do not get in each other's way

However often and for whatever targets work is done on a host, the breaker of each target has
counted the connects to that target and nothing else. Once enough of them have failed in a row there
is no further connect to it: a table that would need a new connection is refused, while a session
that is open and shared is handed out. What comes of the work for a target is the same whatever is
done for others (`breakers_of_estates`).
-/

namespace LinkedTables

open LinkedTables.Action

/-- A breaker that has counted enough failures is open. -/
theorem Pool.Counts.opened {pool : Pool} {key : LinkKey} {dials : List Bool}
    (c : pool.Counts key dials) (tripped : pool.Tripped dials) :
    (∃ url, Remote.Url.read key.url = .ok url) ∧
      ∃ breaker, pool.breakers.value? key = some breaker ∧ breaker.state = .opened ∧
        0 < breaker.resetTimeout := by
  cases found : pool.breakers.value? key with
  | none =>
    obtain ⟨missed, -⟩ := tripped
    rw [c.unused found] at missed
    cases missed
  | some breaker =>
    have state := (c.counted breaker found).2
    rw [if_pos tripped] at state
    exact ⟨c.readable breaker found, breaker, rfl, state, (c.made breaker found).2 ▸ c.lasting⟩

namespace Estate

variable {e : Estate} {key : LinkKey}

theorem latched_fed (heard : e.Heard) (tripped : e.host.pool.Tripped (e.dials key))
    {script : Remote.Script} (connectors : ∀ fault, some fault ∉ script.connectors) :
    (e.host.fed script).Latched key := by
  obtain ⟨address, opened⟩ := (heard key).opened tripped
  exact ⟨address, opened, connectors⟩

section Tended

variable (te : e.Tended)
include te

/-- A table that was made for a target links to it, and the session that it holds was made for the
target. -/
theorem Tended.table {t : Nat} (mine : t ∈ e.made key .tables) :
    t < e.host.tables.next ∧ (e.host.table t).definition.key = key ∧
      ∀ s, (e.host.table t).session = some s → s ∈ e.made key .sessions := by
  have twin := (te.abreast key).twin
  obtain ⟨i, found⟩ := List.mem_iff_getElem?.mp mine
  obtain ⟨x, _, here, -, target, _, -, held⟩ := twin.member .tables t t ⟨i, found, found⟩
  have table : e.host.table t = x := Host.member_of_at? here
  refine ⟨Host.lt_of_at? here, by rw [table]; exact target, fun s session => ?_⟩
  rw [table] at session
  rw [session] at held
  cases held with
  | some p =>
    obtain ⟨j, found, -⟩ := p
    exact List.mem_of_getElem? found

/-- A session that was made for a target is one of the target, and keeps its own statements. -/
theorem Tended.session {s : Nat} (mine : s ∈ e.made key .sessions) :
    s < e.host.sessions.next ∧ (e.host.session s).key = key ∧
      (e.host.session s).vendor = Dialect.Vendor.ofUrl key.url ∧ e.host.Owns s := by
  have twin := (te.abreast key).twin
  obtain ⟨i, found⟩ := List.mem_iff_getElem?.mp mine
  have p : Matching.atPlace (e.made key) (e.made key) .sessions s s := ⟨i, found, found⟩
  obtain ⟨x, _, here, -, target, -⟩ := twin.member .sessions s s p
  have session : e.host.session s = x := Host.member_of_at? here
  refine ⟨Host.lt_of_at? here, by rw [session]; exact target.1, by rw [session]; exact target.2,
    fun sql st found => ?_⟩
  have there := Ledger.mem_of_value? found
  obtain ⟨_, q⟩ := twin.pair_of_mem_cache p there
  exact ⟨(twin.lt_of_pair q).1, twin.lodges s s p _ there⟩

end Tended

/-- On a pool whose breakers stay open for longer than anything lasts, behind any deeds for any
targets: the breaker of a target has counted the connects to it, of which those that failed since
the last success open it if they are enough, and nothing else; once it is open, there is no further
connect to the target whatever is done; a session that is open and shared is handed out all the
same, but if there is none, no table can be created but by force, and then not be connected, and
tables that connect anew, or whose statement has failed on their session, are refused; and what came
of the work for the target, and the connects that it made, do not depend on what was done for other
targets. -/
theorem breakers_of_estates (pool : Pool) (level : Level) (unshared : pool.shared = [])
    (unused : pool.breakers = []) (lasting : 0 < pool.resetTimeout) (deeds : List Deed)
    (key : LinkKey) :
    let e := (start pool level).after deeds
    (∀ breaker, e.host.pool.breakers.value? key = some breaker →
      breaker.failures = misses (e.dials key) ∧
        breaker.state = if pool.Tripped (e.dials key) then .opened else .shut) ∧
    (pool.Tripped (e.dials key) →
      (∀ later, (e.after later).dials key = e.dials key) ∧
      ∀ script : Remote.Script, (∀ fault, some fault ∉ script.connectors) →
        let h := e.host.fed script
        (∀ s, sharedSession? h key = some s → h.act (acquire key) = (.ok s, h.withUser s)) ∧
        (sharedSession? h key = none → ∀ table : LinkedTable, table.definition.key = key →
          let p := h.perform (.createTable table)
          ∃ failure, failure.kind = .connectFailure ∧
            (p.2.table h.tables.next).failure = some failure ∧
            p.1 = if table.definition.force then .ok (.table h.tables.next)
              else .error (.link failure)) ∧
        ∀ t ∈ e.made key .tables,
          (∀ s, sharedSession? h key = some s → (h.table t).session = some s) →
          (∀ failed, (h.act (giveUpSession t)).1 = .ok () → replacement? h t failed = none →
            Reaches (reconnect t failed) h (Host.Refused t)) ∧
          ∀ s sql params client, readySession (h.table t) = .ok s →
            ((h.session s).closed = true → ∀ values, params.mapM (h.converted client) = .ok values →
              Reaches (execute t sql params client) h (Host.Refused t)) ∧
            ((∀ fault, some fault ∉ script.invalidations) → ∀ fault g,
              h.act (attemptExecute t s sql params client) = (.ok (.error fault), g) →
              Reaches (execute t sql params client) h (Host.Refused t))) ∧
    ∀ deeds' : List Deed, deeds'.filter (·.concerns key) = deeds.filter (·.concerns key) →
      ((start pool level).after deeds').seen key = e.seen key := by
  intro e
  have begun := tended_start level unshared
  have te : e.Tended := begun.after deeds
  have heard : e.Heard := begun.heard_after (heard_start level lasting unused) deeds
  have settings : e.host.pool.settings = pool.settings := begun.settings_after deeds
  have same (tripped : pool.Tripped (e.dials key)) : e.host.pool.Tripped (e.dials key) :=
    tripped.of_settings settings
  refine ⟨fun breaker found => ?_, fun tripped => ⟨te.dials_after heard (same tripped), ?_⟩,
    fun deeds' equal => ?_⟩
  · obtain ⟨failures, state⟩ := (heard key).counted breaker found
    refine ⟨failures, state.trans (if_congr ⟨fun t => t.of_settings settings.symm, same⟩ rfl rfl)⟩
  · intro script connectors h
    have latched : h.Latched key := latched_fed heard (same tripped) connectors
    refine ⟨fun s shared => ?_, fun alone table target => ?_, fun t mine own => ?_⟩
    · rw [acquire, Host.act_get_bind, shared]
      rfl
    · exact Host.refused_createTable ⟨latched, alone⟩ target
    · obtain ⟨known, target, held⟩ := te.table mine
      have there (s : Nat) (session : (h.table t).session = some s) : s < h.sessions.next :=
        (te.session (held s session)).1
      refine ⟨fun failed given needed =>
        refused_reconnect latched known target there own given needed, ?_⟩
      intro s sql params client ready
      obtain ⟨-, session⟩ := readySession_eq_ok.mp ready
      have alone (s' : Nat) (shared : sharedSession? h key = some s') : s' = s :=
        Option.some.inj ((own s' shared).symm.trans session)
      refine ⟨fun closed values bound => ?_, fun fine fault g failed =>
        refused_execute latched known target ready (there s session) alone (.inr fine) failed⟩
      obtain ⟨-, -, -, owns⟩ := te.session (held s session)
      have owns : h.Owns s := owns
      obtain ⟨-, fails, -⟩ := sends_attemptExecute owns bound t sql
      obtain ⟨fault, failed⟩ := fails closed
      exact refused_execute latched known target ready (there s session) alone (.inl closed)
        (Prod.ext failed rfl)
  · have alike := (begun.abreast key).after_filter begun begun deeds
    have alike' := (begun.abreast key).after_filter begun begun deeds'
    rw [equal] at alike'
    exact alike'.seen.trans alike.seen.symm

/-- Five connects to one target fail, in the creation of two tables and with that of a table of
another target in between. The sixth attempt is turned away, as is the creation of a third table. -/
theorem breakers_of_two_targets :
    let first := LinkedTable.bare "FIRST"
    let other := { LinkedTable.bare "OTHER" with
      definition := { Definition.bare with url := "o://" } }
    let key := first.definition.key
    let refusing := Remote.Script.admitting 0 3
    let own := [.work key refusing (.createTable first), .work key refusing (.createTable first)]
    let deeds : List Deed := [.work key refusing (.createTable first),
      .work other.definition.key .quiet (.createTable other),
      .work key refusing (.createTable first)]
    let e := (start (.bare true) .error).after deeds
    let h := e.host.fed .quiet
    e.dials key = List.replicate 5 false ∧
      (e.after [.work key .quiet (.createTable first)]).dials key = List.replicate 5 false ∧
      (∃ failure, (h.perform (.createTable first)).1 = .error (.link failure) ∧
        failure.kind = .connectFailure) ∧
      ((start (.bare true) .error).after own).seen key = e.seen key := by
  intro first other key refusing own deeds e h
  have dials : e.dials key = List.replicate 5 false := by decide +kernel
  have tripped : (Pool.bare true).Tripped (e.dials key) := by
    rw [dials]
    decide
  have left : own.filter (·.concerns key) = deeds.filter (·.concerns key) := by
    have ne : other.definition.key ≠ key := by decide +kernel
    simp [own, deeds, Deed.concerns, ne]
  have alone : sharedSession? h key = none := by decide +kernel
  have bounds := breakers_of_estates (.bare true) .error rfl rfl (by decide) deeds key
  have behind : e = (start (.bare true) .error).after deeds := rfl
  rw [← behind] at bounds
  obtain ⟨-, after, apart⟩ := bounds
  obtain ⟨stopped, refused⟩ := after tripped
  obtain ⟨-, created, -⟩ := refused .quiet (fun _ there => by cases there)
  obtain ⟨failure, kind, -, failed⟩ := created alone first rfl
  exact ⟨dials, (stopped _).trans dials, ⟨failure, failed, kind⟩, apart own left⟩

end Estate

end LinkedTables
