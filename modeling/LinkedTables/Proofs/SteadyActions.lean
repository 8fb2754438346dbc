import LinkedTables.Proofs.QuietRelation

/-!
# Errands

Actions that neither open nor close anything, prepare no statement and take none: asking the
catalog, guarding a connect, reading the shape of a table, keeping the undo log, fetching rows.
Under every quiet relation they are steady: side by side they come to the same, and they break
nothing that depends on lines and shelves.
-/

namespace LinkedTables.Action

variable {R : Host → Host → Prop} (hR : Quiet R)
include hR

/-! ### Connectors and breakers -/

theorem steady_connectorFor (key : LinkKey) : Steady R (connectorFor key) := by
  refine Steady.get_bind (fun h g r => by rw [pool_agree (hR.agree r)]) fun h => ?_
  dsimp only
  split
  · exact Steady.of_pure _
  refine Steady.bind (Steady.of_ofExcept _) fun url => ?_
  refine Smooth.bind_steady (smooth_note hR rfl rfl rfl) fun _ => ?_
  refine Smooth.bind_steady (smooth_fromScript hR _) fun r => ?_
  refine Steady.bind (Steady.of_ofExcept r) fun _ => ?_
  exact Smooth.bind_steady (smooth_revisePool hR fun _ => ⟨rfl, rfl⟩) fun _ => Steady.of_pure url

theorem smooth_keepBreaker (key : LinkKey) (breaker : Remote.Breaker) :
    Smooth R (keepBreaker key breaker) :=
  smooth_revisePool hR fun _ => ⟨rfl, rfl⟩

theorem steady_breakerFor (key : LinkKey) : Steady R (breakerFor key) := by
  refine Steady.get_bind (fun h g r => by rw [pool_agree (hR.agree r)]) fun h => ?_
  dsimp only
  split
  · exact Steady.of_pure _
  refine Steady.bind (Steady.of_ofExcept _) fun url => ?_
  exact Smooth.bind_steady (smooth_revisePool hR fun _ => ⟨rfl, rfl⟩) fun _ => Steady.of_pure _

/-! ### The handshake -/

theorem steady_ask (catalog : Catalog) (question : CatalogQuestion) (schema : Option String)
    (table : String) : Steady R (ask catalog question schema table) :=
  Steady.of_ite (fun _ => Smooth.steady (smooth_note hR rfl rfl rfl)) fun _ => Steady.of_pure ()

theorem steady_probe (s : Nat) (name table : String) : Steady R (probe s name table) := by
  refine Steady.get_bind (fun h g r => ?_) fun h => ?_
  · rw [session_connection_agree (hR.agree r)]
  refine Smooth.bind_steady (smooth_note hR rfl rfl rfl) fun _ => ?_
  refine Smooth.bind_steady (smooth_fromScript hR _) fun r => ?_
  cases r with
  | error fault => exact Steady.of_throw _
  | ok description =>
    refine Smooth.bind_steady (smooth_note hR rfl rfl rfl) fun _ => ?_
    refine Steady.get_bind (fun h g r => by rw [script_agree (hR.agree r)]) fun h => ?_
    exact Steady.of_ofExcept _

theorem steady_readCatalogColumns (catalog : Catalog) (canonicalName : String → String)
    (schema : Option String) (table : String) :
    Steady R (readCatalogColumns catalog canonicalName schema table) := by
  refine Steady.bind (steady_ask hR ..) fun _ => ?_
  refine Steady.bind (Steady.of_ofExcept _) fun found => ?_
  refine Steady.of_ite (fun _ => ?_) fun _ => ?_
  · exact Steady.bind (Steady.of_throw _) fun _ => Steady.bind (steady_ask hR ..) fun _ =>
      Steady.of_ofExcept _
  · exact Steady.bind (steady_ask hR ..) fun _ => Steady.of_ofExcept _

theorem steady_readCatalogIndexes (catalog : Catalog) (resolve : Reconstruction.Resolver)
    (schema : Option String) (table : String) :
    Steady R (readCatalogIndexes catalog resolve schema table) := by
  refine Steady.bind (steady_ask hR ..) fun _ => ?_
  generalize Reconstruction.readKey resolve table (catalog.primaryKeys schema table) = found
  obtain ⟨r, notices⟩ := found
  refine Smooth.bind_steady (smooth_reportAll hR notices) fun _ => ?_
  refine Steady.bind (Steady.of_ofExcept r) fun (primary, key) => ?_
  refine Steady.bind (steady_ask hR ..) fun _ => ?_
  generalize Reconstruction.readOthers resolve table key (catalog.indexInfo schema table) = others
  obtain ⟨r, notices⟩ := others
  refine Smooth.bind_steady (smooth_reportAll hR notices) fun _ => ?_
  exact Steady.bind (Steady.of_ofExcept r) fun _ => Steady.of_pure _

theorem steady_readShape (d : Definition) (catalog : Catalog) (s : Nat) :
    Steady R (readShape d catalog s) := by
  refine Smooth.bind_steady (smooth_reviseFlags hR s _) fun _ => ?_
  refine Steady.get_bind (fun h g r => ?_) fun h => ?_
  · have e := congrArg Session.vendor (session_agree (hR.agree r) s)
    simp only [Session.outline] at e
    rw [e]
  by_cases hq : d.isQuery = true
  · simp only [hq, if_true]
    refine Steady.bind (Steady.of_pure _) fun (reported, schema) => ?_
    refine Steady.bind (steady_probe hR ..) fun probed => ?_
    refine Steady.bind (Steady.of_pure _) fun others => ?_
    exact Smooth.bind_steady (smooth_report hR _) fun _ => Steady.of_pure _
  · simp only [if_neg hq]
    refine Steady.bind (steady_readCatalogColumns hR ..) fun (reported, schema) => ?_
    refine Steady.bind (steady_probe hR ..) fun probed => ?_
    refine Steady.bind (steady_readCatalogIndexes hR ..) fun others => ?_
    exact Smooth.bind_steady (smooth_report hR _) fun _ => Steady.of_pure _

/-- Giving up ends in a fault. -/
theorem coupled_giveUp (t : Nat) (failure : LinkFault) {Q : Nat → Nat → Host → Host → Prop} :
    Coupled R (giveUp t failure) (giveUp t failure) Q R :=
  Smooth.bind_coupled (smooth_reviseTable hR t fun _ => rfl) fun _ =>
    Coupled.of_throw fun _ _ r => r

theorem steady_requireSession (t : Nat) : Steady R (requireSession t) := by
  refine Steady.get_bind (fun h g r => by rw [table_agree (hR.agree r)]) fun h => ?_
  exact Steady.of_ofExcept _

/-! ### Values and results -/

theorem steady_convertFor (client : Option Nat) (v : Value) : Steady R (convertFor client v) := by
  cases client with
  | none => exact Steady.of_pure v
  | some c =>
    refine Steady.get_bind (fun h g r => by rw [clients_agree (hR.agree r)]) fun h => ?_
    exact Steady.of_ofExcept _

theorem steady_fetch (r : Nat) : Steady R (fetch r) := by
  refine Steady.get_bind (fun h g r => by rw [result_agree (hR.agree r)]) fun h => ?_
  dsimp only
  split
  · exact Steady.of_pure none
  next row rest _ =>
    refine Steady.of_ite (fun _ => Steady.bind (Steady.of_throw _) fun _ => ?_) fun _ => ?_ <;>
    · refine Smooth.bind_steady (smooth_reviseResult hR ..) fun _ => ?_
      cases row with
      | ok values => exact Steady.of_pure _
      | error fault => exact Steady.of_throw fault

theorem steady_fetchFrom (r fuel : Nat) : Steady R (fetchFrom r fuel) := by
  induction fuel with
  | zero => exact Steady.of_pure []
  | succ fuel ih =>
    refine Steady.bind (steady_fetch hR r) fun row => ?_
    cases row with
    | none => exact Steady.of_pure []
    | some row => exact Steady.bind ih fun rows => Steady.of_pure (row :: rows)

theorem steady_fetchAll (r : Nat) : Steady R (fetchAll r) := by
  refine Steady.get_bind (fun h g r => by rw [result_agree (hR.agree r)]) fun h => ?_
  exact steady_fetchFrom hR r _

/-! ### The engine -/

theorem steady_checkCancelled : Steady R checkCancelled := by
  refine Steady.get_bind (fun h g r => ?_) fun h => Steady.of_ofExcept _
  rw [read_agree (hR.agree r) Host.cancelled fun _ => rfl]

theorem steady_recordChange (client : Nat) (record : UndoRecord) :
    Steady R (recordChange client record) :=
  Smooth.steady (smooth_modify hR ⟨fun _ => rfl, fun _ => rfl, fun _ => rfl⟩)

theorem steady_checkChange (t : Nat) : Steady R (checkChange t) := by
  refine Steady.get_bind (fun h g r => by rw [table_agree (hR.agree r)]) fun h => ?_
  exact Steady.bind (Steady.of_ofExcept _) fun _ => Steady.of_ofExcept _

theorem steady_beginCommand (cancelled : Bool) : Steady R (beginCommand cancelled) :=
  Smooth.steady (smooth_modify hR ⟨fun _ => rfl, fun _ => rfl, fun _ => rfl⟩)

theorem steady_joinClient (convert : Value → Except Fault Value) :
    Steady R (joinClient convert) := by
  refine Steady.get_bind (fun h g r => by rw [clients_agree (hR.agree r)]) fun h => ?_
  exact Smooth.bind_steady (smooth_modify hR ⟨fun _ => rfl, fun _ => rfl, fun _ => rfl⟩) fun _ =>
    Steady.of_pure _

theorem steady_clearUndo (client : Nat) : Steady R (clearUndo client) :=
  Smooth.steady (smooth_modify hR ⟨fun _ => rfl, fun _ => rfl, fun _ => rfl⟩)

theorem steady_registerTable (schema : String) (t : Nat) : Steady R (registerTable schema t) := by
  refine Steady.get_bind (fun h g r => ?_) fun h => ?_
  · rw [table_agree (hR.agree r), registry_agree (hR.agree r)]
  refine Steady.bind (Steady.of_ofExcept _) fun (registry, notice) => ?_
  exact Smooth.bind_steady (smooth_modify hR ⟨fun _ => rfl, fun _ => rfl, fun _ => rfl⟩) fun _ =>
    Smooth.steady (smooth_report hR notice)

theorem steady_convertRow (t : Nat) (row : List Value) : Steady R (convertRow t row) := by
  refine Steady.get_bind (fun h g r => by rw [table_agree (hR.agree r)]) fun h => ?_
  exact Smooth.bind_steady (smooth_reviseTable hR t fun _ => rfl) fun _ => Steady.of_pure _

/-- The table that is put back has the session of the one that was found. -/
theorem steady_setFetchSize (t : Nat) (n : Int) : Steady R (setFetchSize t n) := by
  refine Coupled.get_bind fun h g r => ?_
  rw [table_agree (hR.agree r)]
  cases hn : (g.table t).withFetchSize n with
  | error fault => exact Coupled.of_throw fun _ _ ⟨hh, hg, r⟩ => by rw [hh, hg]; exact r
  | ok table =>
    have hs : table.session = (g.table t).session := by
      unfold LinkedTable.withFetchSize at hn
      split at hn
      · cases hn
      · rw [← Except.ok.inj hn]
    -- So the lines stay, although the table is replaced as a whole.
    have held : ∀ k : Host, k.table t = g.table t →
        { k with tables := k.tables.revise t fun _ => table }.lines = k.lines := by
      intro k hk
      simp only [Host.lines]
      rw [Roster.map_revise_at]
      intro a ha
      rw [hs, ← hk, Host.table, ha, Option.getD_some]
    refine Coupled.of_modify ?_
    rintro _ _ ⟨rfl, rfl, r⟩
    refine ⟨rfl, hR.keep (fun k => { k with tables := k.tables.revise t fun _ => table }) r
      (held _ (table_agree (hR.agree r) t)) rfl (held _ rfl) rfl ?_⟩
    exact congrArg (fun k : Host => { k with tables := k.tables.revise t fun _ => table })
      (hR.agree r)

/-! ### Cursors that have not run -/

omit hR in
theorem quoteFor_agree {h g : Host} (agree : h.outline = g.outline) (t : Nat) :
    quoteFor h t = quoteFor g t := by
  unfold quoteFor
  rw [table_agree agree]
  cases (g.table t).session with
  | none => rfl
  | some s =>
    have e := congrArg Session.dialect (session_agree agree s)
    simp only [Session.outline] at e
    simp only [e]

omit hR in
/-- The host with one more cursor. -/
theorem outline_joinCursor {cursor : Cursor} (hc : cursor.phase = .fresh) (h : Host) :
    Host.outline { h with cursors := h.cursors.join cursor }
      = { h.outline with cursors := h.outline.cursors.join cursor } := by
  have ho : cursor.outline = cursor := by
    simp only [Cursor.outline, hc]
    rw [← hc]
  simp only [Host.outline, Roster.map_join, ho]

section Opening

variable (hopen : ∀ (cursor : Cursor) (h g : Host), cursor.phase = .fresh → R h g →
  R { h with cursors := h.cursors.join cursor } { g with cursors := g.cursors.join cursor })
include hopen

theorem steady_openCursor {cursor : Cursor} (hc : cursor.phase = .fresh) :
    Steady R (openCursor cursor) := by
  refine Steady.get_bind (fun h g r => ?_) fun h => ?_
  · rw [next_cursor_agree (hR.agree r)]
  exact Steady.bind (Steady.of_modify fun h g r => hopen cursor h g hc r) fun _ => Steady.of_pure _

theorem steady_openScan (t : Nat) (client : Option Nat) : Steady R (openScan t client) := by
  refine Steady.get_bind (fun h g r => by rw [table_agree (hR.agree r)]) fun h => ?_
  exact steady_openCursor hR hopen rfl

theorem steady_openFind (t : Nat) (index : Index) (client : Option Nat)
    (first last : Option (List Value)) : Steady R (openFind t index client first last) := by
  refine Steady.get_bind (fun h g r => ?_) fun h => ?_
  · simp only [table_agree (hR.agree r), quoteFor_agree (hR.agree r)]
  refine Steady.bind (Steady.of_ofExcept _) fun statement => ?_
  exact steady_openCursor hR hopen rfl

end Opening

end LinkedTables.Action
