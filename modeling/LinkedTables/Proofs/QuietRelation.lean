import LinkedTables.Proofs.Outline

/-!
# Quiet relations

A relation of hosts is `Quiet` if related hosts have one outline and if it survives every change
that touches neither the lines nor the shelves. `Harmless` changes are of that kind on every host
and look at nothing but its outline; an action made of them is steady under every quiet relation.
-/

namespace LinkedTables

/-- A relation that only lines and shelves can break, of hosts that look the same. -/
structure Quiet (R : Host → Host → Prop) : Prop where
  agree : ∀ {h g : Host}, R h g → h.outline = g.outline
  keep : ∀ (f : Host → Host) {h g : Host}, R h g →
    (f h).lines = h.lines → (f h).shelves = h.shelves →
    (f g).lines = g.lines → (f g).shelves = g.shelves →
    (f h).outline = (f g).outline → R (f h) (f g)

/-- A change of hosts that touches neither lines nor shelves and looks at the outline only. -/
structure Harmless (f : Host → Host) : Prop where
  lines : ∀ h, (f h).lines = h.lines
  shelves : ∀ h, (f h).shelves = h.shelves
  outline : ∀ h, (f h).outline = f h.outline

namespace Quiet

variable {R : Host → Host → Prop}

theorem related (hR : Quiet R) {f : Host → Host} (hf : Harmless f) {h g : Host} (r : R h g) :
    R (f h) (f g) := by
  refine hR.keep f r (hf.lines h) (hf.shelves h) (hf.lines g) (hf.shelves g) ?_
  rw [hf.outline, hf.outline, hR.agree r]

/-- A property of the lines and shelves of a host. -/
theorem same {P : Host → Prop}
    (hP : ∀ h h' : Host, h'.lines = h.lines → h'.shelves = h.shelves → P h → P h') :
    Quiet (Same P) where
  agree := by
    rintro h g ⟨rfl, -⟩
    rfl
  keep := by
    rintro f h g ⟨rfl, hh⟩ hl hs - - -
    exact ⟨rfl, hP h (f h) hl hs hh⟩

theorem and_left (hR : Quiet R) (p : Prop) : Quiet fun h g => p ∧ R h g where
  agree r := hR.agree r.2
  keep f _ _ r hl hs gl gs ho := ⟨r.1, hR.keep f r.2 hl hs gl gs ho⟩

theorem of_exists {ι : Type} {R : ι → Host → Host → Prop} (hR : ∀ i, Quiet (R i)) :
    Quiet fun h g => ∃ i, R i h g where
  agree := fun ⟨i, r⟩ => (hR i).agree r
  keep f _ _ := fun ⟨i, r⟩ hl hs gl gs ho => ⟨i, (hR i).keep f r hl hs gl gs ho⟩

/-- What is known of the cursors is told by the shelves. -/
theorem and_cursors (hR : Quiet R) (F : Roster Cursor → Roster Cursor → Prop) :
    Quiet fun h g => R h g ∧ F h.cursors g.cursors where
  agree r := hR.agree r.1
  keep f h g r hl hs gl gs ho := by
    refine ⟨hR.keep f r.1 hl hs gl gs ho, ?_⟩
    have eh : (f h).cursors = h.cursors := congrArg Shelves.cursors hs
    have eg : (f g).cursors = g.cursors := congrArg Shelves.cursors gs
    rw [eh, eg]
    exact r.2

/-- That a table exists is told by the lines. -/
theorem and_known (hR : Quiet R) (t : Nat) : Quiet fun h g => R h g ∧ t < h.tables.next where
  agree r := hR.agree r.1
  keep f h g r hl hs gl gs ho := by
    refine ⟨hR.keep f r.1 hl hs gl gs ho, ?_⟩
    have e := congrArg (fun l => l.held.length) hl
    simp only [Host.lines, List.length_map] at e
    rw [Roster.next, e]
    exact r.2

end Quiet

namespace Action

variable {α β : Type} {R : Host → Host → Prop} (hR : Quiet R)
include hR

/-! ### Single changes -/

theorem smooth_modify {f : Host → Host} (hf : Harmless f) : Smooth R (modify f) :=
  Smooth.of_modify fun _ _ r => hR.related hf r

theorem smooth_note {event : Event} (ho : event.outline = event) (hm : event.move? = none)
    (hc : event.closed? = none) : Smooth R (note event) := by
  refine smooth_modify hR ⟨fun h => ?_, fun h => h.shelves_note hc, fun h => ?_⟩
  · simp only [Host.lines, List.filterMap_cons, hm]
  · simp only [Host.outline, List.map_cons, ho]

theorem smooth_report (notice : Notice) : Smooth R (report notice) := by
  refine smooth_modify hR ⟨fun h => ?_, fun h => ?_, fun h => ?_⟩
  · split <;> rfl
  · split <;> rfl
  · by_cases hn : h.level.number ≤ notice.level.number
    · rw [if_pos hn, if_pos (show h.outline.level.number ≤ notice.level.number from hn)]
      rfl
    · rw [if_neg hn, if_neg (show ¬h.outline.level.number ≤ notice.level.number from hn)]

theorem smooth_reportAll (notices : List Notice) : Smooth R (reportAll notices) :=
  Smooth.of_forM notices (smooth_report hR)

theorem smooth_fromScript (call : Remote.Script → α × Remote.Script) :
    Smooth R (fromScript call) := by
  refine Smooth.get_bind (fun h g r => by rw [script_agree (hR.agree r)]) fun h => ?_
  obtain ⟨a, script⟩ := call h.script
  refine Smooth.bind (smooth_modify hR ?_) fun _ => Smooth.of_pure a
  exact ⟨fun _ => rfl, fun _ => rfl, fun _ => rfl⟩

/-- A change of the pool that leaves the shared sessions alone. -/
theorem smooth_revisePool {f : Pool → Pool}
    (hf : ∀ pool, (f pool).shares = pool.shares ∧ (f pool).shared = pool.shared) :
    Smooth R (revisePool f) := by
  refine smooth_modify hR ⟨fun h => ?_, fun _ => rfl, fun _ => rfl⟩
  simp only [Host.lines, (hf h.pool).1, (hf h.pool).2]

omit hR in
/-- A change of a table that leaves its session alone. -/
theorem harmless_reviseTable (t : Nat) {f : LinkedTable → LinkedTable}
    (hf : ∀ table, (f table).session = table.session) :
    Harmless fun h => { h with tables := h.tables.revise t f } := by
  refine ⟨fun h => ?_, fun _ => rfl, fun _ => rfl⟩
  simp only [Host.lines, Roster.map_revise_same hf]

theorem smooth_reviseTable (t : Nat) {f : LinkedTable → LinkedTable}
    (hf : ∀ table, (f table).session = table.session) : Smooth R (reviseTable t f) :=
  smooth_modify hR (harmless_reviseTable t hf)

/-- New flags for a session. -/
theorem smooth_reviseFlags (s : Nat) (flags : Dialect.Flags) :
    Smooth R (reviseSession s fun session => { session with flags }) := by
  refine smooth_modify hR ⟨fun h => ?_, fun h => ?_, fun h => ?_⟩
  · have e := Roster.map_revise_same (g := Session.line)
      (f := fun session => { session with flags }) (fun _ => rfl) h.sessions s
    simp only [Host.lines, e]
  · have e := Roster.map_revise_same (g := Session.shelf)
      (f := fun session => { session with flags }) (fun _ => rfl) h.sessions s
    simp only [Host.shelves, e]
  · have e := Roster.map_revise (g := Session.outline) (f := fun session => { session with flags })
      (k := fun session => { session with flags }) (fun _ => rfl) h.sessions s
    simp only [Host.outline, e]

theorem smooth_reviseResult (r : Nat) (f : ResultSet → ResultSet) :
    Smooth R (reviseResult r f) := by
  refine smooth_modify hR ⟨fun _ => rfl, fun h => ?_, fun _ => rfl⟩
  simp only [Host.shelves, Roster.next_revise]

omit hR in
theorem harmless_link (link : Option String) : Harmless fun h => { h with link } :=
  ⟨fun _ => rfl, fun _ => rfl, fun _ => rfl⟩

/-- What is worked in the name of a link is coupled as it is under its own name. -/
theorem coupled_inLink {Q : α → β → Host → Host → Prop} {E : Host → Host → Prop}
    {x : Action α} {y : Action β} (name : String) (hQ : ∀ a b, Quiet (Q a b)) (hE : Quiet E)
    (hx : Coupled R x y Q E) : Coupled R (inLink name x) (inLink name y) Q E := by
  refine Coupled.get_bind' fun h g r => ?_
  rw [link_agree (hR.agree r)]
  refine Coupled.modify_bind (fun _ _ r => hR.related (harmless_link (some name)) r) ?_
  refine Coupled.outcome_bind hx (fun a b => ?_) fun fault => ?_
  · exact Coupled.modify_bind (fun _ _ q => (hQ a b).related (harmless_link g.link) q)
      (Coupled.of_pure fun _ _ q => q)
  · exact Coupled.modify_bind (fun _ _ e => hE.related (harmless_link g.link) e)
      (Coupled.of_throw fun _ _ e => e)

end Action

end LinkedTables
