import Mathlib.Data.List.Nodup
import Mathlib.Data.List.Perm.Subperm

/-!
# Two ways to replace rows

Rows are replaced, given as pairs of the old and the new one. One way goes pair by pair: every row
that is like the old one becomes the new one (`follow`). The other takes out the rows that are like
any of the old ones, and then puts in all new ones. From rows that differ among each other, the two
ways leave the same rows if no new row is like the old one of a later pair (`perm_of_unchained`),
and only then (`unchained_of_same`): otherwise the first way makes two rows one.
-/

namespace LinkedTables.Replacing

open List

variable {ρ : Type} (like : ρ → ρ → Bool)

/-- A row, with every pair whose old row it is like replacing it. -/
def follow (pairs : List (ρ × ρ)) (r : ρ) : ρ :=
  pairs.foldl (fun r pair => if like pair.1 r then pair.2 else r) r

/-- A row is like none of the old ones. -/
def untouched (pairs : List (ρ × ρ)) (r : ρ) : Bool := pairs.all fun pair => !like pair.1 r

/-- No new row is like the old one of a later pair. -/
def Unchained (pairs : List (ρ × ρ)) : Prop := pairs.Pairwise fun p q => like p.2 q.1 = false

/-- Rows that differ, and pairs whose old rows are different ones of them; the new rows differ, and
are like none of the rows that stay. -/
structure Replaceable (rows : List ρ) (pairs : List (ρ × ρ)) : Prop where
  rows_differ : rows.Pairwise fun r s => like r s = false
  olds_differ : pairs.Pairwise fun p q => like p.1 q.1 = false
  present : ∀ p ∈ pairs, ∃ r ∈ rows, like p.1 r = true
  news_differ : pairs.Pairwise fun p q => like p.2 q.2 = false
  fresh : ∀ p ∈ pairs, ∀ r ∈ rows, like p.2 r = true → ∃ q ∈ pairs, like q.1 r = true

variable {like} (equiv : Equivalence fun a b => like a b = true) {rows : List ρ}
  {pairs : List (ρ × ρ)}

theorem untouched_cons (p : ρ × ρ) (r : ρ) :
    untouched like (p :: pairs) r = (!like p.1 r && untouched like pairs r) := rfl

theorem untouched_of_differ {r : ρ} (differ : ∀ p ∈ pairs, like p.1 r = false) :
    untouched like pairs r = true :=
  List.all_eq_true.mpr fun p hp => by rw [differ p hp]; rfl

theorem follow_cons (p : ρ × ρ) (r : ρ) :
    follow like (p :: pairs) r = follow like pairs (if like p.1 r then p.2 else r) := rfl

theorem follow_append (pairs pairs' : List (ρ × ρ)) (r : ρ) :
    follow like (pairs ++ pairs') r = follow like pairs' (follow like pairs r) :=
  List.foldl_append

/-- A row that is like no old one stays. -/
theorem follow_of_differ {r : ρ} (differ : ∀ p ∈ pairs, like p.1 r = false) :
    follow like pairs r = r := by
  induction pairs with
  | nil => rfl
  | cons p pairs ih =>
    rw [follow_cons, differ p (List.mem_cons_self ..)]
    exact ih fun q hq => differ q (List.mem_cons_of_mem _ hq)

include equiv

theorem like_comm (r s : ρ) : like r s = like s r := by
  rw [Bool.eq_iff_iff]
  exact ⟨equiv.symm, equiv.symm⟩

/-- Rows that are alike are like the same rows. -/
theorem like_congr {r s : ρ} (alike : like r s = true) (x : ρ) : like x r = like x s := by
  rw [Bool.eq_iff_iff]
  exact ⟨fun xr => equiv.trans xr alike, fun xs => equiv.trans xs (equiv.symm alike)⟩

/-- Among rows that differ, a single one is replaced. -/
theorem replace_one {old : ρ} (new : ρ) (differ : rows.Pairwise fun r s => like r s = false)
    (present : ∃ r ∈ rows, like old r = true) :
    (rows.map fun r => if like old r then new else r)
      ~ new :: rows.filter fun r => !like old r := by
  induction rows with
  | nil =>
    obtain ⟨r, hr, -⟩ := present
    cases hr
  | cons r rows ih =>
    obtain ⟨others, differ⟩ := List.pairwise_cons.mp differ
    cases found : like old r with
    | true =>
      -- The others differ from this one, so that they are not like the old row.
      have stay : ∀ s ∈ rows, like old s = false := by
        intro s hs
        have same := like_congr equiv (equiv.symm found) s
        rw [like_comm equiv s r, others s hs] at same
        rw [like_comm equiv old s, ← same]
      have map : (rows.map fun r => if like old r then new else r) = rows := by
        rw [List.map_congr_left (g := id) fun s hs => by rw [stay s hs]; rfl, List.map_id]
      have filter : rows.filter (fun r => !like old r) = rows :=
        List.filter_eq_self.mpr fun s hs => by rw [stay s hs]; rfl
      rw [List.map_cons, List.filter_cons, found, map, filter]
      exact .refl _
    | false =>
      have present : ∃ r ∈ rows, like old r = true := by
        obtain ⟨s, hs, alike⟩ := present
        rcases List.mem_cons.mp hs with rfl | hs
        · rw [found] at alike
          cases alike
        · exact ⟨s, hs, alike⟩
      rw [List.map_cons, List.filter_cons, found]
      exact ((ih differ present).cons r).trans (.swap ..)

/-- A row that is like an old row is like no other. -/
theorem unlike_of_old {old old' r : ρ} (differ : like old old' = false)
    (alike : like old' r = true) : like old r = false := by
  rw [← like_congr equiv alike old, differ]

/-- Of the rows, as many are touched as there are pairs. -/
theorem length_untouched (differ : rows.Pairwise fun r s => like r s = false)
    (olds : pairs.Pairwise fun p q => like p.1 q.1 = false)
    (present : ∀ p ∈ pairs, ∃ r ∈ rows, like p.1 r = true) :
    (rows.filter (untouched like pairs)).length + pairs.length = rows.length := by
  induction pairs generalizing rows with
  | nil => simp [untouched]
  | cons p pairs ih =>
    obtain ⟨others, olds⟩ := List.pairwise_cons.mp olds
    have taken := (replace_one equiv p.2 differ (present p (List.mem_cons_self ..))).length_eq
    rw [List.length_map, List.length_cons] at taken
    have split : rows.filter (untouched like (p :: pairs))
        = (rows.filter fun r => !like p.1 r).filter (untouched like pairs) := by
      rw [List.filter_filter]
      exact List.filter_congr fun r _ => (untouched_cons p r).trans (Bool.and_comm ..)
    have rest := ih (differ.filter fun r => !like p.1 r) olds fun q hq => by
      obtain ⟨r, hr, alike⟩ := present q (List.mem_cons_of_mem _ hq)
      refine ⟨r, List.mem_filter.mpr ⟨hr, ?_⟩, alike⟩
      rw [unlike_of_old equiv (others q hq) alike]
      rfl
    rw [split, List.length_cons]
    omega

/-- What is left of a replacement once its first pair has been followed. -/
theorem Replaceable.tail {p : ρ × ρ} (h : Replaceable like rows (p :: pairs))
    (free : ∀ q ∈ pairs, like p.2 q.1 = false) :
    Replaceable like (rows.map fun r => if like p.1 r then p.2 else r) pairs := by
  obtain ⟨olds, olds_differ⟩ := List.pairwise_cons.mp h.olds_differ
  obtain ⟨news, news_differ⟩ := List.pairwise_cons.mp h.news_differ
  have one := replace_one equiv p.2 h.rows_differ (h.present p (List.mem_cons_self ..))
  refine ⟨?_, olds_differ, fun q hq => ?_, news_differ, fun q hq r' hr' alike => ?_⟩
  · rw [one.pairwise_iff fun differ => by rw [like_comm equiv]; exact differ]
    refine List.pairwise_cons.mpr ⟨fun r hr => ?_, h.rows_differ.filter _⟩
    obtain ⟨hr, unlike⟩ := List.mem_filter.mp hr
    rw [Bool.eq_false_iff]
    intro alike
    -- A row that the new one is like is touched, by this pair or by a later one.
    obtain ⟨q, hq, old⟩ := h.fresh p (List.mem_cons_self ..) r hr alike
    rcases List.mem_cons.mp hq with rfl | hq
    · rw [old] at unlike
      cases unlike
    · have same := like_congr equiv old p.2
      rw [free q hq, alike] at same
      cases same
  · obtain ⟨r, hr, alike⟩ := h.present q (List.mem_cons_of_mem _ hq)
    refine ⟨r, List.mem_map.mpr ⟨r, hr, ?_⟩, alike⟩
    rw [unlike_of_old equiv (olds q hq) alike]
    rfl
  · obtain ⟨r, hr, rfl⟩ := List.mem_map.mp hr'
    cases old : like p.1 r with
    | true =>
      rw [old] at alike
      have differ := news q hq
      rw [like_comm equiv] at differ
      exact absurd alike (Bool.eq_false_iff.mp differ)
    | false =>
      rw [old] at alike
      obtain ⟨q', hq', old'⟩ := h.fresh q (List.mem_cons_of_mem _ hq) r hr alike
      rcases List.mem_cons.mp hq' with rfl | hq'
      · rw [old] at old'
        cases old'
      · exact ⟨q', hq', old'⟩

/-- If no new row is like the old one of a later pair, both ways leave the same rows. -/
theorem perm_of_unchained (h : Replaceable like rows pairs) (unchained : Unchained like pairs) :
    rows.map (follow like pairs) ~ rows.filter (untouched like pairs) ++ pairs.map (·.2) := by
  induction pairs generalizing rows with
  | nil =>
    have all : rows.filter (untouched like []) = rows := List.filter_eq_self.mpr fun _ _ => rfl
    rw [show follow like [] = id from rfl, List.map_id, all, List.map_nil, List.append_nil]
  | cons p pairs ih =>
    obtain ⟨free, unchained⟩ := List.pairwise_cons.mp unchained
    have one := replace_one equiv p.2 h.rows_differ (h.present p (List.mem_cons_self ..))
    -- The new row of the first pair is in nobody's way.
    have kept := one.filter (untouched like pairs)
    rw [List.filter_cons, untouched_of_differ fun q hq => by rw [like_comm equiv, free q hq],
      List.filter_filter] at kept
    have split : (rows.filter fun r => untouched like pairs r && !like p.1 r)
        = rows.filter (untouched like (p :: pairs)) :=
      List.filter_congr fun r _ => (Bool.and_comm ..).trans (untouched_cons p r).symm
    calc rows.map (follow like (p :: pairs))
        = (rows.map fun r => if like p.1 r then p.2 else r).map (follow like pairs) := by
          rw [List.map_map]
          rfl
      _ ~ (rows.map fun r => if like p.1 r then p.2 else r).filter (untouched like pairs)
            ++ pairs.map (·.2) := ih (h.tail equiv free) unchained
      _ ~ p.2 :: rows.filter (untouched like (p :: pairs)) ++ pairs.map (·.2) := by
          rw [← split]
          exact kept.append_right _
      _ ~ rows.filter (untouched like (p :: pairs)) ++ (p :: pairs).map (·.2) :=
          List.perm_middle.symm

/-- What is left and what is put in differ. -/
theorem differ_of_replaceable (h : Replaceable like rows pairs) :
    (rows.filter (untouched like pairs) ++ pairs.map (·.2)).Pairwise
      fun r s => like r s = false := by
  refine List.pairwise_append.mpr ⟨h.rows_differ.filter _, ?_, fun r hr s hs => ?_⟩
  · exact List.pairwise_map.mpr h.news_differ
  · obtain ⟨hr, unlike⟩ := List.mem_filter.mp hr
    obtain ⟨p, hp, rfl⟩ := List.mem_map.mp hs
    rw [Bool.eq_false_iff]
    intro alike
    obtain ⟨q, hq, old⟩ := h.fresh p hp r hr (equiv.symm alike)
    have stays := List.all_eq_true.mp unlike q hq
    rw [old] at stays
    cases stays

/-- A row that is like the old one of a pair, and of none before it, becomes its new one. -/
theorem follow_at {before after : List (ρ × ρ)} {p : ρ × ρ} {r : ρ}
    (differ : ∀ q ∈ before, like q.1 p.1 = false) (old : like p.1 r = true) :
    follow like (before ++ p :: after) r = follow like after p.2 := by
  rw [follow_append, follow_of_differ fun q hq => unlike_of_old equiv (differ q hq) old,
    follow_cons, old]
  rfl

omit equiv in
/-- Where a new row is like the old one of a later pair. -/
theorem exists_of_chained (chained : ¬ Unchained like pairs) :
    ∃ before p between q after,
      pairs = before ++ p :: (between ++ q :: after) ∧ like p.2 q.1 = true := by
  induction pairs with
  | nil => exact absurd .nil chained
  | cons p pairs ih =>
    by_cases free : ∀ q ∈ pairs, like p.2 q.1 = false
    · obtain ⟨before, p', between, q, after, rfl, old⟩ :=
        ih fun unchained => chained (.cons free unchained)
      exact ⟨p :: before, p', between, q, after, rfl, old⟩
    · push Not at free
      obtain ⟨q, hq, old⟩ := free
      obtain ⟨between, after, rfl⟩ := List.append_of_mem hq
      exact ⟨[], p, between, q, after, rfl, (Bool.not_eq_false _).mp old⟩

/-- Two rows become one if a new row is like the old one of a later pair. -/
theorem merged_of_chained (h : Replaceable like rows pairs) (chained : ¬ Unchained like pairs) :
    ∃ r ∈ rows, ∃ s ∈ rows, like r s = false ∧ follow like pairs r = follow like pairs s := by
  obtain ⟨before, p, between, q, after, rfl, old⟩ := exists_of_chained chained
  obtain ⟨r, hr, pr⟩ := h.present p (by simp)
  obtain ⟨s, hs, qs⟩ := h.present q (by simp)
  obtain ⟨-, later, differ⟩ := List.pairwise_append.mp h.olds_differ
  obtain ⟨next, later⟩ := List.pairwise_cons.mp later
  obtain ⟨-, -, inner⟩ := List.pairwise_append.mp later
  have pq : like p.1 q.1 = false := next q (by simp)
  refine ⟨r, hr, s, hs, ?_, ?_⟩
  · have ps := unlike_of_old equiv pq qs
    rw [like_comm equiv] at ps ⊢
    exact unlike_of_old equiv ps pr
  · -- The first row becomes the second one's old row, and both go on together.
    rw [follow_at equiv (fun x hx => differ x hx p (List.mem_cons_self ..)) pr,
      follow_at equiv (fun x hx => inner x hx q (List.mem_cons_self ..)) (equiv.symm old)]
    have first : ∀ x ∈ before ++ p :: between, like x.1 q.1 = false := by
      intro x hx
      rcases List.mem_append.mp hx with hx | hx
      · exact differ x hx q (by simp)
      · rcases List.mem_cons.mp hx with rfl | hx
        · exact pq
        · exact inner x hx q (List.mem_cons_self ..)
    have regrouped : before ++ p :: (between ++ q :: after)
        = (before ++ p :: between) ++ q :: after := by
      rw [List.append_assoc, List.cons_append]
    rw [regrouped, follow_at equiv first qs]

/-- If both ways leave the same rows, no new row is like the old one of a later pair. -/
theorem unchained_of_same (h : Replaceable like rows pairs)
    (same : ∀ r, r ∈ rows.map (follow like pairs)
      ↔ r ∈ rows.filter (untouched like pairs) ++ pairs.map (·.2)) : Unchained like pairs := by
  by_contra chained
  obtain ⟨r, hr, s, hs, unlike, merged⟩ := merged_of_chained equiv h chained
  have nodup {l : List ρ} (differ : l.Pairwise fun r s => like r s = false) : l.Nodup :=
    differ.imp fun unlike e => by rw [e, equiv.refl _] at unlike; cases unlike
  -- The rows that the first way leaves are as many, and among them are all that the other leaves.
  have within := List.subperm_of_subset (nodup (differ_of_replaceable equiv h))
    fun r hr => (same r).mpr hr
  have count := length_untouched equiv h.rows_differ h.olds_differ h.present
  have perm := within.perm_of_length_le (by
    rw [List.length_map, List.length_append, List.length_map]
    omega)
  have left := perm.nodup (nodup (differ_of_replaceable equiv h))
  have one := List.inj_on_of_nodup_map left hr hs merged
  rw [one, equiv.refl] at unlike
  cases unlike

end LinkedTables.Replacing
