import LinkedTables.Dialect.Identifier

/-!
# Folding names to upper case

A text in upper case stays as it is in upper case (`upper_upper`): what comes of a character is
`isSettled`, moved by no mapping. The tables show this run by run. The image of a run is again an
evenly spaced run of code points, and it stands apart from every run that is mapped
(`images_apart`), either behind it, or before it, or, where both take every other code point, on
those that the other leaves out.

So the canonical form of a name is the same as the name in upper case (`upper_canonical`), and names
that differ in more than case have different canonical forms, whatever the dialect (`canonical_ne`).
-/

namespace LinkedTables.Text

/-! ### Mappings -/

/-- A run maps the code point. -/
def CaseRun.has (r : CaseRun) (n : Nat) : Bool :=
  r.first ≤ n && n ≤ r.last && (n - r.first) % r.step == 0

/-- What a run makes of a code point. -/
def CaseRun.moved (r : CaseRun) (n : Nat) : Nat := ((n : Int) + r.shift).toNat

/-- A mapping takes the image of a character from an expansion or from a run, or leaves it. -/
theorem caseMap_cases (runs : Array CaseRun) (expansions : Array (Nat × List Nat)) (c : Char) :
    (∃ e ∈ expansions, e.1 = c.toNat ∧ caseMap runs expansions c = e.2.map Char.ofNat)
      ∨ (∃ r ∈ runs, r.has c.toNat ∧ caseMap runs expansions c = [Char.ofNat (r.moved c.toNat)])
      ∨ caseMap runs expansions c = [c] := by
  unfold caseMap
  split
  next n image expanded =>
    have here := Array.find?_some expanded
    exact .inl ⟨_, Array.mem_of_find?_eq_some expanded, beq_iff_eq.mp here, rfl⟩
  next =>
    unfold CaseRun.image?
    cases moved : runs.find? fun r => r.first ≤ c.toNat && c.toNat ≤ r.last
        && (c.toNat - r.first) % r.step == 0 with
    | some r =>
      have here := Array.find?_some moved
      exact .inr (.inl ⟨r, Array.mem_of_find?_eq_some moved, here, rfl⟩)
    | none => exact .inr (.inr rfl)

/-! ### Characters that stay -/

/-- The code point of a character that no mapping to upper case moves. -/
structure IsSettled (n : Nat) : Prop where
  valid : n.isValidChar
  run : ∀ r ∈ upperRuns, r.has n = false
  expansion : ∀ e ∈ upperExpansions, e.1 ≠ n

theorem toNat_ofNat {n : Nat} (valid : n.isValidChar) : (Char.ofNat n).toNat = n := by
  rw [Char.ofNat, dif_pos valid]
  rfl

/-- The plain letters are a run. -/
theorem letters_mem : ⟨97, 122, 1, -32⟩ ∈ upperRuns :=
  Array.mem_toList_iff.mp (List.mem_cons_self ..)

theorem toUpper_of_isSettled {c : Char} (settled : IsSettled c.toNat) : c.toUpper = c := by
  have outside := settled.run _ letters_mem
  refine dif_neg fun ⟨first, last⟩ => ?_
  have inside : CaseRun.has ⟨97, 122, 1, -32⟩ c.toNat = true := by
    simpa [CaseRun.has, Nat.mod_one] using
      And.intro (UInt32.le_iff_toNat_le.mp first) (UInt32.le_iff_toNat_le.mp last)
  rw [inside] at outside
  cases outside

/-- A settled character is its own upper case. -/
theorem upperChar_of_isSettled {c : Char} (settled : IsSettled c.toNat) : upperChar c = [c] := by
  unfold upperChar
  split
  next => rw [toUpper_of_isSettled settled]
  next =>
    rcases caseMap_cases upperRuns upperExpansions c with ⟨e, he, here, -⟩ | ⟨r, hr, moved, -⟩
      | same
    · exact absurd here (settled.expansion e he)
    · exact absurd moved (Bool.eq_false_iff.mp (settled.run r hr))
    · exact same

/-! ### Images -/

/-- The code points to which a run is mapped: from `first` on to `last`, each `step` apart. -/
structure Image where
  first : Nat
  last : Nat
  step : Nat

/-- The image of a run. -/
def CaseRun.image (r : CaseRun) : Image :=
  ⟨((r.first : Int) + r.shift).toNat, ((r.last : Int) + r.shift).toNat, r.step⟩

/-- The code points of an image are those of characters. -/
def Image.isValid (i : Image) : Bool :=
  Nat.blt i.last 0xd800 || (Nat.blt 0xdfff i.first && Nat.blt i.last 0x110000)

/-- A run has no code point of the image: it lies before or behind, or both take every other code
point and the run takes those that the image leaves out. -/
def Image.isApart (i : Image) (r : CaseRun) : Bool :=
  Nat.blt i.last r.first || Nat.blt r.last i.first
    || ((Nat.beq i.step 2 || Nat.beq i.first i.last) && Nat.beq r.step 2
      && Nat.beq ((i.first + r.first) % 2) 1)

/-- No mapping to upper case moves a code point of the image. -/
def Image.stays (i : Image) : Bool :=
  i.isValid && upperRuns.toList.all i.isApart
    && upperExpansions.toList.all fun e => Nat.blt e.1 i.first || Nat.blt i.last e.1

set_option maxRecDepth 10000 in
/-- The images of all runs stay, and no run leads below zero. -/
theorem images_stay :
    upperRuns.toList.all (fun r => r.image.stays && decide (0 ≤ (r.first : Int) + r.shift))
      = true := by
  decide +kernel

/-- What the expansions are made of stays. -/
theorem expansions_stay :
    (upperExpansions.toList.flatMap (·.2)).all (fun n => (Image.mk n n 1).stays) = true := by
  decide +kernel

/-- A code point of an image that stays is settled. -/
theorem isSettled_of_stays {i : Image} {n : Nat} (stays : i.stays = true) (first : i.first ≤ n)
    (last : n ≤ i.last) (step : (n - i.first) % i.step = 0) : IsSettled n := by
  simp only [Image.stays, Bool.and_eq_true, List.all_eq_true, Bool.or_eq_true, Nat.blt_eq] at stays
  obtain ⟨⟨valid, apart⟩, unexpanded⟩ := stays
  refine ⟨?_, fun r hr => ?_, fun e he same => ?_⟩
  · simp only [Image.isValid, Bool.or_eq_true, Bool.and_eq_true, Nat.blt_eq] at valid
    unfold Nat.isValidChar
    omega
  · have clear := apart r (Array.mem_toList_iff.mpr hr)
    simp only [Image.isApart, Bool.or_eq_true, Bool.and_eq_true, Nat.blt_eq, Nat.beq_eq] at clear
    refine Bool.eq_false_iff.mpr fun moved => ?_
    simp only [CaseRun.has, Bool.and_eq_true, decide_eq_true_eq, beq_iff_eq] at moved
    rcases clear with (before | behind) | ⟨⟨other | single, two⟩, odd⟩
    · omega
    · omega
    · rw [other] at step
      rw [two] at moved
      omega
    · rw [two] at moved
      omega
  · have clear := unexpanded e (Array.mem_toList_iff.mpr he)
    omega

/-! ### Texts -/

/-- What a run makes of a code point is settled. -/
theorem isSettled_of_run {r : CaseRun} {n : Nat} (hr : r ∈ upperRuns) (moved : r.has n = true) :
    IsSettled (r.moved n) := by
  have whole := List.all_eq_true.mp images_stay r (Array.mem_toList_iff.mpr hr)
  simp only [Bool.and_eq_true, decide_eq_true_eq] at whole
  obtain ⟨stays, positive⟩ := whole
  simp only [CaseRun.has, Bool.and_eq_true, decide_eq_true_eq, beq_iff_eq] at moved
  obtain ⟨⟨first, last⟩, step⟩ := moved
  have behind : r.moved n - r.image.first = n - r.first := by
    simp only [CaseRun.image, CaseRun.moved]
    omega
  refine isSettled_of_stays stays ?_ ?_ (behind ▸ step)
  · simp only [CaseRun.image, CaseRun.moved]
    omega
  · simp only [CaseRun.image, CaseRun.moved]
    omega

/-- What an expansion makes of a code point is settled. -/
theorem isSettled_of_expansion {e : Nat × List Nat} {n : Nat} (he : e ∈ upperExpansions)
    (hn : n ∈ e.2) : IsSettled n := by
  have made := List.mem_flatMap.mpr ⟨e, Array.mem_toList_iff.mpr he, hn⟩
  have stays := List.all_eq_true.mp expansions_stay n made
  exact isSettled_of_stays stays (Nat.le_refl n) (Nat.le_refl n) (Nat.mod_one _)

/-- The capital of a plain character is settled, or it is the character itself. -/
theorem toUpper_eq_or_isSettled (c : Char) : c.toUpper = c ∨ IsSettled c.toUpper.toNat := by
  unfold Char.toUpper
  split
  next small =>
    have first : 97 ≤ c.toNat := UInt32.le_iff_toNat_le.mp small.1
    have last : c.toNat ≤ 122 := UInt32.le_iff_toNat_le.mp small.2
    have settled := isSettled_of_run letters_mem (n := c.toNat)
      (by simp [CaseRun.has, Nat.mod_one, first, last])
    have capital : (c.val + ('A'.val - 'a'.val)).toNat
        = CaseRun.moved ⟨97, 122, 1, -32⟩ c.toNat := by
      have distance : ('A'.val - 'a'.val).toNat = 4294967264 := by decide
      rw [UInt32.toNat_add, distance]
      show (c.toNat + 4294967264) % 4294967296 = ((c.toNat : Int) + -32).toNat
      omega
    rw [← capital] at settled
    exact .inr settled
  next => exact .inl rfl

/-- The upper case of a character is made of characters that are their own upper case. -/
theorem upperChar_of_mem {c d : Char} (hd : d ∈ upperChar c) : upperChar d = [d] := by
  have own : ∀ n, IsSettled n → upperChar (Char.ofNat n) = [Char.ofNat n] := by
    intro n settled
    exact upperChar_of_isSettled ((toNat_ofNat settled.valid).symm ▸ settled)
  have e := hd
  unfold upperChar at e
  split at e
  next ascii =>
    rw [List.mem_singleton.mp e]
    rcases toUpper_eq_or_isSettled c with same | settled
    · rw [same, upperChar_ascii ascii, same]
    · exact upperChar_of_isSettled settled
  next above =>
    rcases caseMap_cases upperRuns upperExpansions c with ⟨x, hx, -, made⟩ | ⟨r, hr, moved, made⟩
      | same
    · rw [made] at e
      obtain ⟨n, hn, rfl⟩ := List.mem_map.mp e
      exact own n (isSettled_of_expansion hx hn)
    · rw [made, List.mem_singleton] at e
      rw [e]
      exact own _ (isSettled_of_run hr moved)
    · rw [same, List.mem_singleton] at e
      rw [e]
      exact (if_neg above).trans same

/-- Upper case stays as it is in upper case. -/
theorem upper_upper (s : String) : upper (upper s) = upper s := by
  have stays : ∀ cs : List Char, (∀ c ∈ cs, upperChar c = [c]) → cs.flatMap upperChar = cs := by
    intro cs own
    induction cs with
    | nil => rfl
    | cons c cs ih =>
      obtain ⟨here, own⟩ := List.forall_mem_cons.mp own
      rw [List.flatMap_cons, here, ih own]
      rfl
  unfold upper
  rw [String.toList_ofList, stays]
  intro d hd
  obtain ⟨c, _, hd⟩ := List.mem_flatMap.mp hd
  exact upperChar_of_mem hd

end LinkedTables.Text

namespace LinkedTables.Dialect

/-- In upper case, the canonical form of a name is that of the name. -/
theorem upper_canonical (flags : Flags) (vendor : Vendor) (name : String) :
    Text.upper (canonical flags vendor name) = Text.upper name := by
  rcases canonical_eq_upper_or_self flags vendor name with e | e
  · rw [e, Text.upper_upper]
  · rw [e]

/-- Names that differ in more than case have different canonical forms. -/
theorem canonical_ne {a b : String} (apart : Text.upper a ≠ Text.upper b) (flags : Flags)
    (vendor : Vendor) : canonical flags vendor a ≠ canonical flags vendor b := by
  intro same
  have same := congrArg Text.upper same
  rw [upper_canonical, upper_canonical] at same
  exact apart same

end LinkedTables.Dialect
