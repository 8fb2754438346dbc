import LinkedTables.Number.Exact
import LinkedTables.Number.Reading
import Mathlib.Data.List.Basic
import Mathlib.Data.List.TakeWhile

/-!
# Integers as decimals

The text of an integer reads as the decimal of the same value, with no place behind the point
(`read?_intText`), and two such decimals are equal as numbers only if the integers are
(`same_ofInt`).
-/

namespace LinkedTables.Number

open Text

/-! ### Digits -/

/-- What holds of the ten digits holds of every character that is a digit. -/
theorem forall_digit {P : Char → Prop} (each : ∀ k < 10, P (Char.ofNat (48 + k))) {c : Char}
    (digit : c.isDigit = true) : P c := by
  simp only [Char.isDigit, ge_iff_le, Bool.and_eq_true, decide_eq_true_eq] at digit
  have least : 48 ≤ c.toNat := digit.1
  have most : c.toNat ≤ 57 := digit.2
  have code : c = Char.ofNat (48 + (c.toNat - 48)) := by
    rw [Nat.add_sub_cancel' least, Char.ofNat_toNat]
  exact code ▸ each (c.toNat - 48) (by omega)

/-- A digit stands for itself wherever numbers are read. -/
theorem plain_digit {c : Char} (digit : c.isDigit = true) :
    asciiDigit? c = some (c.toNat - 48) ∧ isBlank c = false ∧ c ≠ '_'
      ∧ Decimal.plainDigit c = c ∧ c.toLower = c := by
  refine forall_digit (P := fun c => asciiDigit? c = some (c.toNat - 48) ∧ isBlank c = false
    ∧ c ≠ '_' ∧ Decimal.plainDigit c = c ∧ c.toLower = c) ?_ digit
  decide +kernel

theorem isDigit_of_mem_decimalText {n : Nat} {c : Char} (among : c ∈ decimalText n) :
    c.isDigit = true :=
  Nat.isDigit_of_mem_toDigits (by decide) (by decide) among

theorem decimalText_ne_nil (n : Nat) : decimalText n ≠ [] := Nat.toDigits_ne_nil

theorem digitValues_decimalText (n : Nat) :
    (decimalText n).filterMap asciiDigit? = (decimalText n).map fun c => c.toNat - 48 :=
  List.filterMap_eq_map_iff_forall_eq_some.mpr fun _ among =>
    (plain_digit (isDigit_of_mem_decimalText among)).1

/-- The digits of a number, read back. -/
theorem natOfDigits_decimalText (n : Nat) :
    natOfDigits ((decimalText n).filterMap asciiDigit?) = n := by
  have read : Nat.ofDigitChars 10 (decimalText n) 0 = n :=
    Nat.ofDigitChars_toDigits (by decide) (by decide)
  rw [digitValues_decimalText, natOfDigits, List.foldl_map]
  exact read

theorem spanDigits_decimalText (n : Nat) :
    Decimal.spanDigits (decimalText n) = ((decimalText n).filterMap asciiDigit?, []) := by
  have digits : ∀ c ∈ decimalText n, (Decimal.spanDigits.asciiDigit? c).isSome = true := by
    intro c among
    rw [Decimal.spanDigits.asciiDigit?, (plain_digit (isDigit_of_mem_decimalText among)).1]
    rfl
  rw [Decimal.spanDigits, List.takeWhile_eq_self_iff.mpr digits,
    List.dropWhile_eq_nil_iff.mpr digits]
  rfl

/-! ### Reading -/

theorem dropBoth_of_all {p : Char → Bool} {cs : List Char} (none : ∀ c ∈ cs, p c = false) :
    dropBoth p cs = cs := by
  have kept {l : List Char} (none : ∀ c ∈ l, p c = false) : l.dropWhile p = l :=
    List.dropWhile_eq_self_iff.mpr fun inside => by
      rw [none _ (List.getElem_mem inside)]
      exact Bool.false_ne_true
  rw [dropBoth, kept none, kept fun c among => none c (List.mem_reverse.mp among),
    List.reverse_reverse]

/-- Digits are no word, nor do they begin with one. -/
theorem take_decimalText_ne (n k : Nat) {letter : Char} (word : List Char)
    (no_digit : letter.isDigit = false) :
    (Decimal.smallLetters (decimalText n)).take k ≠ letter :: word := by
  intro same
  have among : letter ∈ (Decimal.smallLetters (decimalText n)).take k := same ▸ List.mem_cons_self
  obtain ⟨c, here, small⟩ := List.mem_map.mp (List.mem_of_mem_take among)
  have digit := isDigit_of_mem_decimalText here
  rw [← small, (plain_digit digit).2.2.2.2, digit] at no_digit
  cases no_digit

theorem readSize?_decimalText (n : Nat) : Decimal.readSize? (decimalText n) = some (n, 0) := by
  have some_digit : ((decimalText n).filterMap asciiDigit?).isEmpty = false := by
    rw [digitValues_decimalText, List.isEmpty_map]
    exact Bool.eq_false_iff.mpr fun empty => decimalText_ne_nil n (List.isEmpty_iff.mp empty)
  rw [Decimal.readSize?, spanDigits_decimalText]
  simp only [some_digit, Bool.false_and, Bool.false_eq_true, if_false, Decimal.readExponent?,
    List.append_nil, natOfDigits_decimalText]
  rfl

/-- A number of few digits is read as the decimal that it is. -/
theorem readPlain?_digits {n : Nat} (few : (decimalText n).length ≤ maxDigits) {negative : Bool}
    {cs : List Char} (sign : Decimal.spanSign cs = (negative, decimalText n)) :
    Decimal.readPlain? cs = some (.finite negative n 0) := by
  have places : Decimal.adjusted n 0 ≤ Decimal.maxAdjusted ∧ Decimal.minExponent ≤ 0 := by
    simp only [Decimal.adjusted, Decimal.maxAdjusted, Decimal.minExponent]
    simp only [maxDigits] at few
    omega
  have whole (word : List Char) {letter : Char} (no_digit : letter.isDigit = false) :
      Decimal.smallLetters (decimalText n) ≠ letter :: word := by
    have taken := take_decimalText_ne n (decimalText n).length word no_digit
    rwa [List.take_of_length_le (by rw [Decimal.smallLetters, List.length_map])] at taken
  rw [Decimal.readPlain?, sign]
  dsimp only
  rw [if_neg, if_neg, if_neg, readSize?_decimalText]
  · exact if_pos places
  · exact take_decimalText_ne n 4 _ (by decide)
  · exact take_decimalText_ne n 3 _ (by decide)
  · rw [Bool.or_eq_true, decide_eq_true_eq, decide_eq_true_eq]
    exact not_or_intro (whole _ (by decide)) (whole _ (by decide))

/-- A text of characters that stand for themselves is read as it is. -/
theorem read?_of_plain {cs : List Char}
    (plain : ∀ c ∈ cs, isBlank c = false ∧ c ≠ '_' ∧ Decimal.plainDigit c = c) :
    Decimal.read? (String.ofList cs) = Decimal.readPlain? cs := by
  have same : cs.map Decimal.plainDigit = cs := by
    conv_rhs => rw [← List.map_id cs]
    exact List.map_congr_left fun c among => (plain c among).2.2
  rw [Decimal.read?, String.toList_ofList, dropBoth_of_all fun c among => (plain c among).1,
    List.filter_eq_self.mpr fun c among => decide_eq_true (plain c among).2.1, same]

/-- The decimal of an integer, with no place behind the point. -/
def Decimal.ofInt (n : Int) : Decimal := .finite (n < 0) n.natAbs 0

/-- The text of an integer reads as its decimal. -/
theorem read?_intText {n : Int} {s : String} (written : intText? n = some s) :
    Decimal.read? s = some (.ofInt n) := by
  have digit {c : Char} (among : c ∈ decimalText n.natAbs) :
      isBlank c = false ∧ c ≠ '_' ∧ Decimal.plainDigit c = c :=
    have ⟨_, blank, separator, plain, _⟩ := plain_digit (isDigit_of_mem_decimalText among)
    ⟨blank, separator, plain⟩
  by_cases many : maxDigits < (decimalText n.natAbs).length
  · rw [intText?, if_pos many] at written
    cases written
  · rw [intText?, if_neg many] at written
    have few := Nat.le_of_not_lt many
    obtain rfl := Option.some.inj written
    by_cases negative : n < 0
    · have minus : isBlank '-' = false ∧ '-' ≠ '_' ∧ Decimal.plainDigit '-' = '-' := by
        decide +kernel
      rw [if_pos negative, read?_of_plain (List.forall_mem_cons.mpr ⟨minus, fun _ => digit⟩),
        readPlain?_digits few rfl, Decimal.ofInt, decide_eq_true negative]
    · rw [if_neg negative, read?_of_plain fun _ => digit, Decimal.ofInt,
        decide_eq_false negative]
      refine readPlain?_digits few ?_
      -- The first character is a digit, and no sign.
      obtain ⟨c, rest, text⟩ := List.exists_cons_of_ne_nil (decimalText_ne_nil n.natAbs)
      have here : c.isDigit = true := isDigit_of_mem_decimalText (text ▸ List.mem_cons_self)
      rw [text]
      unfold Decimal.spanSign
      split
      next same =>
        cases same
        cases here
      next same =>
        cases same
        cases here
      next => rfl

/-! ### Equality -/

/-- Integers are equal as numbers only if they are the same. -/
theorem same_ofInt (n m : Int) : (Exact.ofInt n).same (.ofInt m) = true ↔ n = m := by
  have size : Exact.sameSize n.natAbs 0 0 m.natAbs 0 0 = (n.natAbs == m.natAbs) := by
    simp [Exact.sameSize]
  rw [Exact.ofInt, Exact.ofInt, Exact.same, size]
  split
  next zero =>
    simp only [Bool.or_eq_true, decide_eq_true_eq] at zero ⊢
    omega
  next zero =>
    simp only [Bool.and_eq_true, beq_iff_eq, decide_eq_decide]
    omega

end LinkedTables.Number
