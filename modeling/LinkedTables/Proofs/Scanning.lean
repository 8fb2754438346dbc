import LinkedTables.Dialect.Quoting
import LinkedTables.Sql.Marker

/-!
# Scanning statements for markers

The scan for markers (`numberFrom`) passes over a text whose quotes are all closed and that has no
marker outside of them, and escapes the colons of its quoted segments on the way
(`numberFrom_settled`). An identifier is such a text if its dialect quotes by double quotes or
backticks (`isSettled_quote`): whatever the identifier holds, only its colons are escaped
(`escapedFrom_quote`). The scan does not know brackets: between those it takes a quote for the
beginning of a quoted segment, and a question mark for a marker. There only an identifier without
such characters is passed over.
-/

namespace LinkedTables

namespace Sql

/-! ### Texts without markers -/

/-- Whether every quote of a text is closed again and no marker stands outside of quotes, where
`quote` is open in front of the text. -/
def isSettled : Option Char → List Char → Bool
  | quote, [] => quote.isNone
  | some mark, c :: cs => isSettled (if c = mark then none else some mark) cs
  | none, c :: cs => c != '?' && isSettled (if opensQuote c then some c else none) cs

/-- A text with the colons of its quoted segments escaped, where `quote` is open in front of it. -/
def escapedFrom : Option Char → List Char → List Char
  | _, [] => []
  | some mark, c :: cs =>
    (if c = ':' then ['\\', ':'] else [c])
      ++ escapedFrom (if c = mark then none else some mark) cs
  | none, c :: cs => c :: escapedFrom (if opensQuote c then some c else none) cs

/-- A text with all its colons escaped. -/
def escapedColons (cs : List Char) : List Char := Text.replaceChar ':' ['\\', ':'] cs

theorem not_opensQuote_colon : opensQuote ':' = false := by decide

theorem not_opensQuote_marker : opensQuote '?' = false := by decide

/-- The scan passes over a settled text and goes on behind it as if it began there. -/
theorem numberFrom_settled {cs : List Char} {quote : Option Char} (notColon : quote ≠ some ':')
    (settled : isSettled quote cs = true) (count : Nat) (rest : List Char) :
    numberFrom quote count (cs ++ rest)
      = (escapedFrom quote cs ++ (numberFrom none count rest).1,
          (numberFrom none count rest).2) := by
  -- A quote may be open when the scan begins, but none that is a colon, which would be escaped.
  induction cs generalizing quote with
  | nil =>
    cases quote with
    | none => rfl
    | some mark => simp [isSettled] at settled
  | cons c cs ih =>
    cases quote with
    | some mark =>
      have mark_ne : mark ≠ ':' := fun e => notColon (by rw [e])
      simp only [isSettled] at settled
      have next : (if c = mark then none else some mark) ≠ some ':' := by
        split
        · simp
        · exact notColon
      have passed := ih next settled
      simp only [List.cons_append, numberFrom, escapedFrom]
      by_cases colon : c = ':'
      · -- A colon closes no quote, as none of the quotes is a colon.
        have stays : c ≠ mark := by rw [colon]; exact mark_ne.symm
        rw [if_neg stays] at passed ⊢
        rw [if_pos colon, if_pos colon, passed]
        rfl
      · rw [if_neg colon, if_neg colon, passed]
        rfl
    | none =>
      simp only [isSettled, Bool.and_eq_true, bne_iff_ne, ne_eq] at settled
      obtain ⟨noMarker, settled⟩ := settled
      have next : (if opensQuote c then some c else none) ≠ some ':' := by
        split
        next opens =>
          intro e
          rw [Option.some.inj e, not_opensQuote_colon] at opens
          cases opens
        next => simp
      have passed := ih next settled
      simp only [List.cons_append, numberFrom, escapedFrom]
      by_cases opens : opensQuote c = true
      · rw [if_pos opens] at passed ⊢
        rw [if_pos opens, passed]
      · rw [if_neg opens] at passed ⊢
        rw [if_neg opens, if_neg noMarker, passed]

/-- A character that is neither a marker nor a colon nor a quote. -/
def isHarmless (c : Char) : Bool := c != '?' && c != ':' && !opensQuote c

theorem isSettled_of_harmless {cs : List Char} (harmless : ∀ c ∈ cs, isHarmless c = true) :
    isSettled none cs = true := by
  induction cs with
  | nil => rfl
  | cons c cs ih =>
    have head := harmless c (List.mem_cons_self ..)
    simp only [isHarmless, Bool.and_eq_true, bne_iff_ne, ne_eq, Bool.not_eq_true'] at head
    have tail := ih fun d hd => harmless d (List.mem_cons_of_mem _ hd)
    simp [isSettled, head, tail]

theorem escapedFrom_of_harmless {cs : List Char} (harmless : ∀ c ∈ cs, isHarmless c = true) :
    escapedFrom none cs = escapedColons cs := by
  induction cs with
  | nil => rfl
  | cons c cs ih =>
    have head := harmless c (List.mem_cons_self ..)
    simp only [isHarmless, Bool.and_eq_true, bne_iff_ne, ne_eq, Bool.not_eq_true'] at head
    have tail := ih fun d hd => harmless d (List.mem_cons_of_mem _ hd)
    simp [escapedFrom, escapedColons, Text.replaceChar, head, tail]

end Sql

/-! ### Identifiers -/

namespace Dialect.Style

open Sql

/-- The characters around a quoted identifier. -/
def marks (style : Style) : Char × Char := (style.opening, style.closing)

/-- The style puts an identifier between two quotes that the scan knows. -/
def QuotesByMark (style : Style) (mark : Char) : Prop :=
  style.marks = (mark, mark) ∧ opensQuote mark = true

/-- The scan reads the identifier as one: the style quotes by double quotes or backticks, or it
quotes by brackets and the identifier has nothing inside that the scan would take notice of. -/
def Scannable (style : Style) (name : String) : Prop :=
  style.marks = ('"', '"') ∨ style.marks = ('`', '`')
    ∨ style.marks = ('[', ']') ∧ ∀ c ∈ name.toList, isHarmless c = true

theorem isHarmless_of_isPlain {c : Char} (plain : isPlain c = true) : isHarmless c = true := by
  have differs (d : Char) (hd : isPlain d = false) : c ≠ d := by
    rintro rfl
    rw [plain] at hd
    cases hd
  have marker := differs '?' (by decide)
  have colon := differs ':' (by decide)
  have single := differs '\'' (by decide)
  have double := differs '"' (by decide)
  have back := differs '`' (by decide)
  simp [isHarmless, opensQuote, marker, colon, single, double, back]

/-- An identifier that stands without quotes holds plain characters only. -/
theorem plain_of_not_needsQuotes {style : Style} {name : String}
    (bare : style.needsQuotes name = false) : ∀ c ∈ name.toList, isPlain c = true := by
  unfold needsQuotes at bare
  cases e : name.toList with
  | nil => simp
  | cons c cs =>
    simp only [e, Bool.or_eq_false_iff, Bool.not_eq_false', List.all_eq_true] at bare
    exact bare.1.2

/-- The characters of a quoted identifier. -/
theorem toList_quote {style : Style} {name : String} (quoted : style.needsQuotes name = true) :
    (style.quote name).toList
      = style.opening :: (name.toList.flatMap style.inside ++ [style.closing]) := by
  simp [quote, quoted]

theorem quote_of_bare {style : Style} {name : String} (bare : style.needsQuotes name = false) :
    style.quote name = name := by
  simp [quote, bare]

theorem quotesByMark_or_harmless {style : Style} {name : String}
    (scannable : style.Scannable name) :
    (∃ mark, style.QuotesByMark mark)
      ∨ style.marks = ('[', ']') ∧ ∀ c ∈ name.toList, isHarmless c = true := by
  rcases scannable with double | back | brackets
  · exact .inl ⟨'"', double, by decide⟩
  · exact .inl ⟨'`', back, by decide⟩
  · exact .inr brackets

section Mark

variable {style : Style} {mark : Char}

/-- What stands between two quotes, where a quote inside is doubled, leads to the closing one, and
has all its colons escaped. -/
theorem inside_scanned (by_mark : style.QuotesByMark mark) (cs : List Char) :
    isSettled (some mark) (cs.flatMap style.inside ++ [mark]) = true
      ∧ escapedFrom (some mark) (cs.flatMap style.inside ++ [mark])
          = escapedColons (cs.flatMap style.inside ++ [mark]) := by
  obtain ⟨marks, opens⟩ := by_mark
  have closing : style.closing = mark := congrArg Prod.snd marks
  have noMarker : mark ≠ '?' := by
    rintro rfl
    rw [not_opensQuote_marker] at opens
    cases opens
  have noColon : mark ≠ ':' := by
    rintro rfl
    rw [not_opensQuote_colon] at opens
    cases opens
  simp only [escapedColons, Text.replaceChar] at *
  induction cs with
  | nil => simp [isSettled, escapedFrom, noColon]
  | cons c cs ih =>
    by_cases c_mark : c = mark
    · -- The first of the two closes the segment, and the second opens it again.
      simp [inside, closing, c_mark, isSettled, escapedFrom, noMarker, noColon, opens, ih]
    · by_cases percent : (c = '%' ∧ style.doublesPercent = true)
      · have percent_mark : '%' ≠ mark := percent.1 ▸ c_mark
        simp [inside, closing, percent.1, percent.2, isSettled, escapedFrom, percent_mark, ih]
      · have single : style.inside c = [c] := by
          simp only [inside, closing, c_mark, decide_false, Bool.false_or, Bool.and_eq_true,
            decide_eq_true_eq, if_neg percent]
        simp [single, isSettled, escapedFrom, c_mark, ih]

/-- A quoted identifier closes its quotes. -/
theorem isSettled_between (by_mark : style.QuotesByMark mark) (cs : List Char) :
    isSettled none (mark :: (cs.flatMap style.inside ++ [mark])) = true := by
  have noMarker : mark ≠ '?' := by
    rintro rfl
    have opens := by_mark.2
    rw [not_opensQuote_marker] at opens
    cases opens
  simp [isSettled, noMarker, by_mark.2, (inside_scanned by_mark cs).1]

/-- The quotes are no colons, so that all colons of a quoted identifier are escaped. -/
theorem escapedFrom_between (by_mark : style.QuotesByMark mark) (cs : List Char) :
    escapedFrom none (mark :: (cs.flatMap style.inside ++ [mark]))
      = escapedColons (mark :: (cs.flatMap style.inside ++ [mark])) := by
  have noColon : mark ≠ ':' := by
    rintro rfl
    have opens := by_mark.2
    rw [not_opensQuote_colon] at opens
    cases opens
  have rest := (inside_scanned by_mark cs).2
  simp only [escapedFrom, by_mark.2, if_true, rest]
  simp [escapedColons, Text.replaceChar, noColon]

end Mark

/-- Between brackets, harmless characters stay harmless. -/
theorem harmless_inside {style : Style} {cs : List Char}
    (harmless : ∀ c ∈ cs, isHarmless c = true) :
    ∀ c ∈ cs.flatMap style.inside, isHarmless c = true := by
  intro c hc
  obtain ⟨d, hd, hc⟩ := List.mem_flatMap.mp hc
  have same : c = d := by
    unfold inside at hc
    split at hc <;> simpa using hc
  exact same ▸ harmless d hd

/-- An identifier as it is written is harmless as a whole, or stands between two quotes. -/
theorem quote_cases {style : Style} {name : String} (scannable : style.Scannable name) :
    (∀ c ∈ (style.quote name).toList, isHarmless c = true)
      ∨ ∃ mark, style.QuotesByMark mark
          ∧ (style.quote name).toList = mark :: (name.toList.flatMap style.inside ++ [mark]) := by
  cases needed : style.needsQuotes name with
  | false =>
    rw [quote_of_bare needed]
    exact .inl fun c hc => isHarmless_of_isPlain (plain_of_not_needsQuotes needed c hc)
  | true =>
    rw [toList_quote needed]
    rcases quotesByMark_or_harmless scannable with ⟨mark, by_mark⟩ | ⟨brackets, harmless⟩
    · rw [show style.opening = mark from congrArg Prod.fst by_mark.1,
        show style.closing = mark from congrArg Prod.snd by_mark.1]
      exact .inr ⟨mark, by_mark, rfl⟩
    · rw [show style.opening = '[' from congrArg Prod.fst brackets,
        show style.closing = ']' from congrArg Prod.snd brackets]
      left
      intro c hc
      rcases List.mem_cons.mp hc with rfl | hc
      · decide
      · rcases List.mem_append.mp hc with hc | hc
        · exact harmless_inside harmless c hc
        · rw [List.mem_singleton.mp hc]
          decide

/-- An identifier as it is written closes its quotes and has no marker outside of them. -/
theorem isSettled_quote {style : Style} {name : String} (scannable : style.Scannable name) :
    isSettled none (style.quote name).toList = true := by
  rcases quote_cases scannable with harmless | ⟨mark, by_mark, e⟩
  · exact isSettled_of_harmless harmless
  · rw [e]
    exact isSettled_between by_mark _

/-- Nothing but the colons of an identifier is altered. -/
theorem escapedFrom_quote {style : Style} {name : String} (scannable : style.Scannable name) :
    escapedFrom none (style.quote name).toList = escapedColons (style.quote name).toList := by
  rcases quote_cases scannable with harmless | ⟨mark, by_mark, e⟩
  · exact escapedFrom_of_harmless harmless
  · rw [e]
    exact escapedFrom_between by_mark _

end Dialect.Style

end LinkedTables
