import LinkedTables.Proofs.Scanning
import Mathlib.Data.List.TakeWhile

/-!
# Texts and their quoted segments

A text is cut into parts (`parts`): characters outside of quotes, and quoted segments, each of which
runs from a quote to the next one of its kind, or to the end of the text. The scan for markers treats
part by part (`numberFrom_eq`): the `k`-th question mark outside of quotes is replaced by the `k`-th
parameter, the colons of a segment are escaped, and all else is kept. What is sent is cut into the
very parts that were put in (`parts_numbered`), so that it has the same segments.

From these parts the text is told again (`restored`): a colon outside of quotes begins a parameter,
whose number is known from those before it, and a backslash in front of a colon inside of quotes was
put there. The only texts that cannot be told apart have colons of their own outside of quotes
(`restored_numbered`).
-/

namespace LinkedTables.Sql

/-! ### Parts -/

/-- A quoted segment: the quote that opens it, what stands behind, and whether the quote comes
again. -/
structure Segment where
  mark : Char
  inside : List Char
  closed : Bool
deriving DecidableEq, Repr

/-- The segment as it is written. -/
def Segment.text (s : Segment) : List Char :=
  s.mark :: (s.inside ++ if s.closed then [s.mark] else [])

/-- The segment with its colons escaped. -/
def Segment.escaped (s : Segment) : Segment := { s with inside := escapedColons s.inside }

/-- A part of a text: a character outside of quotes, or a quoted segment. -/
inductive Part where
  | plain (c : Char)
  | quoted (s : Segment)
deriving DecidableEq, Repr

namespace Part

/-- The part as it is written. -/
def text : Part → List Char
  | plain c => [c]
  | quoted s => s.text

/-- A question mark outside of quotes. -/
def marker : Part := plain '?'

/-- The segment that a part is. -/
def segment? : Part → Option Segment
  | plain _ => none
  | quoted s => some s

/-- What is sent for a part, which is the parameter of a number if the part is a marker. -/
def sent (number : Nat) (p : Part) : List Part :=
  if p = marker then (':' :: (parameterName number).toList).map plain
  else
    match p with
    | plain c => [plain c]
    | quoted s => [quoted s.escaped]

end Part

/-- The parts of a text. A quote opens a segment, which the next quote of its kind closes, or the
end of the text. -/
def parts : List Char → List Part
  | [] => []
  | c :: cs =>
    if opensQuote c then
      .quoted ⟨c, cs.takeWhile (· ≠ c), cs.contains c⟩ :: parts ((cs.dropWhile (· ≠ c)).drop 1)
    else .plain c :: parts cs
termination_by cs => cs.length
decreasing_by
  · have shorter := (List.dropWhile_suffix (fun d => decide (d ≠ c)) (l := cs)).length_le
    simp only [List.length_drop, List.length_cons]
    omega
  · simp

/-- Parts as they are written. -/
def joined (ps : List Part) : List Char := ps.flatMap Part.text

/-- The segments among parts. -/
def segments (ps : List Part) : List Segment := ps.filterMap Part.segment?

/-- What is sent for parts, where `count` markers come before them: each marker gets the number of
markers up to it. -/
def numbered (count : Nat) (ps : List Part) : List Part :=
  (ps.mapIdx fun i p => p.sent (count + (ps.take (i + 1)).count .marker)).flatten

/-! ### Cutting a text -/

@[simp]
theorem joined_cons (p : Part) (ps : List Part) : joined (p :: ps) = p.text ++ joined ps := rfl

theorem joined_append (ps qs : List Part) : joined (ps ++ qs) = joined ps ++ joined qs :=
  List.flatMap_append

theorem joined_plain (cs : List Char) : joined (cs.map .plain) = cs := by
  induction cs with
  | nil => rfl
  | cons c cs ih =>
    rw [List.map_cons, joined_cons, ih]
    rfl

/-- A text without a quote is cut behind each character. -/
theorem parts_append_of_plain {cs : List Char} (plain : ∀ c ∈ cs, opensQuote c = false)
    (rest : List Char) : parts (cs ++ rest) = cs.map .plain ++ parts rest := by
  induction cs with
  | nil => rfl
  | cons c cs ih =>
    obtain ⟨here, later⟩ := List.forall_mem_cons.mp plain
    rw [List.cons_append, parts, here, if_neg Bool.false_ne_true, ih later]
    rfl

/-- Behind a quote all is passed that is no quote of its kind. -/
theorem passed_of_free {mark : Char} {inside : List Char} (free : mark ∉ inside) :
    ∀ c ∈ inside, decide (c ≠ mark) = true := by
  intro c here
  rw [decide_eq_true_eq]
  rintro rfl
  exact free here

section Segments

variable {mark : Char} (opens : opensQuote mark = true) {inside : List Char}
  (free : mark ∉ inside)
include opens free

/-- A quote that is not followed by one of its kind opens the last part. -/
theorem parts_of_open : parts (mark :: inside) = [.quoted ⟨mark, inside, false⟩] := by
  have passed := passed_of_free free
  rw [parts, if_pos opens, List.takeWhile_eq_self_iff.mpr passed,
    List.dropWhile_eq_nil_iff.mpr passed, List.drop_nil, parts]
  simp [free]

/-- A quote, text without it, and the quote again are one part. -/
theorem parts_of_closed (rest : List Char) :
    parts (mark :: (inside ++ mark :: rest)) = .quoted ⟨mark, inside, true⟩ :: parts rest := by
  have passed := passed_of_free free
  have taken : (inside ++ mark :: rest).takeWhile (· ≠ mark) = inside := by
    rw [List.takeWhile_append_of_pos passed, List.takeWhile_cons_of_neg (by simp),
      List.append_nil]
  have left : (inside ++ mark :: rest).dropWhile (· ≠ mark) = mark :: rest := by
    rw [List.dropWhile_append_of_pos passed, List.dropWhile_cons_of_neg (by simp)]
  rw [parts, if_pos opens, taken, left]
  simp

end Segments

/-- A text is empty, or begins with a character that is no quote, with a segment that is not closed,
or with one that is. -/
theorem text_induction {P : List Char → Prop} (nil : P [])
    (plain : ∀ c cs, opensQuote c = false → P cs → P (c :: cs))
    (opened : ∀ mark inside, opensQuote mark = true → mark ∉ inside → P (mark :: inside))
    (closed : ∀ mark inside rest, opensQuote mark = true → mark ∉ inside → P rest →
      P (mark :: (inside ++ mark :: rest)))
    (cs : List Char) : P cs := by
  induction n : cs.length using Nat.strong_induction_on generalizing cs with
  | _ n ih =>
    cases cs with
    | nil => exact nil
    | cons c cs =>
      rw [List.length_cons] at n
      cases opens : opensQuote c with
      | false => exact plain c cs opens (ih cs.length (by omega) cs rfl)
      | true =>
        by_cases again : c ∈ cs
        · obtain ⟨inside, rest, rfl, free⟩ := List.eq_append_cons_of_mem again
          rw [List.length_append, List.length_cons] at n
          exact closed c inside rest opens free (ih rest.length (by omega) rest rfl)
        · exact opened c cs opens again

/-- Cutting a text loses nothing. -/
theorem joined_parts (cs : List Char) : joined (parts cs) = cs := by
  induction cs using text_induction with
  | nil => rw [parts]; rfl
  | plain c cs unquoted ih =>
    rw [parts, unquoted, if_neg Bool.false_ne_true, joined_cons, ih]
    rfl
  | opened mark inside opens free =>
    rw [parts_of_open opens free]
    simp [joined, Part.text, Segment.text]
  | closed mark inside rest opens free ih =>
    rw [parts_of_closed opens free, joined_cons, ih]
    simp [Part.text, Segment.text]

/-! ### Numbering -/

theorem numbered_nil (count : Nat) : numbered count [] = [] := rfl

/-- What is sent for the first part comes first; if it is a marker, it counts for the others. -/
theorem numbered_cons (count : Nat) (p : Part) (ps : List Part) :
    numbered count (p :: ps)
      = p.sent (count + [p].count .marker) ++ numbered (count + [p].count .marker) ps := by
  have counted (i : Nat) : count + (p :: ps.take (i + 1)).count .marker
      = count + [p].count .marker + (ps.take (i + 1)).count .marker := by
    rw [← List.singleton_append, List.count_append]
    omega
  unfold numbered
  rw [List.mapIdx_cons, List.flatten_cons]
  simp only [List.take_succ_cons, List.take_zero, counted]

theorem numbered_marker (count : Nat) (ps : List Part) :
    numbered count (.marker :: ps)
      = (':' :: (parameterName (count + 1)).toList).map .plain ++ numbered (count + 1) ps := by
  rw [numbered_cons]
  rfl

theorem numbered_plain (count : Nat) {c : Char} (other : c ≠ '?') (ps : List Part) :
    numbered count (.plain c :: ps) = .plain c :: numbered count ps := by
  have unmarked : Part.plain c ≠ .marker := by
    intro e
    exact other (Part.plain.inj e)
  rw [numbered_cons, List.count_singleton, if_neg (by simpa using unmarked), Part.sent,
    if_neg unmarked]
  rfl

theorem numbered_quoted (count : Nat) (s : Segment) (ps : List Part) :
    numbered count (.quoted s :: ps) = .quoted s.escaped :: numbered count ps := by
  rw [numbered_cons]
  rfl

/-- A quote is no colon. -/
theorem ne_colon_of_opensQuote {c : Char} (opens : opensQuote c = true) : c ≠ ':' := by
  rintro rfl
  rw [not_opensQuote_colon] at opens
  cases opens

/-- Inside a segment the scan escapes colons, whatever follows. -/
theorem numberFrom_inside {mark : Char} {inside : List Char}
    (free : mark ∉ inside) (count : Nat) (rest : List Char) :
    numberFrom (some mark) count (inside ++ rest)
      = (escapedColons inside ++ (numberFrom (some mark) count rest).1,
          (numberFrom (some mark) count rest).2) := by
  induction inside with
  | nil => rfl
  | cons c inside ih =>
    rw [List.mem_cons, not_or] at free
    obtain ⟨other, free⟩ := free
    rw [List.cons_append, numberFrom]
    by_cases colon : c = ':'
    · rw [if_pos colon, ih free]
      simp [escapedColons, Text.replaceChar, colon]
    · rw [if_neg colon, if_neg (Ne.symm other), ih free]
      simp [escapedColons, Text.replaceChar, colon]

/-- The scan numbers the markers among the parts of a text, and counts them. -/
theorem numberFrom_eq (count : Nat) (cs : List Char) :
    numberFrom none count cs
      = (joined (numbered count (parts cs)), count + (parts cs).count .marker) := by
  -- On the text as it is cut into parts: characters outside of quotes, and quoted segments.
  induction cs using text_induction generalizing count with
  | nil =>
    rw [parts]
    rfl
  | plain c cs unquoted ih =>
    rw [parts, unquoted, if_neg Bool.false_ne_true, numberFrom, unquoted,
      if_neg Bool.false_ne_true]
    by_cases mark : c = '?'
    · have counted : count + 1 + (parts cs).count .marker
          = count + (Part.plain c :: parts cs).count .marker := by
        rw [mark, List.count_cons]
        simp only [Part.marker, beq_self_eq_true, if_true]
        omega
      rw [if_pos mark, ih, counted, mark]
      show _ = (joined (numbered count (.marker :: parts cs)), _)
      rw [numbered_marker, joined_append, joined_plain]
    · have counted : (Part.plain c :: parts cs).count .marker = (parts cs).count .marker := by
        rw [List.count_cons, if_neg (by simpa [Part.marker] using mark), Nat.add_zero]
      rw [if_neg mark, ih, counted, numbered_plain count mark]
      rfl
  | opened mark inside opens free =>
    have scanned := numberFrom_inside free count []
    rw [List.append_nil] at scanned
    rw [parts_of_open opens free, numberFrom, if_pos opens, scanned, numbered_quoted, numbered_nil]
    simp [numberFrom, joined, Part.text, Segment.text, Segment.escaped, Part.marker]
  | closed mark inside rest opens free ih =>
    have noColon := ne_colon_of_opensQuote opens
    rw [parts_of_closed opens free, numberFrom, if_pos opens, numberFrom_inside free,
      numberFrom, if_neg noColon, if_pos rfl, ih, numbered_quoted]
    simp [Part.text, Segment.text, Segment.escaped, Part.marker]

/-! ### What is sent -/

theorem toList_parameterName (number : Nat) :
    (parameterName number).toList = 'p' :: Nat.toDigits 10 number := by
  rw [parameterName, String.toList_append, Nat.toString_eq_repr, Nat.toList_repr]
  rfl

/-- Nothing in a parameter is a quote. -/
theorem unquoted_parameter (number : Nat) :
    ∀ c ∈ ':' :: (parameterName number).toList, opensQuote c = false := by
  intro c here
  rw [toList_parameterName, List.mem_cons, List.mem_cons] at here
  rcases here with rfl | rfl | digit
  · decide
  · decide
  · have digit := Nat.isDigit_of_mem_toDigits (by decide) (by decide) digit
    cases opens : opensQuote c with
    | false => rfl
    | true =>
      simp only [opensQuote, Bool.or_eq_true, beq_iff_eq] at opens
      rcases opens with (rfl | rfl) | rfl <;> cases digit

theorem escapedColons_cons (c : Char) (cs : List Char) :
    escapedColons (c :: cs) = (if c = ':' then ['\\', ':'] else [c]) ++ escapedColons cs := rfl

/-- Escaping the colons of a text brings no quote into it. -/
theorem not_mem_escapedColons {mark : Char} (opens : opensQuote mark = true) {cs : List Char}
    (free : mark ∉ cs) : mark ∉ escapedColons cs := by
  induction cs with
  | nil => exact free
  | cons c cs ih =>
    rw [List.mem_cons, not_or] at free
    rw [escapedColons_cons, List.mem_append, not_or]
    refine ⟨?_, ih free.2⟩
    split
    · intro here
      simp only [List.mem_cons, List.not_mem_nil, or_false] at here
      rcases here with rfl | rfl <;> exact absurd opens (by decide)
    · simpa using free.1

/-- What is sent for a text has the parts that were put in. -/
theorem parts_numbered (count : Nat) (cs : List Char) :
    parts (joined (numbered count (parts cs))) = numbered count (parts cs) := by
  -- On the parts of the text, each of which is cut off again from what is sent for it.
  induction cs using text_induction generalizing count with
  | nil =>
    rw [parts, numbered_nil]
    exact parts.eq_1
  | plain c cs unquoted ih =>
    rw [parts, unquoted, if_neg Bool.false_ne_true]
    by_cases mark : c = '?'
    · rw [mark]
      show parts (joined (numbered count (.marker :: parts cs)))
        = numbered count (.marker :: parts cs)
      rw [numbered_marker, joined_append, joined_plain,
        parts_append_of_plain (unquoted_parameter (count + 1)), ih]
    · rw [numbered_plain count mark, joined_cons]
      show parts ([c] ++ _) = _
      rw [parts_append_of_plain (by simpa using unquoted), ih]
      rfl
  | opened mark inside opens free =>
    have free' := not_mem_escapedColons opens free
    rw [parts_of_open opens free, numbered_quoted, numbered_nil]
    exact (congrArg parts (by simp [joined, Part.text, Segment.text, Segment.escaped])).trans
      (parts_of_open opens free')
  | closed mark inside rest opens free ih =>
    have free' := not_mem_escapedColons opens free
    rw [parts_of_closed opens free, numbered_quoted, joined_cons]
    have written : (Part.quoted (Segment.escaped ⟨mark, inside, true⟩)).text
          ++ joined (numbered count (parts rest))
        = mark :: (escapedColons inside ++ mark :: joined (numbered count (parts rest))) := by
      simp [Part.text, Segment.text, Segment.escaped]
    rw [written, parts_of_closed opens free', ih]
    rfl

/-- Numbering leaves the segments where they are, with their colons escaped. -/
theorem segments_numbered (count : Nat) (ps : List Part) :
    segments (numbered count ps) = (segments ps).map Segment.escaped := by
  induction ps generalizing count with
  | nil => rfl
  | cons p ps ih =>
    cases p with
    | plain c =>
      have none_here (cs : List Char) : segments (cs.map .plain) = [] := by
        simp [segments, Part.segment?]
      by_cases mark : c = '?'
      · rw [mark]
        show segments (numbered count (.marker :: ps)) = _
        rw [numbered_marker, segments, List.filterMap_append]
        exact (congrArg (· ++ _) (none_here _)).trans (ih (count + 1))
      · rw [numbered_plain count mark]
        exact ih count
    | quoted s =>
      rw [numbered_quoted]
      exact congrArg (s.escaped :: ·) (ih count)

/-! ### Telling the text again -/

/-- A text without the backslashes in front of its colons. -/
def unescapedColons : List Char → List Char
  | '\\' :: ':' :: cs => ':' :: unescapedColons cs
  | c :: cs => c :: unescapedColons cs
  | [] => []

/-- The segment without the backslashes in front of its colons. -/
def Segment.unescaped (s : Segment) : Segment := { s with inside := unescapedColons s.inside }

/-- The parts for which parts are sent, where `count` markers come before them: a colon outside of
quotes begins the parameter of the next number. -/
def restored (count : Nat) : List Part → List Part
  | [] => []
  | .plain c :: ps =>
    if c = ':' then .marker :: restored (count + 1) (ps.drop (parameterName (count + 1)).length)
    else .plain c :: restored count ps
  | .quoted s :: ps => .quoted s.unescaped :: restored count ps
termination_by ps => ps.length
decreasing_by
  · rw [List.length_drop, List.length_cons]
    omega
  · simp
  · simp

/-- The text for which a text is sent. -/
def recovered (sent : String) : String :=
  String.ofList (joined (restored 0 (parts sent.toList)))

theorem unescapedColons_cons {c : Char} {cs : List Char} (next : cs.head? ≠ some ':') :
    unescapedColons (c :: cs) = c :: unescapedColons cs := by
  rw [unescapedColons]
  rintro rest rfl rfl
  exact next rfl

/-- Every colon has a backslash in front, so that none comes first. -/
theorem head?_escapedColons (cs : List Char) : (escapedColons cs).head? ≠ some ':' := by
  cases cs with
  | nil => simp [escapedColons, Text.replaceChar]
  | cons c cs =>
    rw [escapedColons_cons]
    split
    · simp
    next other =>
      intro e
      exact other (Option.some.inj e)

theorem unescapedColons_escapedColons (cs : List Char) :
    unescapedColons (escapedColons cs) = cs := by
  induction cs with
  | nil => rfl
  | cons c cs ih =>
    rw [escapedColons_cons]
    split
    next colon =>
      show unescapedColons ('\\' :: ':' :: escapedColons cs) = _
      rw [unescapedColons, ih, colon]
    next => rw [List.singleton_append, unescapedColons_cons (head?_escapedColons cs), ih]

/-- Parts without a colon outside of quotes are told from what is sent for them. -/
theorem restored_numbered (count : Nat) {ps : List Part} (noColon : .plain ':' ∉ ps) :
    restored count (numbered count ps) = ps := by
  induction ps generalizing count with
  | nil => rw [numbered_nil, restored]
  | cons p ps ih =>
    rw [List.mem_cons, not_or] at noColon
    obtain ⟨other, noColon⟩ := noColon
    cases p with
    | plain c =>
      by_cases mark : c = '?'
      · rw [mark]
        show restored count (numbered count (.marker :: ps)) = _
        have width : (parameterName (count + 1)).length
            = ((parameterName (count + 1)).toList.map Part.plain).length := by
          rw [List.length_map, String.length_toList]
        rw [numbered_marker, List.map_cons, List.cons_append, restored, if_pos rfl, width,
          List.drop_left, ih (count + 1) noColon]
        rfl
      · have colon : c ≠ ':' := by
          rintro rfl
          exact other rfl
        rw [numbered_plain count mark, restored, if_neg colon, ih count noColon]
    | quoted s =>
      have same : s.escaped.unescaped = s :=
        congrArg (fun inside => { s with inside }) (unescapedColons_escapedColons s.inside)
      rw [numbered_quoted, restored, same, ih count noColon]

theorem numberMarkers_eq (sql : String) :
    numberMarkers sql = (String.ofList (joined (numbered 0 (parts sql.toList))),
      (parts sql.toList).count .marker) := by
  rw [numberMarkers, numberFrom_eq, Nat.zero_add]

/-- A text without a colon outside of quotes is told from what is sent for it. -/
theorem recovered_numberMarkers {sql : String} (noColon : .plain ':' ∉ parts sql.toList) :
    recovered (numberMarkers sql).1 = sql := by
  rw [numberMarkers_eq, recovered, String.toList_ofList, parts_numbered,
    restored_numbered 0 noColon, joined_parts, String.ofList_toList]

/-- What is sent for a text. The text is the parts in their order; the question marks outside of
quotes are counted, and the `k`-th of them is replaced by the `k`-th parameter; the quoted segments
are the same but for a backslash in front of each colon; and two texts without a colon outside of
quotes are told apart. -/
theorem sent_of_text (sql : String) :
    joined (parts sql.toList) = sql.toList
      ∧ numberMarkers sql = (String.ofList (joined (numbered 0 (parts sql.toList))),
          (parts sql.toList).count .marker)
      ∧ segments (parts (numberMarkers sql).1.toList)
          = (segments (parts sql.toList)).map Segment.escaped
      ∧ ∀ sql', .plain ':' ∉ parts sql.toList → .plain ':' ∉ parts sql'.toList →
          (numberMarkers sql).1 = (numberMarkers sql').1 → sql = sql' := by
  refine ⟨joined_parts _, numberMarkers_eq sql, ?_, ?_⟩
  · rw [numberMarkers_eq, String.toList_ofList, parts_numbered, segments_numbered]
  · intro sql' noColon noColon' same
    rw [← recovered_numberMarkers noColon, same, recovered_numberMarkers noColon']

/-- A digit right behind a marker, and a segment that is not closed, with a colon, a question mark
and a quote of another kind inside: no other text is sent like that. -/
theorem sent_of_open_segment :
    .plain ':' ∉ parts "?1=':?\"".toList
      ∧ numberMarkers "?1=':?\"" = (":p11='\\:?\"", 1)
      ∧ ∀ sql, .plain ':' ∉ parts sql.toList → (numberMarkers sql).1 = ":p11='\\:?\"" →
        sql = "?1=':?\"" := by
  have noColon : .plain ':' ∉ parts "?1=':?\"".toList := by
    simp [parts, opensQuote]
  have sent : numberMarkers "?1=':?\"" = (":p11='\\:?\"", 1) := by decide
  refine ⟨noColon, sent, fun sql noColon' e => ?_⟩
  have told := (sent_of_text sql).2.2.2 "?1=':?\"" noColon' noColon
  rw [sent] at told
  exact told e

/-- A colon outside of quotes may be taken for a parameter. -/
example : (numberMarkers ":p1").1 = (numberMarkers "?").1 := by decide

end LinkedTables.Sql
