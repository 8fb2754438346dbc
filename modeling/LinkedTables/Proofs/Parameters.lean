import LinkedTables.Proofs.Scanning
import LinkedTables.Proofs.Success
import LinkedTables.Sql.RowStatement

/-!
# Parameters and their columns

A statement about rows is made of pieces: words, the table, names of columns, and markers that stand
for values (`RowStatement.pieces`). Before it is sent its markers are numbered, and the names keep
everything but their colons, which are escaped (`numberFrom_pieces`). Each marker stands behind the
name of the column whose value is bound under its number, or, in an inserted row, at the place of
that name among the names (`delivered_of_request`).
-/

namespace LinkedTables.Sql

/-! ### Pieces -/

/-- What a statement about rows needs a value for. -/
inductive Clause where
  | cell | assigned | equal | atLeast | atMost
deriving DecidableEq, Repr, Inhabited

/-- What stands between the name of a column and the marker of its value. The cells of an inserted
row stand apart from the names. -/
def Clause.sign : Clause → String
  | cell => ""
  | assigned | equal => "="
  | atLeast => ">="
  | atMost => "<="

/-- A piece of a statement. -/
inductive Piece where
  | words (s : String)
  | table
  | name (c : Column)
  | marker (clause : Clause) (c : Column) (v : Value)
deriving Inhabited

namespace Piece

/-- A piece as it is written. -/
def text (quote : String → String) (table : String) : Piece → String
  | words s => s
  | .table => table
  | name c => quote c.remoteName
  | marker .. => "?"

/-- The column that a piece names. -/
def column? : Piece → Option Column
  | name c => some c
  | _ => none

/-- What a marker stands for. -/
def marker? : Piece → Option (Clause × Column × Value)
  | marker clause c v => some (clause, c, v)
  | _ => none

end Piece

/-- The columns that pieces name. -/
def names (ps : List Piece) : List Column := ps.filterMap Piece.column?

/-- What the markers among pieces stand for. -/
def markers (ps : List Piece) : List (Clause × Column × Value) := ps.filterMap Piece.marker?

/-- Pieces as they are written. -/
def written (quote : String → String) (table : String) (ps : List Piece) : List Char :=
  ps.flatMap fun p => (p.text quote table).toList

/-- Groups of pieces with words between them. -/
def separated (sep : String) (groups : List (List Piece)) : List Piece :=
  [Piece.words sep].intercalate groups

/-- The pieces of a test of a column. -/
def Test.pieces (c : Column) : Test → List Piece
  | isNull => [.words " IS NULL"]
  | equals v => [.words "=", .marker .equal c v]
  | atLeast v => [.words ">=", .marker .atLeast c v]
  | atMost v => [.words "<=", .marker .atMost c v]

/-- The pieces of a condition. -/
def Condition.pieces (c : Condition) : List Piece := .name c.column :: c.test.pieces c.column

/-- The pieces of an assignment. -/
def assignmentPieces (a : Column × Option Value) : List Piece :=
  .name a.1 ::
    match a.2 with
    | some v => [.words "=", .marker .assigned a.1 v]
    | none => [.words "=DEFAULT"]

/-- The pieces of conditions that hold together. -/
def allPieces (cs : List Condition) : List Piece := separated " AND " (cs.map Condition.pieces)

/-- The pieces of a statement. -/
def RowStatement.pieces : RowStatement → List Piece
  | select [] => [.words "SELECT * FROM ", .table, .words " T"]
  | select cs => [.words "SELECT * FROM ", .table, .words " T WHERE "] ++ allPieces cs
  | insert [] => [.words "INSERT INTO ", .table, .words " DEFAULT VALUES"]
  | insert cells =>
    [.words "INSERT INTO ", .table, .words "("]
      ++ separated ", " (cells.map fun c => [.name c.1])
      ++ [.words ") VALUES("]
      ++ separated ", " (cells.map fun c => [.marker .cell c.1 c.2]) ++ [.words ")"]
  | update assignments cs =>
    [.words "UPDATE ", .table, .words " SET "]
      ++ separated ", " (assignments.map assignmentPieces) ++ [.words " WHERE "] ++ allPieces cs
  | delete cs => [.words "DELETE FROM ", .table, .words " WHERE "] ++ allPieces cs

/-! ### Joining -/

/-- What holds of words, of each group and of every concatenation holds of separated groups. -/
theorem separated_induction {P : List Piece → Prop} (sep : String) (nil : P [])
    (words : P [.words sep]) (append : ∀ ps qs, P ps → P qs → P (ps ++ qs))
    {groups : List (List Piece)} (each : ∀ g ∈ groups, P g) : P (separated sep groups) := by
  unfold separated
  induction groups with
  | nil => exact nil
  | cons g groups ih =>
    have first := each g (List.mem_cons_self ..)
    cases groups with
    | nil => simpa [List.intercalate] using first
    | cons g' groups =>
      rw [List.intercalate_cons_cons]
      exact append _ _ (append _ _ first words) (ih fun d hd => each d (List.mem_cons_of_mem _ hd))

/-- Words have no markers: those of separated groups are the ones of the groups. -/
theorem filterMap_separated {β : Type} (f : Piece → Option β) (noWords : ∀ s, f (.words s) = none)
    (sep : String) (groups : List (List Piece)) :
    (separated sep groups).filterMap f = groups.flatMap (List.filterMap f) := by
  unfold separated
  induction groups with
  | nil => rfl
  | cons g groups ih =>
    cases groups with
    | nil => simp [List.intercalate]
    | cons g' groups =>
      rw [List.intercalate_cons_cons, List.filterMap_append, List.filterMap_append, ih]
      simp [noWords]

section Written

variable (quote : String → String) (table : String)

theorem written_append (ps qs : List Piece) :
    written quote table (ps ++ qs) = written quote table ps ++ written quote table qs :=
  List.flatMap_append

/-- Separated groups as they are written. -/
theorem written_separated {ι : Type} (sep : String) (item : ι → String) (group : ι → List Piece)
    (is : List ι) (each : ∀ i, written quote table (group i) = (item i).toList) :
    written quote table (separated sep (is.map group))
      = (sep.intercalate (is.map item)).toList := by
  rw [String.toList_intercalate, List.map_map]
  unfold separated
  induction is with
  | nil => rfl
  | cons i is ih =>
    cases is with
    | nil => simpa [List.intercalate] using each i
    | cons j is =>
      rw [List.map_cons, List.map_cons, List.intercalate_cons_cons, written_append, written_append,
        each, ← List.map_cons, ih]
      simp [List.intercalate_cons_cons, written, Piece.text]

theorem written_condition (c : Condition) :
    written quote table c.pieces = (c.text quote).toList := by
  rcases c with ⟨column, _ | v | v | v⟩ <;>
    simp [Condition.pieces, Condition.text, Test.pieces, Test.text, written, Piece.text]

theorem written_assignment (a : Column × Option Value) :
    written quote table (assignmentPieces a) = (assignmentText quote a).toList := by
  rcases a with ⟨c, _ | v⟩ <;> simp [assignmentPieces, assignmentText, written, Piece.text]

theorem written_all (cs : List Condition) :
    written quote table (allPieces cs) = (allText quote cs).toList :=
  written_separated quote table " AND " _ _ cs (written_condition quote table)

/-- The pieces of a statement make up its text. -/
theorem written_pieces (statement : RowStatement) :
    written quote table statement.pieces = (statement.text quote table).toList := by
  have word (s : String) : written quote table [.words s] = s.toList := by
    simp [written, Piece.text]
  have head (s t : String) :
      written quote table [.words s, .table, .words t] = (s ++ table ++ t).toList := by
    simp [written, Piece.text]
  -- Each clause is put together from its own pieces, with words between them.
  cases statement with
  | select cs =>
    cases cs with
    | nil => exact head _ _
    | cons c cs =>
      have pieces : (RowStatement.select (c :: cs)).pieces
          = [.words "SELECT * FROM ", .table, .words " T WHERE "] ++ allPieces (c :: cs) := rfl
      rw [pieces, written_append, head, written_all, ← String.toList_append]
      rfl
  | insert cells =>
    cases cells with
    | nil => exact head _ _
    | cons c cells =>
      have named := written_separated quote table ", " (fun c => quote c.1.remoteName)
        (fun c : Column × Value => [.name c.1]) (c :: cells) (by simp [written, Piece.text])
      have marked := written_separated quote table ", " (fun _ => "?")
        (fun c : Column × Value => [.marker .cell c.1 c.2]) (c :: cells)
        (by simp [written, Piece.text])
      have pieces : (RowStatement.insert (c :: cells)).pieces
          = [.words "INSERT INTO ", .table, .words "("]
            ++ separated ", " ((c :: cells).map fun c => [.name c.1])
            ++ [.words ") VALUES("]
            ++ separated ", " ((c :: cells).map fun c => [.marker .cell c.1 c.2]) ++ [.words ")"] :=
        rfl
      rw [pieces, written_append, written_append, written_append, written_append, head, named,
        word, marked, word]
      simp only [← String.toList_append]
      rfl
  | update assignments cs =>
    have assigned := written_separated quote table ", " (assignmentText quote) assignmentPieces
      assignments (written_assignment quote table)
    rw [RowStatement.pieces, written_append, written_append, written_append, head, assigned, word,
      written_all]
    simp only [← String.toList_append]
    rfl
  | delete cs =>
    rw [RowStatement.pieces, written_append, head, written_all, ← String.toList_append]
    rfl

end Written

/-! ### Sending -/

/-- Pieces as they are sent, where `count` markers stand before them: markers are numbered, and the
colons of names are escaped. -/
def sentFrom (quote : String → String) (table : String) : Nat → List Piece → List Char
  | _, [] => []
  | count, .words s :: ps => s.toList ++ sentFrom quote table count ps
  | count, .table :: ps => escapedFrom none table.toList ++ sentFrom quote table count ps
  | count, .name c :: ps =>
    escapedColons (quote c.remoteName).toList ++ sentFrom quote table count ps
  | count, .marker .. :: ps =>
    ':' :: (parameterName (count + 1)).toList ++ sentFrom quote table (count + 1) ps

/-- Harmless words are sent as they are. -/
theorem escapedColons_of_harmless {cs : List Char} (harmless : ∀ c ∈ cs, isHarmless c = true) :
    escapedColons cs = cs := by
  induction cs with
  | nil => rfl
  | cons c cs ih =>
    have head := harmless c (List.mem_cons_self ..)
    simp only [isHarmless, Bool.and_eq_true, bne_iff_ne, ne_eq] at head
    have tail := ih fun d hd => harmless d (List.mem_cons_of_mem _ hd)
    rw [escapedColons, Text.replaceChar] at tail ⊢
    simp [head.1.2, tail]

/-- The scan of written pieces numbers their markers and nothing else. -/
theorem numberFrom_pieces {style : Dialect.Style} {table : String} {ps : List Piece}
    (words : ∀ s, .words s ∈ ps → ∀ c ∈ s.toList, isHarmless c = true)
    (scannable : ∀ c, .name c ∈ ps → style.Scannable c.remoteName)
    (settled : isSettled none table.toList = true) (count : Nat) :
    numberFrom none count (written style.quote table ps)
      = (sentFrom style.quote table count ps, count + (markers ps).length) := by
  -- On the pieces: the scan comes out of each as it went in, outside of quotes.
  induction ps generalizing count with
  | nil => rfl
  | cons p ps ih =>
    have rest := ih (fun s hs => words s (List.mem_cons_of_mem _ hs))
      (fun c hc => scannable c (List.mem_cons_of_mem _ hc))
    have split : written style.quote table (p :: ps)
        = (p.text style.quote table).toList ++ written style.quote table ps := rfl
    rw [split]
    cases p with
    | words s =>
      have harmless := words s (List.mem_cons_self ..)
      rw [Piece.text, numberFrom_settled (by simp) (isSettled_of_harmless harmless), rest,
        escapedFrom_of_harmless harmless, escapedColons_of_harmless harmless]
      rfl
    | table =>
      rw [Piece.text, numberFrom_settled (by simp) settled, rest]
      rfl
    | name c =>
      have reads := scannable c (List.mem_cons_self ..)
      rw [Piece.text, numberFrom_settled (by simp) (Dialect.Style.isSettled_quote reads), rest,
        Dialect.Style.escapedFrom_quote reads]
      rfl
    | marker clause c v =>
      have counted : count + (markers (.marker clause c v :: ps)).length
          = count + 1 + (markers ps).length := by
        simp only [markers, List.filterMap_cons, Piece.marker?, List.length_cons]
        omega
      rw [counted, Piece.text, show "?".toList = ['?'] from rfl, List.singleton_append, numberFrom,
        not_opensQuote_marker, if_neg Bool.false_ne_true, if_pos rfl, rest]
      rfl

/-! ### Places of markers -/

/-- Every marker but that of a cell stands right behind the name of its column. -/
def Tied (ps : List Piece) : Prop :=
  ∀ before clause c v after, ps = before ++ .marker clause c v :: after → clause ≠ .cell →
    ∃ head, before = head ++ [.name c, .words clause.sign]

theorem Tied.append {ps qs : List Piece} (hp : Tied ps) (hq : Tied qs) : Tied (ps ++ qs) := by
  intro before clause c v after e apart
  rcases List.append_eq_append_iff.mp e with ⟨rest, e₁, e₂⟩ | ⟨rest, e₁, e₂⟩
  · obtain ⟨head, e₃⟩ := hq rest clause c v after e₂ apart
    exact ⟨ps ++ head, by rw [e₁, e₃, List.append_assoc]⟩
  · cases rest with
    | nil =>
      rw [List.append_nil] at e₁
      obtain ⟨head, e₃⟩ := hq [] clause c v after e₂.symm apart
      simp at e₃
    | cons p rest =>
      obtain ⟨rfl, e₂⟩ := List.cons.inj e₂
      exact hp before clause c v rest e₁ apart

theorem tied_of_noMarker {ps : List Piece} (none : markers ps = []) : Tied ps := by
  intro before clause c v after e
  rw [e] at none
  simp [markers, Piece.marker?] at none

theorem tied_of_cells {ps : List Piece} (cells : ∀ m ∈ markers ps, m.1 = .cell) : Tied ps := by
  intro before clause c v after e apart
  have here : (clause, c, v) ∈ markers ps := by
    rw [e]
    simp [markers, Piece.marker?]
  exact absurd (cells _ here) apart

/-- A name with the marker of its column behind it. -/
theorem tied_clause (clause : Clause) (c : Column) (v : Value) :
    Tied [.name c, .words clause.sign, .marker clause c v] := by
  intro before clause' c' v' after e apart
  match before, e with
  | [_, _], e =>
    simp only [List.cons_append, List.nil_append, List.cons.injEq, Piece.marker.injEq] at e
    obtain ⟨e₁, e₂, ⟨e₃, e₄, e₅⟩, e₆⟩ := e
    exact ⟨[], by rw [← e₁, ← e₂, e₃, e₄]; rfl⟩
  | _ :: _ :: _ :: _, e => simp at e
  | [_], e => simp at e
  | [], e => simp at e

/-- The `i`-th marker among pieces, counted from zero, stands for the value of a column: behind the
name of the column or, for a cell, at the place of that name among all names. -/
def PlacedAt (ps : List Piece) (i : Nat) (clause : Clause) (c : Column) (v : Value) : Prop :=
  ∃ before after, ps = before ++ .marker clause c v :: after ∧ (markers before).length = i
    ∧ if clause = .cell then (names ps)[i]? = some c
      else ∃ head, before = head ++ [.name c, .words clause.sign]

/-- A marker is found by its number. -/
theorem split_at_marker {ps : List Piece} {i : Nat} {clause : Clause} {c : Column} {v : Value}
    (found : (markers ps)[i]? = some (clause, c, v)) :
    ∃ before after, ps = before ++ .marker clause c v :: after ∧ (markers before).length = i := by
  obtain ⟨inside, e⟩ := List.getElem?_eq_some_iff.mp found
  have split := List.take_append_drop i (markers ps)
  rw [List.drop_eq_getElem_cons inside, e] at split
  obtain ⟨front, back, rfl, e₁, e₂⟩ := List.filterMap_eq_append_iff.mp split.symm
  obtain ⟨skipped, p, after, rfl, none, e₃, e₄⟩ := List.filterMap_eq_cons_iff.mp e₂
  have here : p = .marker clause c v := by
    cases p <;> simp_all [Piece.marker?]
  refine ⟨front ++ skipped, after, by rw [here, List.append_assoc], ?_⟩
  rw [markers, List.filterMap_append, e₁, List.filterMap_eq_nil_iff.mpr none, List.append_nil,
    List.length_take]
  omega

/-! ### Statements for rows -/

/-- What is asked of a table for rows. -/
inductive RowRequest where
  | add (row : List Value)
  | remove (row : List Value)
  | update (old new : List Value)
  | find (first last : Option (List Value))
deriving Inhabited

namespace RowRequest

/-- The statement of a request. -/
def statement (ready : Except Fault Unit) (table : String) (columns : List Column) :
    RowRequest → Except Fault RowStatement
  | add row => insertRow ready columns row
  | remove row => deleteRow ready table columns row
  | update old new => updateRow ready table columns old new
  | find first last => selectBetween ready columns first last

/-- The value that a request gives for a column. -/
def given? : RowRequest → Clause → Column → Option Value
  | add row, .cell, c => row[c.ordinal]?
  | remove row, .equal, c => row[c.ordinal]?
  | update old _, .equal, c => old[c.ordinal]?
  | update _ new, .assigned, c => new[c.ordinal]?
  | find first _, .atLeast, c => first.bind (·[c.ordinal]?)
  | find _ last, .atMost, c => last.bind (·[c.ordinal]?)
  | _, _, _ => none

end RowRequest

theorem eq_some_of_valueAt {row : List Value} {c : Column} {v : Value}
    (ok : valueAt row c = .ok v) : row[c.ordinal]? = some v := by
  unfold valueAt at ok
  split at ok
  next w e =>
    cases ok
    exact e
  next => cases ok

/-- Pieces whose words are harmless, whose names are those of columns, and whose markers stand for
given values of columns, each behind the name of its column. -/
structure Sound (columns : List Column) (given : Clause → Column → Option Value)
    (ps : List Piece) : Prop where
  words : ∀ s, .words s ∈ ps → ∀ c ∈ s.toList, isHarmless c = true
  named : ∀ c, .name c ∈ ps → c ∈ columns
  values : ∀ clause c v, (clause, c, v) ∈ markers ps → c ∈ columns ∧ given clause c = some v
  tied : Tied ps

namespace Sound

variable {columns : List Column} {given : Clause → Column → Option Value}

theorem append (ps qs : List Piece) (hp : Sound columns given ps) (hq : Sound columns given qs) :
    Sound columns given (ps ++ qs) where
  words s hs := (List.mem_append.mp hs).elim (hp.words s) (hq.words s)
  named c hc := (List.mem_append.mp hc).elim (hp.named c) (hq.named c)
  values clause c v hm := by
    rw [markers, List.filterMap_append] at hm
    exact (List.mem_append.mp hm).elim (hp.values clause c v) (hq.values clause c v)
  tied := hp.tied.append hq.tied

/-- Words around the table, or words alone. -/
theorem of_words {ps : List Piece} (only : ∀ p ∈ ps, p = .table ∨ ∃ s, p = .words s)
    (words : ∀ s, .words s ∈ ps → ∀ c ∈ s.toList, isHarmless c = true) :
    Sound columns given ps where
  words := words
  named c hc := by rcases only _ hc with e | ⟨s, e⟩ <;> cases e
  values clause c v hm := by
    obtain ⟨p, hp, e⟩ := List.mem_filterMap.mp hm
    rcases only p hp with rfl | ⟨s, rfl⟩ <;> cases e
  tied := by
    apply tied_of_noMarker
    rw [markers, List.filterMap_eq_nil_iff]
    intro p hp
    rcases only p hp with rfl | ⟨s, rfl⟩ <;> rfl

theorem of_word {s : String} (harmless : s.toList.all isHarmless = true) :
    Sound columns given [.words s] := by
  apply of_words
  · simp
  · intro s' hs' c hc
    obtain rfl : s' = s := by simpa using hs'
    exact List.all_eq_true.mp harmless c hc

theorem of_table {s t : String} (hs : s.toList.all isHarmless = true)
    (ht : t.toList.all isHarmless = true) :
    Sound columns given [.words s, .table, .words t] := by
  apply of_words
  · simp
  · intro s' hs' c hc
    rcases (by simpa using hs' : s' = s ∨ s' = t) with rfl | rfl
    · exact List.all_eq_true.mp hs c hc
    · exact List.all_eq_true.mp ht c hc

theorem of_separated {sep : String} (harmless : sep.toList.all isHarmless = true)
    {groups : List (List Piece)} (each : ∀ g ∈ groups, Sound columns given g) :
    Sound columns given (separated sep groups) :=
  separated_induction sep (of_words (by simp) (by simp)) (of_word harmless) append each

theorem of_name {c : Column} (hc : c ∈ columns) : Sound columns given [.name c] where
  words := by simp
  named c' hc' := by
    obtain rfl : c' = c := by simpa using hc'
    exact hc
  values := by simp [markers, Piece.marker?]
  tied := tied_of_noMarker rfl

theorem of_cell {c : Column} {v : Value} (hc : c ∈ columns) (value : given .cell c = some v) :
    Sound columns given [.marker .cell c v] where
  words := by simp
  named := by simp
  values clause c' v' hm := by
    simp only [markers, Piece.marker?, List.filterMap_cons, List.filterMap_nil, List.mem_singleton,
      Prod.mk.injEq] at hm
    obtain ⟨rfl, rfl, rfl⟩ := hm
    exact ⟨hc, value⟩
  tied := tied_of_cells (by simp [markers, Piece.marker?])

/-- A column named without a marker. -/
theorem of_named {c : Column} {s : String} (hc : c ∈ columns)
    (harmless : s.toList.all isHarmless = true) : Sound columns given [.name c, .words s] :=
  append [.name c] [.words s] (of_name hc) (of_word harmless)

/-- A column with a marker behind its name. -/
theorem of_clause {clause : Clause} {c : Column} {v : Value} (hc : c ∈ columns)
    (value : given clause c = some v) :
    Sound columns given [.name c, .words clause.sign, .marker clause c v] where
  words s hs := by
    obtain rfl : s = clause.sign := by simpa using hs
    exact List.all_eq_true.mp (by cases clause <;> decide)
  named c' hc' := by
    obtain rfl : c' = c := by simpa using hc'
    exact hc
  values clause' c' v' hm := by
    simp only [markers, Piece.marker?, List.filterMap_cons, List.filterMap_nil, List.mem_singleton,
      Prod.mk.injEq] at hm
    obtain ⟨rfl, rfl, rfl⟩ := hm
    exact ⟨hc, value⟩
  tied := tied_clause clause c v

end Sound

/-- Conditions that tell a row name its columns and test them for its values. -/
theorem sound_conditions {ready : Except Fault Unit} {columns : List Column} {row : List Value}
    {cs : List Condition} (given : Clause → Column → Option Value)
    (gives : ∀ c, given .equal c = row[c.ordinal]?)
    (ok : conditionsOf ready columns row = .ok cs) : Sound columns given (allPieces cs) := by
  apply Sound.of_separated (by decide)
  intro g hg
  obtain ⟨condition, hc, rfl⟩ := List.mem_map.mp hg
  obtain ⟨c, mem, made⟩ := Success.exists_of_mapM ok condition hc
  have mem : c ∈ columns := (List.mem_filter.mp mem).1
  obtain ⟨_, _, made⟩ := Success.exists_of_bind made
  obtain ⟨v, value, made⟩ := Success.exists_of_bind made
  cases made
  have value : given .equal c = some v := by
    rw [gives, eq_some_of_valueAt value]
  cases v with
  | null => exact Sound.of_named mem (by decide)
  | _ => exact Sound.of_clause mem value

/-- The conditions of an identifying clause are those that tell the row. -/
theorem conditionsOf_of_identifying {ready : Except Fault Unit} {table : String}
    {columns : List Column} {row : List Value} {cs : List Condition}
    (ok : identifying ready table columns row = .ok cs) :
    conditionsOf ready columns row = .ok cs := by
  obtain ⟨cs', told, ok⟩ := Success.exists_of_bind ok
  cases cs' with
  | nil => cases ok
  | cons c cs' =>
    cases ok
    exact told

/-- The condition on one side of a column tests it for the bound. -/
theorem sound_side {make : Value → Test} {bound : Option (List Value)} {c : Column}
    {columns : List Column} {given : Clause → Column → Option Value} {cs : List Condition}
    (clause : Clause) (hc : c ∈ columns)
    (pieces : ∀ v, (make v).pieces c = [.words clause.sign, .marker clause c v])
    (gives : given clause c = bound.bind (·[c.ordinal]?)) (ok : sideOf make bound c = .ok cs) :
    ∀ condition ∈ cs, Sound columns given condition.pieces := by
  cases bound with
  | none =>
    cases ok
    simp
  | some row =>
    obtain ⟨v, value, ok⟩ := Success.exists_of_bind ok
    have value : given clause c = some v := by
      rw [gives]
      exact eq_some_of_valueAt value
    have here : Sound columns given (Condition.pieces ⟨c, make v⟩) := by
      rw [Condition.pieces, pieces]
      exact Sound.of_clause hc value
    cases v with
    | null =>
      cases ok
      simp
    | _ =>
      cases ok
      simpa using here

/-- The cells of an inserted row are values of the row in their columns. -/
theorem cell_of_row {ready : Except Fault Unit} {columns : List Column} {row : List Value}
    {found : List (Option (Column × Value))} (ok : columns.mapM (cellOf ready row) = .ok found) :
    ∀ cell ∈ found.filterMap id, cell.1 ∈ columns ∧ row[cell.1.ordinal]? = some cell.2 := by
  rintro ⟨c, v⟩ member
  obtain ⟨entry, he, e⟩ := List.mem_filterMap.mp member
  obtain ⟨c', hc', made⟩ := Success.exists_of_mapM ok entry he
  obtain ⟨v', value, made⟩ := Success.exists_of_bind made
  obtain rfl : entry = some (c, v) := e
  have same : c' = c ∧ v' = v := by
    cases v' with
    | useDefault => cases made
    | _ =>
      obtain ⟨_, _, made⟩ := Success.exists_of_bind made
      cases made
      exact ⟨rfl, rfl⟩
  obtain ⟨rfl, rfl⟩ := same
  exact ⟨hc', eq_some_of_valueAt value⟩

section Requests

variable {ready : Except Fault Unit} {table : String} {columns : List Column}
  {statement : RowStatement}

theorem sound_add {row : List Value} (ok : insertRow ready columns row = .ok statement) :
    Sound columns (RowRequest.add row).given? statement.pieces := by
  obtain ⟨found, gone, made⟩ := Success.exists_of_bind ok
  cases made
  have cells := cell_of_row gone
  cases e : found.filterMap id with
  | nil => exact Sound.of_table (by decide) (by decide)
  | cons cell rest =>
    rw [e] at cells
    have names : Sound columns (RowRequest.add row).given?
        (separated ", " ((cell :: rest).map fun c => [.name c.1])) := by
      apply Sound.of_separated (by decide)
      intro g hg
      obtain ⟨c, hc, rfl⟩ := List.mem_map.mp hg
      exact Sound.of_name (cells c hc).1
    have values : Sound columns (RowRequest.add row).given?
        (separated ", " ((cell :: rest).map fun c => [.marker .cell c.1 c.2])) := by
      apply Sound.of_separated (by decide)
      intro g hg
      obtain ⟨c, hc, rfl⟩ := List.mem_map.mp hg
      exact Sound.of_cell (cells c hc).1 (cells c hc).2
    exact .append _ _ (.append _ _ (.append _ _ (.append _ _
      (.of_table (by decide) (by decide)) names) (.of_word (by decide))) values)
      (.of_word (by decide))

theorem sound_remove {row : List Value} (ok : deleteRow ready table columns row = .ok statement) :
    Sound columns (RowRequest.remove row).given? statement.pieces := by
  obtain ⟨cs, told, made⟩ := Success.exists_of_bind ok
  cases made
  have conditions := sound_conditions (RowRequest.remove row).given? (fun _ => rfl)
    (conditionsOf_of_identifying told)
  exact .append _ _ (.of_table (by decide) (by decide)) conditions

theorem sound_update {old new : List Value}
    (ok : updateRow ready table columns old new = .ok statement) :
    Sound columns (RowRequest.update old new).given? statement.pieces := by
  obtain ⟨assignments, assigns, made⟩ := Success.exists_of_bind ok
  obtain ⟨cs, told, made⟩ := Success.exists_of_bind made
  cases made
  have conditions := sound_conditions (RowRequest.update old new).given? (fun _ => rfl)
    (conditionsOf_of_identifying told)
  have assigned : Sound columns (RowRequest.update old new).given?
      (separated ", " (assignments.map assignmentPieces)) := by
    apply Sound.of_separated (by decide)
    intro g hg
    obtain ⟨a, ha, rfl⟩ := List.mem_map.mp hg
    obtain ⟨c, hc, made⟩ := Success.exists_of_mapM assigns a ha
    obtain ⟨v, value, made⟩ := Success.exists_of_bind made
    obtain ⟨_, _, made⟩ := Success.exists_of_bind made
    cases made
    have value : (RowRequest.update old new).given? .assigned c = some v :=
      eq_some_of_valueAt value
    cases v with
    | useDefault => exact Sound.of_named hc (by decide)
    | _ => exact Sound.of_clause hc value
  exact .append _ _ (.append _ _ (.append _ _ (.of_table (by decide) (by decide)) assigned)
    (.of_word (by decide))) conditions

theorem sound_find {first last : Option (List Value)}
    (ok : selectBetween ready columns first last = .ok statement) :
    Sound columns (RowRequest.find first last).given? statement.pieces := by
  obtain ⟨sides, gone, made⟩ := Success.exists_of_bind ok
  cases made
  -- Every condition stands on one side of a column.
  have each : ∀ condition ∈ sides.flatten,
      Sound columns (RowRequest.find first last).given? condition.pieces := by
    intro condition inSides
    obtain ⟨side, hs, inSide⟩ := List.mem_flatten.mp inSides
    obtain ⟨c, mem, made⟩ := Success.exists_of_mapM gone side hs
    obtain ⟨_, _, made⟩ := Success.exists_of_bind made
    obtain ⟨lower, low, made⟩ := Success.exists_of_bind made
    obtain ⟨upper, up, made⟩ := Success.exists_of_bind made
    cases made
    rcases List.mem_append.mp inSide with inLower | inUpper
    · exact sound_side .atLeast mem (fun _ => rfl) rfl low condition inLower
    · exact sound_side .atMost mem (fun _ => rfl) rfl up condition inUpper
  cases e : sides.flatten with
  | nil => exact Sound.of_table (by decide) (by decide)
  | cons condition rest =>
    rw [e] at each
    have all : Sound columns (RowRequest.find first last).given?
        (allPieces (condition :: rest)) := by
      apply Sound.of_separated (by decide)
      intro g hg
      obtain ⟨condition', hc, rfl⟩ := List.mem_map.mp hg
      exact each condition' hc
    exact .append _ _ (.of_table (by decide) (by decide)) all

/-- The pieces of the statement for a request are sound. -/
theorem sound_of_request {request : RowRequest}
    (ok : request.statement ready table columns = .ok statement) :
    Sound columns request.given? statement.pieces := by
  cases request with
  | add row => exact sound_add ok
  | remove row => exact sound_remove ok
  | update old new => exact sound_update ok
  | find first last => exact sound_find ok

end Requests

/-! ### Delivery -/

theorem markers_append (ps qs : List Piece) : markers (ps ++ qs) = markers ps ++ markers qs :=
  List.filterMap_append

theorem markers_separated (sep : String) (groups : List (List Piece)) :
    markers (separated sep groups) = groups.flatMap markers :=
  filterMap_separated _ (fun _ => rfl) sep groups

theorem names_append (ps qs : List Piece) : names (ps ++ qs) = names ps ++ names qs :=
  List.filterMap_append

theorem names_separated (sep : String) (groups : List (List Piece)) :
    names (separated sep groups) = groups.flatMap names :=
  filterMap_separated _ (fun _ => rfl) sep groups

/-- The markers of an inserted row are those of its cells. -/
theorem markers_insert (cells : List (Column × Value)) :
    markers (RowStatement.insert cells).pieces = cells.map fun c => (.cell, c.1, c.2) := by
  cases cells with
  | nil => rfl
  | cons c cells =>
    have noMarker : markers (separated ", " ((c :: cells).map fun c => [Piece.name c.1])) = [] := by
      rw [markers_separated, List.flatMap_eq_nil_iff]
      intro g hg
      obtain ⟨c', _, rfl⟩ := List.mem_map.mp hg
      rfl
    have values : markers (separated ", " ((c :: cells).map fun c => [.marker .cell c.1 c.2]))
        = (c :: cells).map fun c => (.cell, c.1, c.2) := by
      rw [markers_separated, List.flatMap_map, List.map_eq_flatMap]
      rfl
    simp only [RowStatement.pieces, markers_append, noMarker, values]
    exact List.append_nil _

/-- The columns that an inserted row names are those of its cells. -/
theorem names_insert (cells : List (Column × Value)) :
    names (RowStatement.insert cells).pieces = cells.map (·.1) := by
  cases cells with
  | nil => rfl
  | cons c cells =>
    have named : names (separated ", " ((c :: cells).map fun c => [Piece.name c.1]))
        = (c :: cells).map (·.1) := by
      rw [names_separated, List.flatMap_map, List.map_eq_flatMap]
      rfl
    have noName : names (separated ", " ((c :: cells).map fun c => [.marker .cell c.1 c.2]))
        = [] := by
      rw [names_separated, List.flatMap_eq_nil_iff]
      intro g hg
      obtain ⟨c', _, rfl⟩ := List.mem_map.mp hg
      rfl
    simp only [RowStatement.pieces, names_append, named, noName]
    show [] ++ (c :: cells).map (·.1) ++ [] ++ [] ++ [] = _
    simp only [List.nil_append, List.append_nil]

/-- The values of conditions belong to their markers. -/
theorem values_of_conditions (cs : List Condition) :
    (markers (allPieces cs)).map (·.2.2) = allParams cs := by
  rw [allPieces, markers_separated, allParams]
  induction cs with
  | nil => rfl
  | cons c cs ih =>
    rw [List.map_cons, List.flatMap_cons, List.map_append, ih, List.filterMap_cons]
    rcases c with ⟨column, _ | v | v | v⟩ <;> rfl

/-- The values of assignments belong to their markers. -/
theorem values_of_assignments (as : List (Column × Option Value)) :
    (markers (separated ", " (as.map assignmentPieces))).map (·.2.2) = as.filterMap (·.2) := by
  rw [markers_separated]
  induction as with
  | nil => rfl
  | cons a as ih =>
    rw [List.map_cons, List.flatMap_cons, List.map_append, ih, List.filterMap_cons]
    rcases a with ⟨column, _ | v⟩ <;> rfl

/-- The values of a statement belong to its markers. -/
theorem values_of_markers (statement : RowStatement) :
    (markers statement.pieces).map (·.2.2) = statement.params := by
  cases statement with
  | select cs =>
    cases cs with
    | nil => rfl
    | cons c cs =>
      simp only [RowStatement.pieces, markers_append, List.map_append, values_of_conditions]
      rfl
  | insert cells =>
    rw [markers_insert, List.map_map]
    rfl
  | update assignments cs =>
    simp only [RowStatement.pieces, markers_append, List.map_append, values_of_conditions,
      values_of_assignments]
    show [] ++ assignments.filterMap (·.2) ++ [] ++ allParams cs = _
    simp only [List.nil_append, List.append_nil]
    rfl
  | delete cs =>
    simp only [RowStatement.pieces, markers_append, List.map_append, values_of_conditions]
    rfl

/-- The marker of a value among sound pieces is behind the name of its column, unless it is that of
a cell. -/
theorem placedAt_of_sound {columns : List Column} {given : Clause → Column → Option Value}
    {ps : List Piece} (sound : Sound columns given ps) {i : Nat} {clause : Clause} {c : Column}
    {v : Value} (found : (markers ps)[i]? = some (clause, c, v))
    (cell : clause = .cell → (names ps)[i]? = some c) : PlacedAt ps i clause c v := by
  obtain ⟨before, after, e, number⟩ := split_at_marker found
  refine ⟨before, after, e, number, ?_⟩
  split
  next isCell => exact cell isCell
  next apart => exact sound.tied before clause c v after e apart

/-- The cells of an inserted row stand in the order of the names. -/
theorem name_of_cell {ready : Except Fault Unit} {table : String} {columns : List Column}
    {request : RowRequest} {statement : RowStatement}
    (ok : request.statement ready table columns = .ok statement) {i : Nat} {c : Column} {v : Value}
    (found : (markers statement.pieces)[i]? = some (.cell, c, v)) :
    (names statement.pieces)[i]? = some c := by
  have given := ((sound_of_request ok).values .cell c v (List.mem_of_getElem? found)).2
  cases request with
  | add row =>
    obtain ⟨cells, _, made⟩ := Success.exists_of_bind ok
    cases made
    rw [markers_insert, List.getElem?_map] at found
    rw [names_insert, List.getElem?_map]
    obtain ⟨cell, e, same⟩ := Option.map_eq_some_iff.mp found
    cases same
    rw [e]
    rfl
  | remove row => cases given
  | update old new => cases given
  | find first last => cases given

/-- A request whose values reach their own columns, where `style` quotes identifiers: the statement
has a marker for each value; what is sent differs from it by the numbers of the markers and by the
escaped colons of names; and the `i`-th marker stands for the value of the column that the `i`-th
value was taken from. -/
structure Delivered (style : Dialect.Style) (table : String) (columns : List Column)
    (request : RowRequest) (statement : RowStatement) : Prop where
  written : (statement.text style.quote table).toList
    = written style.quote table statement.pieces
  sent : (numberMarkers (statement.text style.quote table)).1
    = String.ofList (sentFrom style.quote table 0 statement.pieces)
  count : (numberMarkers (statement.text style.quote table)).2 = statement.params.length
  placed : ∀ i v, statement.params[i]? = some v →
    ∃ clause, ∃ c ∈ columns,
      PlacedAt statement.pieces i clause c v ∧ request.given? clause c = some v

/-- Values reach their own columns if the table closes its quotes and has no marker outside of them,
and the names of the columns are scanned as they are meant. -/
theorem delivered_of_request {style : Dialect.Style} {ready : Except Fault Unit}
    {name table : String} {columns : List Column} {request : RowRequest} {statement : RowStatement}
    (ok : request.statement ready name columns = .ok statement)
    (settled : isSettled none table.toList = true)
    (scannable : ∀ c ∈ columns, style.Scannable c.remoteName) :
    Delivered style table columns request statement := by
  have sound := sound_of_request ok
  have text := written_pieces style.quote table statement
  have scan := numberFrom_pieces sound.words (fun c hc => scannable c (sound.named c hc)) settled 0
  have values := values_of_markers statement
  rw [text, Nat.zero_add] at scan
  refine ⟨text.symm, ?_, ?_, ?_⟩
  · rw [numberMarkers, scan]
  · rw [numberMarkers, scan, ← values, List.length_map]
  · intro i v found
    rw [← values, List.getElem?_map] at found
    obtain ⟨⟨clause, c, w⟩, here, rfl⟩ := Option.map_eq_some_iff.mp found
    obtain ⟨mem, given⟩ := sound.values clause c w (List.mem_of_getElem? here)
    refine ⟨clause, c, mem, ?_, given⟩
    exact placedAt_of_sound sound here fun isCell => name_of_cell ok (isCell ▸ here)

/-- A column of whole numbers. -/
def wholeColumn (ordinal : Nat) (remoteName : String) : Column :=
  ⟨remoteName, ⟨.integer, 0, 0, ""⟩, ordinal, remoteName, true⟩

/-- Markers, colons and quotes in names between double quotes. -/
theorem delivered_between_quotes :
    ∃ statement,
      (RowRequest.update [.int 1, .null] [.int 2, .int 3]).statement (.ok ()) "T"
        [wholeColumn 0 "a?b:c", wholeColumn 1 "d\"'e"] = .ok statement
      ∧ Delivered .standard "S.\"T?\"" [wholeColumn 0 "a?b:c", wholeColumn 1 "d\"'e"]
        (.update [.int 1, .null] [.int 2, .int 3]) statement := by
  refine ⟨_, rfl, ?_⟩
  have settled : isSettled none "S.\"T?\"".toList = true := by decide
  exact delivered_of_request (show RowRequest.statement (.ok ()) "T" _ _ = .ok _ from rfl) settled
    fun _ _ => .inl rfl

/-- Between brackets a question mark in a name is taken for a marker, so that every later value
goes to the column before its own. -/
theorem brackets_number_marker :
    ∃ statement,
      (RowRequest.add [.int 1, .int 2]).statement (.ok ()) "T"
        [wholeColumn 0 "a?b", wholeColumn 1 "c"] = .ok statement
      ∧ statement.params.length = 2
      ∧ numberMarkers (statement.text (Dialect.Style.ofDialect "mssql").quote "T")
          = ("INSERT INTO T([a:p1b], c) VALUES(:p2, :p3)", 3) :=
  ⟨_, rfl, rfl, by decide +kernel⟩

end LinkedTables.Sql
