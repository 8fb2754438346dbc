import LinkedTables.Sql.Recreation

/-!
# Reading the statement that recreates a link

The statement that creates a linked table tells everything of the link that is to be created:
`readCreation` reads schema, name and definition back from its text, whatever quotes, parentheses,
commas or comment marks the texts in it hold (`creation_eq_iff`). A quoted text ends at the first
mark that is not doubled, as no mark comes right behind a closing one (`reads_enclosed`); the words
between the quoted texts differ in their first character wherever one of them may be missing.

Two things about a link the statement does not tell, and `Definition.recreated` is without them:
the link is created by force whether or not it was before, and a table that is not temporary has no
scope. An empty remote schema is written as none.
-/

namespace LinkedTables

/-- A definition as far as the statement that recreates the link tells it. -/
def Definition.recreated (d : Definition) : Definition :=
  { d with
    force := true
    globalTemporary := d.temporary && d.globalTemporary
    remoteSchema := d.remoteSchema.filter (!·.isEmpty) }

namespace Sql

/-! ### Readers -/

/-- Reads something off the beginning of a text and leaves the rest, or refuses the text. -/
abbrev Reader (α : Type) := StateT (List Char) Option α

/-- A word that has to be there. -/
def word (w : String) : Reader Unit := fun cs => (Text.afterPrefix? w.toList cs).map ((), ·)

/-- Whether a word is there; then it is read. -/
def follows (w : String) : Reader Bool := fun cs =>
  match Text.afterPrefix? w.toList cs with
  | some rest => some (true, rest)
  | none => some (false, cs)

/-- The characters up to a mark that is not doubled, and the text behind it; each doubled mark
stands for one. -/
def bodyOf (mark : Char) : List Char → Option (List Char × List Char)
  | [] => none
  | c :: cs =>
    if c = mark then
      match cs with
      | [] => some ([], [])
      | c' :: cs' =>
        if c' = mark then (bodyOf mark cs').map fun (body, rest) => (mark :: body, rest)
        else some ([], cs)
    else (bodyOf mark cs).map fun (body, rest) => (c :: body, rest)

/-- A text between marks. -/
def enclosed (mark : Char) : Reader String
  | [] => none
  | c :: cs =>
    if c = mark then (bodyOf mark cs).map fun (body, rest) => (String.ofList body, rest) else none

/-- A text literal, or null. -/
def literalText : Reader (Option String) := do
  if ← follows "NULL" then return none else return some (← enclosed '\'')

/-- A number in decimal digits. -/
def number : Reader Nat := fun cs =>
  some (Nat.ofDigitChars 10 (cs.takeWhile Char.isDigit) 0, cs.dropWhile Char.isDigit)

/-- Whether the table is temporary, and then whether it is global. -/
def scopeWords : Reader (Bool × Bool) := do
  if ← follows "GLOBAL TEMPORARY " then return (true, true)
  else return (← follows "LOCAL TEMPORARY ", false)

/-- The comment, if there is one. -/
def commentText : Reader (Option String) := do
  if ← follows " COMMENT " then return some (← enclosed '\'') else return none

/-- The remote schema, if there is one, and the remote table. -/
def schemaAndTable : Reader (Option String × String) := do
  let first ← enclosed '\''
  if ← follows ", " then return (some first, ← enclosed '\'') else return (none, first)

/-- The rows to fetch at a time; nothing is written for zero. -/
def fetchNumber : Reader Nat := do
  if ← follows " FETCH_SIZE " then number else return 0

/-- The options: whether changes are emitted as updates, whether the table is only read, and the
rows to fetch at a time. -/
def options : Reader (Bool × Bool × Nat) := do
  let emitUpdates ← follows " EMIT UPDATES"
  let readOnly ← follows " READONLY"
  return (emitUpdates, readOnly, ← fetchNumber)

/-- A statement that creates a linked table: the schema, the name and the definition. -/
def creationText : Reader (String × String × Definition) := do
  word "CREATE FORCE "
  let (temporary, globalTemporary) ← scopeWords
  word "LINKED TABLE "
  let schema ← enclosed '"'
  word "."
  let name ← enclosed '"'
  let comment ← commentText
  word "("
  let driver ← literalText
  word ", "
  let url ← enclosed '\''
  word ", "
  let user ← literalText
  word ", "
  let password ← literalText
  word ", "
  let (remoteSchema, remoteTable) ← schemaAndTable
  word ")"
  let (emitUpdates, readOnly, fetchSize) ← options
  word " /*--hide--*/"
  return (schema, name, ⟨driver, url, user, password, remoteSchema, remoteTable, emitUpdates, true,
    readOnly, fetchSize, temporary, globalTemporary, comment⟩)

/-- Reads a statement that creates a linked table. -/
def readCreation (text : String) : Option (String × String × Definition) :=
  (creationText text.toList).map Prod.fst

/-! ### What is read -/

/-- The text in front of the rest is read, and stands for the value. -/
def Reads {α : Type} (p : Reader α) (text : List Char) (a : α) (rest : List Char) : Prop :=
  p (text ++ rest) = some (a, rest)

section Reads

variable {α β : Type} {p : Reader α} {t u rest : List Char} {a : α} {b : β}

theorem Reads.bind {f : α → Reader β} (first : Reads p t a (u ++ rest))
    (second : Reads (f a) u b rest) : Reads (p >>= f) (t ++ u) b rest := by
  unfold Reads at *
  rw [List.append_assoc]
  show (p (t ++ (u ++ rest)) >>= fun r => f r.1 r.2) = _
  rw [first]
  exact second

theorem Reads.of_pure (a : α) : Reads (pure a : Reader α) [] a rest := rfl

/-- What is read last. -/
theorem Reads.map {f : α → β} (first : Reads p t a rest) :
    Reads (do return f (← p)) t (f a) rest := by
  have read := first.bind (f := fun a => pure (f a)) (u := []) (Reads.of_pure (f a))
  rwa [List.append_nil] at read

theorem reads_word (w : String) : Reads (word w) w.toList () rest := by
  rw [Reads, word, Text.afterPrefix?_append]
  rfl

theorem reads_follows (w : String) : Reads (follows w) w.toList true rest := by
  rw [Reads, follows, Text.afterPrefix?_append]

/-- A word is not there if the text begins with another character. -/
theorem reads_no_follows {w : String} {c : Char} (begins : w.toList.head? = some c)
    (other : rest.head? ≠ some c) : Reads (follows w) [] false rest := by
  have absent : Text.afterPrefix? w.toList rest = none := by
    obtain ⟨cs, cons⟩ := List.head?_eq_some_iff.mp begins
    rw [cons]
    cases rest with
    | nil => rfl
    | cons c' rest =>
      have ne : c ≠ c' := fun e => other (congrArg some e.symm)
      rw [Text.afterPrefix?, if_neg ne]
  rw [Reads, List.nil_append, follows, absent]

/-! ### Quoted texts and numbers -/

theorem bodyOf_replaceChar {mark : Char} (cs : List Char) (ends : rest.head? ≠ some mark) :
    bodyOf mark (Text.replaceChar mark [mark, mark] cs ++ mark :: rest) = some (cs, rest) := by
  induction cs with
  | nil =>
    rw [Text.replaceChar, List.flatMap_nil, List.nil_append, bodyOf.eq_def]
    dsimp only
    rw [if_pos rfl]
    cases rest with
    | nil => rfl
    | cons c rest => exact if_neg fun e => ends (congrArg some e)
  | cons c cs ih =>
    rw [Text.replaceChar, List.flatMap_cons, ← Text.replaceChar]
    by_cases e : c = mark
    · rw [if_pos e, List.append_assoc, List.cons_append, List.singleton_append, bodyOf.eq_def]
      dsimp only
      rw [if_pos rfl, if_pos rfl, ih, e]
      rfl
    · rw [if_neg e, List.cons_append, List.cons_append, List.nil_append, bodyOf.eq_def]
      dsimp only
      rw [if_neg e, ih]
      rfl

/-- A text is read up to the mark that closes it. -/
theorem reads_enclosed (mark : Char) (s : String) (ends : rest.head? ≠ some mark) :
    Reads (enclosed mark) (enclose mark s.toList) s rest := by
  have body := bodyOf_replaceChar s.toList ends
  rw [Reads, enclose, List.append_assoc, List.cons_append, List.singleton_append, enclosed,
    if_pos rfl, body, Option.map_some]
  simp only [String.ofList_toList]

theorem toList_textLiteral (s : String) : (textLiteral (some s)).toList = enclose '\'' s.toList :=
  String.toList_ofList

theorem reads_literalText (s : Option String) (ends : rest.head? ≠ some '\'') :
    Reads literalText (textLiteral s).toList s rest := by
  cases s with
  | none =>
    have null : Reads (follows "NULL") "NULL".toList true rest := reads_follows "NULL"
    have read := null.bind (f := fun b => _) (u := [])
      (Reads.of_pure (none : Option String))
    exact read
  | some s =>
    rw [toList_textLiteral]
    refine Reads.bind (t := []) (reads_no_follows (c := 'N') (by decide) ?_)
      (reads_enclosed '\'' s ends).map
    simp

theorem reads_number (n : Nat) (ends : ∀ c ∈ rest.head?, c.isDigit = false) :
    Reads number n.repr.toList n rest := by
  have digits : ∀ c ∈ Nat.toDigits 10 n, c.isDigit = true := fun c hc =>
    Nat.isDigit_of_mem_toDigits (by decide) (by decide) hc
  have last : rest.takeWhile Char.isDigit = [] ∧ rest.dropWhile Char.isDigit = rest := by
    cases rest with
    | nil => exact ⟨rfl, rfl⟩
    | cons c rest =>
      have no := ends c rfl
      simp [no]
  rw [Reads, number, Nat.toList_repr, List.takeWhile_append_of_pos digits,
    List.dropWhile_append_of_pos digits, last.1, last.2, List.append_nil,
    Nat.ofDigitChars_toDigits (by decide) (by decide)]

end Reads

/-! ### The clauses of the statement -/

section Clauses

variable {rest : List Char} (d : Definition)

theorem reads_scopeWords :
    Reads scopeWords (temporaryWords d).toList (d.temporary, d.temporary && d.globalTemporary)
      ("LINKED TABLE ".toList ++ rest) := by
  cases temporary : d.temporary with
  | false =>
    rw [temporaryWords, temporary]
    rfl
  | true =>
    cases scope : d.globalTemporary with
    | true =>
      rw [temporaryWords, temporary, scope]
      rfl
    | false =>
      rw [temporaryWords, temporary, scope]
      rfl

theorem reads_commentText (ends : rest.head? = some '(') :
    Reads commentText (commentClause d.comment).toList d.comment rest := by
  cases d.comment with
  | none =>
    have absent : Reads (follows " COMMENT ") [] false rest :=
      reads_no_follows (c := ' ') (by decide) (by rw [ends]; decide)
    rw [commentClause, String.toList_empty]
    exact Reads.bind (t := []) (u := []) absent (Reads.of_pure none)
  | some comment =>
    rw [commentClause, String.toList_append, toList_textLiteral]
    refine (reads_follows " COMMENT ").bind ?_
    exact (reads_enclosed '\'' comment (by rw [ends]; decide)).map

/-- The remote schema and the table, which may be all there is. -/
theorem reads_schemaAndTable (schema : Option String) (table : String)
    (ends : rest.head? = some ')') :
    Reads schemaAndTable
      ((schema.elim [] fun schema => enclose '\'' schema.toList ++ ", ".toList)
        ++ enclose '\'' table.toList)
      (schema, table) rest := by
  have last : rest.head? ≠ some '\'' := by
    rw [ends]
    decide
  cases schema with
  | none =>
    have alone : Reads (follows ", ") [] false rest :=
      reads_no_follows (c := ',') (by decide) (by rw [ends]; decide)
    have read : Reads schemaAndTable (enclose '\'' table.toList ++ []) (none, table) rest :=
      (reads_enclosed '\'' table last).bind
        (Reads.bind (t := []) (u := []) alone (Reads.of_pure (none, table)))
    rwa [List.append_nil] at read
  | some schema =>
    rw [Option.elim_some, List.append_assoc]
    refine (reads_enclosed '\'' schema ?_).bind ((reads_follows ", ").bind ?_)
    · simp
    · exact (reads_enclosed '\'' table last).map

theorem reads_fetchNumber (n : Nat) :
    Reads fetchNumber (if n ≠ 0 then s!" FETCH_SIZE {n}" else "").toList n
      " /*--hide--*/".toList := by
  by_cases zero : n = 0
  · rw [if_neg (not_not_intro zero), zero]
    rfl
  · rw [if_pos zero]
    show Reads fetchNumber (" FETCH_SIZE " ++ n.repr).toList n _
    rw [String.toList_append]
    refine (reads_follows " FETCH_SIZE ").bind (reads_number n fun c first => ?_)
    have blank : " /*--hide--*/".toList.head? = some ' ' := by decide
    rw [blank] at first
    rw [← Option.some.inj first]
    rfl

/-- A word for an option is read if the option is taken, and nothing if it is not. -/
theorem reads_option (w : String) (taken : Bool)
    (absent : taken = false → Text.afterPrefix? w.toList rest = none) :
    Reads (follows w) (if taken then w else "").toList taken rest := by
  cases taken with
  | true => exact reads_follows w
  | false =>
    show Reads (follows w) [] false rest
    rw [Reads, List.nil_append, follows, absent rfl]

/-- The options begin differently in the second character. -/
theorem reads_options :
    Reads options (optionWords d).toList (d.emitUpdates, d.readOnly, d.fetchSize)
      " /*--hide--*/".toList := by
  have fetch : (s!" FETCH_SIZE {d.fetchSize}").toList
      = " FETCH_SIZE ".toList ++ d.fetchSize.repr.toList := String.toList_append
  rw [optionWords, String.toList_append, String.toList_append, List.append_assoc]
  refine (reads_option _ _ fun _ => ?_).bind
    ((reads_option _ _ fun _ => ?_).bind (reads_fetchNumber d.fetchSize).map)
  · by_cases zero : d.fetchSize = 0
    · rw [if_neg (not_not_intro zero)]
      cases d.readOnly <;> rfl
    · rw [if_pos zero, fetch]
      cases d.readOnly <;> rfl
  · by_cases zero : d.fetchSize = 0
    · rw [if_neg (not_not_intro zero)]
      rfl
    · rw [if_pos zero, fetch]
      rfl

end Clauses

/-! ### The whole statement -/

/-- The arguments of a link as they are written, from the remote schema on. -/
theorem toList_linkArguments (d : Definition) :
    (", ".intercalate ((linkArguments d).map textLiteral)).toList
      = (textLiteral d.driver).toList ++ (", ".toList ++ (enclose '\'' d.url.toList ++
        (", ".toList ++ ((textLiteral d.user).toList ++ (", ".toList ++
        ((textLiteral d.password).toList ++ (", ".toList ++
        ((d.recreated.remoteSchema.elim [] fun schema =>
            enclose '\'' schema.toList ++ ", ".toList)
          ++ enclose '\'' d.remoteTable.toList)))))))) := by
  rw [String.toList_intercalate, linkArguments, Definition.recreated]
  cases d.remoteSchema with
  | none => simp [toList_textLiteral, List.intercalate]
  | some schema =>
    cases empty : schema.isEmpty with
    | true => simp [toList_textLiteral, List.intercalate, Option.filter, empty]
    | false => simp [toList_textLiteral, List.intercalate, Option.filter, empty]

/-- The statement, piece by piece. -/
theorem toList_creation (schema name : String) (d : Definition) :
    (creation schema name d).toList = "CREATE FORCE ".toList ++ ((temporaryWords d).toList
      ++ ("LINKED TABLE ".toList ++ (enclose '"' schema.toList ++ (".".toList
      ++ (enclose '"' name.toList ++ ((commentClause d.comment).toList ++ ("(".toList
      ++ ((textLiteral d.driver).toList ++ (", ".toList ++ (enclose '\'' d.url.toList
      ++ (", ".toList ++ ((textLiteral d.user).toList ++ (", ".toList
      ++ ((textLiteral d.password).toList ++ (", ".toList
      ++ (((d.recreated.remoteSchema.elim [] fun schema =>
          enclose '\'' schema.toList ++ ", ".toList)
        ++ enclose '\'' d.remoteTable.toList) ++ (")".toList
      ++ ((optionWords d).toList ++ " /*--hide--*/".toList)))))))))))))))))) := by
  have mark : " /*".toList ++ (hideMark.toList ++ "*/".toList) = " /*--hide--*/".toList := by
    rw [← String.toList_append, ← String.toList_append]
    exact congrArg String.toList (show " /*" ++ (hideMark ++ "*/") = " /*--hide--*/" by decide)
  have quoted : ∀ s, (quotedName s).toList = enclose '"' s.toList := fun _ => String.toList_ofList
  -- the equation that `rw` would unfold the statement by takes long to state
  unfold creation
  simp only [tableName, String.toList_append, toList_linkArguments, List.append_assoc, mark, quoted]

/-- No quote comes right behind the name of the table. -/
theorem head?_commentClause (comment : Option String) (rest : List Char) :
    ((commentClause comment).toList ++ ("(".toList ++ rest)).head? ≠ some '"' := by
  cases comment with
  | none => simp [commentClause]
  | some comment => simp [commentClause]

/-- The statement reads as the link that it creates. -/
theorem readCreation_creation (schema name : String) (d : Definition) :
    readCreation (creation schema name d) = some (schema, name, d.recreated) := by
  have read :
      Reads creationText (creation schema name d).toList (schema, name, d.recreated) [] := by
    rw [toList_creation]
    -- the head of the statement
    refine Reads.bind (reads_word _) ?_
    refine Reads.bind (reads_scopeWords d) ?_
    refine Reads.bind (reads_word _) ?_
    refine Reads.bind (reads_enclosed '"' schema (by simp)) ?_
    refine Reads.bind (reads_word _) ?_
    refine Reads.bind (reads_enclosed '"' name ?_) ?_
    · rw [List.append_nil]
      exact head?_commentClause _ _
    refine Reads.bind (reads_commentText d rfl) ?_
    -- the target and the remote table, between parentheses
    refine Reads.bind (reads_word _) ?_
    refine Reads.bind (reads_literalText d.driver (by simp)) ?_
    refine Reads.bind (reads_word _) ?_
    refine Reads.bind (reads_enclosed '\'' d.url (by simp)) ?_
    refine Reads.bind (reads_word _) ?_
    refine Reads.bind (reads_literalText d.user (by simp)) ?_
    refine Reads.bind (reads_word _) ?_
    refine Reads.bind (reads_literalText d.password (by simp)) ?_
    refine Reads.bind (reads_word _) ?_
    refine Reads.bind (reads_schemaAndTable d.recreated.remoteSchema d.remoteTable rfl) ?_
    refine Reads.bind (reads_word _) ?_
    refine Reads.bind (reads_options d) ?_
    exact (reads_word _).map
  rw [readCreation]
  rw [Reads, List.append_nil] at read
  rw [read]
  rfl

/-- The statement tells no more of a definition than what is read from it. -/
theorem creation_recreated (schema name : String) (d : Definition) :
    creation schema name d.recreated = creation schema name d := by
  have scope : temporaryWords d.recreated = temporaryWords d := by
    rw [temporaryWords, temporaryWords, Definition.recreated]
    cases d.temporary <;> simp
  have arguments : linkArguments d.recreated = linkArguments d := by
    rw [linkArguments, linkArguments, Definition.recreated]
    cases d.remoteSchema with
    | none => rfl
    | some schema =>
      cases empty : schema.isEmpty with
      | true => simp [Option.filter, empty]
      | false => simp [Option.filter, empty]
  unfold creation
  rw [scope, arguments]
  rfl

/-- A remote schema is written as none if it is empty. -/
theorem filter_isEmpty_inj (schema schema' : Option String) :
    schema.filter (!·.isEmpty) = schema'.filter (!·.isEmpty) ↔
      schema.getD "" = schema'.getD "" := by
  have written : ∀ schema : Option String,
      schema.filter (!·.isEmpty) = if schema.getD "" = "" then none else some (schema.getD "") := by
    intro schema
    cases schema with
    | none => rfl
    | some schema => simp [Option.filter]
  rw [written, written]
  constructor
  · intro same
    split at same <;> split at same <;> simp_all
  · intro same
    rw [same]

/-- Two definitions are recreated alike exactly when they agree on everything but force, on the
scope only of temporary tables, and on the remote schema up to an empty one. -/
theorem recreated_eq_iff (d d' : Definition) :
    d.recreated = d'.recreated ↔
      d.temporary = d'.temporary ∧ (d.temporary = true → d.globalTemporary = d'.globalTemporary) ∧
      d.comment = d'.comment ∧ d.driver = d'.driver ∧ d.url = d'.url ∧ d.user = d'.user ∧
      d.password = d'.password ∧ d.remoteSchema.getD "" = d'.remoteSchema.getD "" ∧
      d.remoteTable = d'.remoteTable ∧ d.emitUpdates = d'.emitUpdates ∧
      d.readOnly = d'.readOnly ∧ d.fetchSize = d'.fetchSize := by
  have scope : d.temporary = d'.temporary →
      ((d.temporary && d.globalTemporary) = (d'.temporary && d'.globalTemporary) ↔
        (d.temporary = true → d.globalTemporary = d'.globalTemporary)) := by
    intro same
    rw [← same]
    cases d.temporary <;> simp
  rw [Definition.recreated, Definition.recreated, Definition.mk.injEq, filter_isEmpty_inj]
  constructor
  · rintro ⟨driver, url, user, password, schema, table, emit, -, read, fetch, temporary, global,
      comment⟩
    exact ⟨temporary, (scope temporary).mp global, comment, driver, url, user, password, schema,
      table, emit, read, fetch⟩
  · rintro ⟨temporary, global, comment, driver, url, user, password, schema, table, emit, read,
      fetch⟩
    exact ⟨driver, url, user, password, schema, table, emit, rfl, read, fetch, temporary,
      (scope temporary).mpr global, comment⟩

/-- The statement loses nothing: reading it gives the schema, the name and the definition back, so
two statements are the same text exactly when their links agree on all that is recreated. -/
theorem creation_eq_iff (schema name : String) (d : Definition) :
    readCreation (creation schema name d) = some (schema, name, d.recreated) ∧
    ∀ schema' name' d', creation schema name d = creation schema' name' d' ↔
      schema = schema' ∧ name = name' ∧
      d.temporary = d'.temporary ∧ (d.temporary = true → d.globalTemporary = d'.globalTemporary) ∧
      d.comment = d'.comment ∧ d.driver = d'.driver ∧ d.url = d'.url ∧ d.user = d'.user ∧
      d.password = d'.password ∧ d.remoteSchema.getD "" = d'.remoteSchema.getD "" ∧
      d.remoteTable = d'.remoteTable ∧ d.emitUpdates = d'.emitUpdates ∧
      d.readOnly = d'.readOnly ∧ d.fetchSize = d'.fetchSize := by
  refine ⟨readCreation_creation schema name d, fun schema' name' d' => ?_⟩
  rw [← recreated_eq_iff d d']
  constructor
  · intro same
    have read := congrArg readCreation same
    rw [readCreation_creation, readCreation_creation] at read
    simpa only [Option.some.injEq, Prod.mk.injEq] using read
  · rintro ⟨rfl, rfl, same⟩
    rw [← creation_recreated, same, creation_recreated]

/-- A password that is empty is written apart from one that is missing. -/
example (d : Definition) :
    creation "S" "T" { d with password := some "" }
      ≠ creation "S" "T" { d with password := none } := by
  intro same
  have read := congrArg readCreation same
  simp [readCreation_creation, Definition.recreated] at read

end Sql

end LinkedTables
