import LinkedTables.Proofs.Replacing
import LinkedTables.Proofs.RowEffect
import LinkedTables.Proofs.UndisturbedUpdate

/-!
# Emitted updates and replaced rows

A table whose definition says so emits an UPDATE for each pair of rows, and otherwise deletes all
old rows before it inserts the new ones. The rows of the remote table are what the statements that
are sent make of them, each with its standard meaning (`Edit.Meant`), as long as nothing disturbs
the update (`rows_of_updates`). Emitted one by one, an UPDATE can find the row that an earlier one
has just made, so that the two ways leave the same rows if no new row is like the old row of a later
pair, and only then (`updates_agree_iff_unchained`).
-/

namespace LinkedTables

open LinkedTables.Action Replacing

/-! ### Rows of a remote table -/

/-- The statements sent between a host and a later one, in their order. -/
def Host.since (h h' : Host) : List Sent :=
  (h'.sent.take (h'.sent.length - h.sent.length)).reverse

/-- The rows of a remote table behind what was sent between a host and a later one, where `remote`
executes statements. -/
def Host.rowsSince (remote : Sent → List (List Value) → List (List Value)) (h h' : Host)
    (rows : List (List Value)) : List (List Value) :=
  (h.since h').foldl (fun rows m => remote m rows) rows

theorem Host.rowsSince_of_sent {h h' : Host} (ms : List Sent)
    (sent : h'.sent = ms.reverse ++ h.sent)
    (remote : Sent → List (List Value) → List (List Value)) (rows : List (List Value)) :
    h.rowsSince remote h' rows = ms.foldl (fun rows m => remote m rows) rows := by
  have few : (ms.reverse ++ h.sent).length - h.sent.length = ms.reverse.length := by
    rw [List.length_append]
    omega
  rw [rowsSince, since, sent, few, List.take_left, List.reverse_reverse]

namespace Edit

/-- What an edit makes of rows, where `like` tells which are the same. -/
def effect (like : List Value → List Value → Bool) (rows : List (List Value)) :
    Edit → List (List Value)
  | update old new => rows.map fun row => if like old row then new else row
  | delete row => rows.filter fun other => !like row other
  | insert row => rows ++ [row]

/-- The values of an edit. -/
def values : Edit → List Value
  | update old new => old ++ new
  | delete row => row
  | insert row => row

/-- An edit of rows of a width, none of whose new values is left to the default. -/
def Fits (width : Nat) : Edit → Prop
  | update old new => old.length = width ∧ new.length = width ∧ ∀ v ∈ new, v ≠ .useDefault
  | delete row => row.length = width
  | insert row => row.length = width ∧ ∀ v ∈ row, v ≠ .useDefault

/-- A remote side executes the statement of an edit with its standard meaning. -/
def Meant (m : Sql.Meaning) (remote : Sent → List (List Value) → List (List Value)) (h : Host)
    (t client : Nat) (edit : Edit) : Prop :=
  ∀ statement sent, edit.statement (h.table t) = .ok statement →
    edit.message h t client = .ok sent →
      ∀ rows, (∀ row ∈ rows, row.length = (h.table t).columns.length) →
        remote sent rows = statement.effect m (h.table t).columns rows

section Folds

variable (like : List Value → List Value → Bool) (pairs : List (List Value × List Value))
  (rows : List (List Value))

/-- Emitted one by one, updates turn each row into what follows for it. -/
theorem foldl_updates :
    (ofPairs true pairs).foldl (effect like) rows = rows.map (follow like pairs) := by
  rw [ofPairs, if_pos rfl]
  induction pairs generalizing rows with
  | nil => exact (List.map_id rows).symm
  | cons p pairs ih =>
    rw [List.map_cons, List.foldl_cons, ih, effect, List.map_map]
    rfl

theorem foldl_deletes :
    (pairs.map fun p => delete p.1).foldl (effect like) rows
      = rows.filter (untouched like pairs) := by
  induction pairs generalizing rows with
  | nil => exact (List.filter_eq_self.mpr fun _ _ => rfl).symm
  | cons p pairs ih =>
    rw [List.map_cons, List.foldl_cons, ih, effect, List.filter_filter]
    exact List.filter_congr fun r _ => (Bool.and_comm ..).trans (untouched_cons p r).symm

theorem foldl_inserts :
    (pairs.map fun p => insert p.2).foldl (effect like) rows = rows ++ pairs.map (·.2) := by
  induction pairs generalizing rows with
  | nil => exact (List.append_nil rows).symm
  | cons p pairs ih =>
    rw [List.map_cons, List.foldl_cons, ih, effect, List.append_assoc]
    rfl

/-- Replaced, the untouched rows stay, and the new ones come behind them. -/
theorem foldl_replacements :
    (ofPairs false pairs).foldl (effect like) rows
      = rows.filter (untouched like pairs) ++ pairs.map (·.2) := by
  rw [ofPairs, if_neg Bool.false_ne_true, List.foldl_append, foldl_deletes, foldl_inserts]

end Folds

/-- Rows of a width stay so. -/
theorem width_of_effect {width : Nat} {edit : Edit} (fits : edit.Fits width)
    {like : List Value → List Value → Bool} {rows : List (List Value)}
    (widths : ∀ row ∈ rows, row.length = width) :
    ∀ row ∈ edit.effect like rows, row.length = width := by
  intro row hr
  cases edit with
  | update old new =>
    obtain ⟨r, here, rfl⟩ := List.mem_map.mp hr
    split
    · exact fits.2.1
    · exact widths r here
  | delete old => exact widths row (List.mem_of_mem_filter hr)
  | insert new =>
    rcases List.mem_append.mp hr with hr | hr
    · exact widths row hr
    · rw [List.mem_singleton.mp hr]
      exact fits.1

/-- Each edit of an update is that of a pair. -/
theorem exists_of_mem_ofPairs {emits : Bool} {pairs : List (List Value × List Value)} {edit : Edit}
    (there : edit ∈ ofPairs emits pairs) :
    ∃ p ∈ pairs, edit = update p.1 p.2 ∨ edit = delete p.1 ∨ edit = insert p.2 := by
  cases emits with
  | true =>
    obtain ⟨p, hp, rfl⟩ := List.mem_map.mp there
    exact ⟨p, hp, .inl rfl⟩
  | false =>
    rcases List.mem_append.mp there with there | there
    · obtain ⟨p, hp, rfl⟩ := List.mem_map.mp there
      exact ⟨p, hp, .inr (.inl rfl)⟩
    · obtain ⟨p, hp, rfl⟩ := List.mem_map.mp there
      exact ⟨p, hp, .inr (.inr rfl)⟩

/-- The edits of pairs of a width fit, where the new rows have no defaults. -/
theorem fits_of_pairs {width : Nat} {pairs : List (List Value × List Value)}
    (fits : ∀ p ∈ pairs, p.1.length = width ∧ p.2.length = width ∧ ∀ v ∈ p.2, v ≠ .useDefault)
    {emits : Bool} {edit : Edit} (there : edit ∈ ofPairs emits pairs) :
    edit.Fits width ∧ ∃ p ∈ pairs, ∀ v ∈ edit.values, v ∈ p.1 ++ p.2 := by
  obtain ⟨p, hp, rfl | rfl | rfl⟩ := exists_of_mem_ofPairs there
  · exact ⟨fits p hp, p, hp, fun v hv => hv⟩
  · exact ⟨(fits p hp).1, p, hp, fun v hv => List.mem_append_left _ hv⟩
  · exact ⟨(fits p hp).2, p, hp, fun v hv => List.mem_append_right _ hv⟩

/-! ### Statements of edits -/

section Statements

variable {h : Host} {t client : Nat} {m : Sql.Meaning}
  {remote : Sent → List (List Value) → List (List Value)}
  (ready : readiness (h.table t) = .ok ()) (numbered : Numbered (h.table t).columns)
  (small : ∀ c ∈ (h.table t).columns, c.type.kind.isLarge = false)
  (some_column : (h.table t).columns ≠ [])
include ready numbered small some_column

/-- The statement of an edit does to rows what the edit means. -/
theorem effect_statement (m : Sql.Meaning) {edit : Edit}
    (fits : edit.Fits (h.table t).columns.length) :
    ∃ statement, edit.statement (h.table t) = .ok statement
      ∧ (∀ v ∈ statement.params, v ∈ edit.values)
      ∧ ∀ rows, (∀ row ∈ rows, row.length = (h.table t).columns.length) →
        statement.effect m (h.table t).columns rows
          = edit.effect (Sql.rowLike m (h.table t).columns.length) rows := by
  cases edit with
  | update old new =>
    obtain ⟨width, width', explicit⟩ := fits
    rw [Edit.statement, ready]
    exact Sql.effect_updateRow numbered small some_column m _ width width' explicit
  | delete row =>
    rw [Edit.statement, ready]
    obtain ⟨statement, made, params, effect⟩ :=
      Sql.effect_deleteRow numbered small some_column m (h.table t).name fits
    exact ⟨statement, made, params, fun rows _ => effect rows⟩
  | insert row =>
    obtain ⟨width, explicit⟩ := fits
    rw [Edit.statement, ready]
    obtain ⟨statement, made, params, effect⟩ := Sql.effect_insertRow numbered m width explicit
    exact ⟨statement, made, params, fun rows _ => effect rows⟩

/-- The message of an edit whose values can be bound does to rows what the edit means. -/
theorem exists_message {edit : Edit} (fits : edit.Fits (h.table t).columns.length)
    (bound : ∀ v ∈ edit.values, ∃ w, h.converted (some client) v = .ok w)
    (meant : edit.Meant m remote h t client) :
    ∃ sent, edit.message h t client = .ok sent
      ∧ ∀ rows, (∀ row ∈ rows, row.length = (h.table t).columns.length) →
        remote sent rows = edit.effect (Sql.rowLike m (h.table t).columns.length) rows := by
  obtain ⟨statement, made, params, effect⟩ :=
    effect_statement ready numbered small some_column m fits
  obtain ⟨values, converted⟩ := Success.exists_mapM_of_ok fun v hv => bound v (params v hv)
  generalize text : statement.text (quoteFor h t) (h.table t).qualifiedName = sql
  have message : edit.message h t client = .ok ⟨(Sql.numberMarkers sql).1, values⟩ := by
    rw [Edit.message, made]
    show h.message (some client) (statement.text (quoteFor h t) (h.table t).qualifiedName) _ = _
    rw [text, Host.message, converted]
    rfl
  exact ⟨_, message, fun rows widths => (meant _ _ made message rows widths).trans
    (effect rows widths)⟩

/-- The messages of edits do to rows what the edits mean, one after the other. -/
theorem exists_messages {edits : List Edit}
    (fits : ∀ edit ∈ edits, edit.Fits (h.table t).columns.length)
    (bound : ∀ edit ∈ edits, ∀ v ∈ edit.values, ∃ w, h.converted (some client) v = .ok w)
    (meant : ∀ edit ∈ edits, edit.Meant m remote h t client) :
    ∃ ms, edits.mapM (fun edit => edit.message h t client) = .ok ms
      ∧ ∀ rows, (∀ row ∈ rows, row.length = (h.table t).columns.length) →
        ms.foldl (fun rows m => remote m rows) rows
          = edits.foldl (effect (Sql.rowLike m (h.table t).columns.length)) rows := by
  induction edits with
  | nil => exact ⟨[], rfl, fun _ _ => rfl⟩
  | cons edit edits ih =>
    obtain ⟨first, others⟩ := List.forall_mem_cons.mp fits
    obtain ⟨bound, others_bound⟩ := List.forall_mem_cons.mp bound
    obtain ⟨meant, others_meant⟩ := List.forall_mem_cons.mp meant
    obtain ⟨sent, message, done⟩ :=
      exists_message ready numbered small some_column first bound meant
    obtain ⟨ms, messages, rest⟩ := ih others others_bound others_meant
    refine ⟨sent :: ms, by rw [List.mapM_cons, message, messages]; rfl, fun rows widths => ?_⟩
    rw [List.foldl_cons, List.foldl_cons, done rows widths]
    exact rest _ (width_of_effect first widths)

end Statements

/-- The first edit of an update has to tell a row. -/
theorem tells_of_head {emits : Bool} {pairs : List (List Value × List Value)} {edit : Edit}
    (first : edit ∈ (ofPairs emits pairs).head?) (row : List Value) : edit ≠ insert row := by
  rintro rfl
  cases pairs with
  | nil => cases emits <;> cases first
  | cons p pairs => cases emits <;> cases first

/-- Without columns no row can be told. -/
theorem message_of_no_columns {h : Host} {t client : Nat} {edit : Edit}
    (none : (h.table t).columns = []) (tells : ∀ row, edit ≠ insert row) (sent : Sent) :
    edit.message h t client ≠ .ok sent := by
  intro made
  rw [Edit.message] at made
  cases edit with
  | update old new =>
    rw [statement, none] at made
    cases made
  | delete row =>
    rw [statement, none] at made
    cases made
  | insert row => exact tells row rfl

end Edit

/-! ### One update -/

/-- An update of a table without large objects that was created at a desk, which nothing disturbs
and whose values can be bound; the remote side executes each of its statements with the standard
meaning. -/
structure Desk.Updates (d : Desk) (t client : Nat) (m : Sql.Meaning)
    (remote : Sent → List (List Value) → List (List Value)) (width : Nat)
    (pairs : List (List Value × List Value)) : Prop where
  created : d.Created t
  undisturbed : d.host.Undisturbed t
  width : (d.host.table t).columns.length = width
  small : ∀ c ∈ (d.host.table t).columns, c.type.kind.isLarge = false
  bound : ∀ p ∈ pairs, ∀ v ∈ p.1 ++ p.2, ∃ w, d.host.converted (some client) v = .ok w
  meant : ∀ edit ∈ Edit.ofPairs (d.host.table t).definition.emitUpdates pairs,
    edit.Meant m remote d.host t client

/-- An update is the work of a command that has not been cancelled. -/
theorem perform_updateRows (h : Host) (t client : Nat) (pairs : List (List Value × List Value)) :
    h.perform (.updateRows t client false pairs)
      = ((({ h with cancelled := false } : Host).act (updateRows t client pairs)).1.map
          fun _ => .done,
        (({ h with cancelled := false } : Host).act (updateRows t client pairs)).2) :=
  Host.act_silently _ _

theorem truthful_of_begun {d : Desk} {t : Nat} (created : d.Created t) :
    ({ d.host with cancelled := false } : Host).Truthful :=
  (Shelved.of_same rfl rfl).truthful (Desk.truthful_of_created created)

section OneUpdate

variable {d : Desk} {t client : Nat} {m : Sql.Meaning}
  {remote : Sent → List (List Value) → List (List Value)} {width : Nat}
  {pairs : List (List Value × List Value)} (u : d.Updates t client m remote width pairs)
include u

/-- An update that nothing disturbs is done, and its edits make the rows of the remote table. -/
theorem rows_of_updates (some_column : width ≠ 0)
    (fits : ∀ p ∈ pairs, p.1.length = width ∧ p.2.length = width ∧ ∀ v ∈ p.2, v ≠ .useDefault)
    (rows : List (List Value)) (widths : ∀ row ∈ rows, row.length = width) :
    let ran := d.host.perform (.updateRows t client false pairs)
    ran.1 = .ok .done
      ∧ d.host.rowsSince remote ran.2 rows
        = (Edit.ofPairs (d.host.table t).definition.emitUpdates pairs).foldl
          (Edit.effect (Sql.rowLike m width)) rows := by
  intro ran
  obtain rfl := u.width
  obtain ⟨s, ready, opened⟩ := u.undisturbed.ready
  have readiness : readiness (d.host.table t) = .ok () := by
    rw [Action.readiness, ready]
    rfl
  obtain ⟨-, sound⟩ := Desk.inService_of_created u.created
  obtain ⟨-, formed⟩ := sound u.undisturbed.valid
  -- Each edit has a message, and the remote table is what these make of it.
  obtain ⟨ms, made, done⟩ := Edit.exists_messages readiness formed.numbered u.small
    (fun none => some_column (congrArg List.length none))
    (fun edit there => (Edit.fits_of_pairs fits there).1)
    (fun edit there v hv => by
      obtain ⟨p, hp, own⟩ := (Edit.fits_of_pairs fits there).2
      exact u.bound p hp v (own v hv)) u.meant
  have started : ({ d.host with cancelled := false } : Host).Undisturbed t :=
    ⟨u.undisturbed.writable, u.undisturbed.valid, u.undisturbed.ready, u.undisturbed.willing⟩
  obtain ⟨ok, executed⟩ := executed_updateRows (truthful_of_begun u.created) started rfl made
  have replied : ran = _ := perform_updateRows d.host t client pairs
  rw [replied, ok]
  exact ⟨rfl, (Host.rowsSince_of_sent ms executed.sent remote rows).trans (done rows widths)⟩

omit u in
/-- Edits are not begun if the first one has no statement. -/
theorem sent_of_course {h h' : Host} {edits done : List Edit} {r : Except Fault Unit}
    (c : Course t client h edits done r h')
    (untold : ∀ edit ∈ edits.head?, ∀ sent, edit.message h t client ≠ .ok sent) :
    h'.sent = h.sent := by
  cases c with
  | finished h => rfl
  | failed failed =>
    obtain ⟨attempts, sent, -, same, -⟩ := failed.sent
    cases attempts with
    | nil => exact sent
    | cons m attempts => exact absurd (same m (List.mem_cons_self ..)) (untold _ rfl m)
  | carried carried later =>
    obtain ⟨message, -, made, -⟩ := carried.sent
    exact absurd made (untold _ rfl message)

/-- Of a table without columns no row can be told, so that an update changes none. -/
theorem rows_of_no_columns (none : width = 0) (rows : List (List Value)) :
    d.host.rowsSince remote (d.host.perform (.updateRows t client false pairs)).2 rows = rows := by
  have columns : (d.host.table t).columns = [] := List.length_eq_zero_iff.mp (u.width.trans none)
  obtain ⟨-, sound⟩ := Desk.inService_of_created u.created
  have silent : (d.host.perform (.updateRows t client false pairs)).2.sent = d.host.sent := by
    rw [perform_updateRows]
    rcases course_of_updateRows (truthful_of_begun u.created) (fun valid => (sound valid).1)
      (Prod.eta _).symm with ⟨-, -, same⟩ | ⟨done, g, course, same⟩
    · rw [same]
      rfl
    · rw [same]
      refine (sent_of_course course fun edit first sent => ?_).trans rfl
      exact Edit.message_of_no_columns columns (Edit.tells_of_head first) sent
  exact Host.rowsSince_of_sent [] silent remote rows

end OneUpdate

/-! ### Both ways -/

/-- Emitted updates and replaced rows. Take two tables without large objects and with as many
columns, one of which emits updates, and the same update of both, which nothing disturbs; the remote
rows differ from each other, the old rows are different ones of them, and the new rows have no
defaults, differ, and are like no row that stays. Then both updates are done, and they leave the
same rows if no new row is like the old row of a later pair; if some is, they do not. Without
columns no row can be told, and both leave the rows as they are. -/
theorem updates_agree_iff_unchained {on off : Desk} {t u client client' : Nat} {m : Sql.Meaning}
    {remote remote' : Sent → List (List Value) → List (List Value)} {width : Nat}
    {pairs : List (List Value × List Value)} {content : List (List Value)}
    (updates : on.Updates t client m remote width pairs)
    (replaces : off.Updates u client' m remote' width pairs)
    (emits : (on.host.table t).definition.emitUpdates = true)
    (emits_none : (off.host.table u).definition.emitUpdates = false)
    (widths : ∀ row ∈ content, row.length = width)
    (fits : ∀ p ∈ pairs, p.1.length = width ∧ p.2.length = width ∧ ∀ v ∈ p.2, v ≠ .useDefault)
    (replaceable : Replaceable (Sql.rowLike m width) content pairs) :
    let like := Sql.rowLike m width
    let emitted := on.host.perform (.updateRows t client false pairs)
    let replaced := off.host.perform (.updateRows u client' false pairs)
    let rows := on.host.rowsSince remote emitted.2 content
    let rows' := off.host.rowsSince remote' replaced.2 content
    (width ≠ 0 → emitted.1 = .ok .done ∧ rows = content.map (follow like pairs)
        ∧ replaced.1 = .ok .done
        ∧ rows' = content.filter (untouched like pairs) ++ pairs.map (·.2))
      ∧ (width = 0 → rows = content ∧ rows' = content)
      ∧ (Unchained like pairs → rows.Perm rows')
      ∧ ((∀ row, row ∈ rows ↔ row ∈ rows') → Unchained like pairs) := by
  intro like emitted replaced rows rows'
  have equiv : Equivalence fun row other => like row other = true := Sql.rowLike_equivalence m width
  by_cases none : width = 0
  · have same : rows = content := rows_of_no_columns updates none content
    have same' : rows' = content := rows_of_no_columns replaces none content
    refine ⟨fun some_column => absurd none some_column, fun _ => ⟨same, same'⟩,
      fun _ => by rw [same, same'], fun _ => ?_⟩
    -- All rows are alike, so that there is but one pair.
    subst none
    exact replaceable.olds_differ.imp nofun
  · obtain ⟨done, made⟩ := rows_of_updates updates none fits content widths
    obtain ⟨done', made'⟩ := rows_of_updates replaces none fits content widths
    rw [emits, Edit.foldl_updates] at made
    rw [emits_none, Edit.foldl_replacements] at made'
    have same : rows = content.map (follow like pairs) := made
    have same' : rows' = content.filter (untouched like pairs) ++ pairs.map (·.2) := made'
    refine ⟨fun _ => ⟨done, same, done', same'⟩, fun width => absurd width none, ?_, ?_⟩
    · rw [same, same']
      exact perm_of_unchained equiv replaceable
    · rw [same, same']
      exact unchained_of_same equiv replaceable

/-! ### A table of whole numbers -/

/-- A whole number. -/
def Value.whole? : Value → Option Int
  | int n => some n
  | _ => none

/-- What a remote side that holds whole numbers makes of them. -/
def Sql.Meaning.whole : Sql.Meaning where
  equal v w := v.whole? == w.whole?
  upTo v w := decide (v.whole?.getD 0 ≤ w.whole?.getD 0)
  default _ := .null
  equivalence := ⟨fun _ => beq_iff_eq.mpr rfl, fun e => beq_iff_eq.mpr (beq_iff_eq.mp e).symm,
    fun e e' => beq_iff_eq.mpr ((beq_iff_eq.mp e).trans (beq_iff_eq.mp e'))⟩

/-- A remote side with a table of one column, which knows the statements for it. -/
def Remote.wholes (sent : Sent) (rows : List (List Value)) : List (List Value) :=
  match sent.sql, sent.params with
  | "UPDATE T SET a=:p1 WHERE a=:p2", [new, old] =>
    rows.map fun row => if Sql.rowLike .whole 1 [old] row then [new] else row
  | "DELETE FROM T WHERE a=:p1", [old] => rows.filter fun row => !Sql.rowLike .whole 1 [old] row
  | "INSERT INTO T(a) VALUES(:p1)", [new] => rows ++ [[new]]
  | _, _ => rows

/-- A desk with a client and a table of one column. -/
def Desk.linked (emits : Bool) : Except Fault Reply × Desk :=
  ((opening (Host.start .quiet (.bare false) .error)).after Operation.perform
    [.plain (.join .ok) trivial]).serve Operation.perform (.plain (.createTable
      (.unconnected "PUBLIC" 1 "FIRST" { Definition.bare with emitUpdates := emits } 100
        [.listing ["a"]])) rfl)

/-- The text and the whole numbers of a statement as it was sent. -/
def Sent.wholes (r : Except Fault Sent) : Option (String × List (Option Int)) :=
  r.toOption.map fun sent => (sent.sql, sent.params.map Value.whole?)

theorem Value.eq_of_whole {vs : List Value} {ns : List Int}
    (wholes : vs.map Value.whole? = ns.map some) : vs = ns.map .int := by
  have whole {v : Value} {n : Int} (e : v.whole? = some n) : v = .int n := by
    cases v <;> cases e
    rfl
  induction ns generalizing vs with
  | nil => exact List.map_eq_nil_iff.mp wholes
  | cons n ns ih =>
    cases vs with
    | nil => cases wholes
    | cons v vs =>
      obtain ⟨first, rest⟩ := List.cons.inj wholes
      rw [whole first, ih rest]
      rfl

theorem Sent.eq_of_wholes {r : Except Fault Sent} {sql : String} {ns : List Int}
    (found : Sent.wholes r = some (sql, ns.map some)) : r = .ok ⟨sql, ns.map .int⟩ := by
  cases r with
  | error _ => cases found
  | ok sent =>
    obtain ⟨text, params⟩ := sent
    obtain ⟨rfl, wholes⟩ := Prod.mk.inj (Option.some.inj found)
    rw [show params = _ from Value.eq_of_whole wholes]

theorem exists_of_toBool {α : Type} {r : Except Fault α} (ok : r.toBool = true) :
    ∃ a, r = .ok a := by
  cases r with
  | error _ => cases ok
  | ok a => exact ⟨a, rfl⟩

/-- Pairs of rows of a single whole number. -/
def wholePairs (ns : List (Int × Int)) : List (List Value × List Value) :=
  ns.map fun n => ([.int n.1], [.int n.2])

theorem wholePairs_fit (ns : List (Int × Int)) : ∀ p ∈ wholePairs ns,
    p.1.length = 1 ∧ p.2.length = 1 ∧ ∀ v ∈ p.2, v ≠ .useDefault := by
  intro p hp
  obtain ⟨n, -, rfl⟩ := List.mem_map.mp hp
  exact ⟨rfl, rfl, by simp⟩

/-- The statement of an edit, with its numbers, as it is sent for a table of one column. -/
def wholeSent : Edit → Option (String × List (Option Int))
  | .update old new =>
    some ("UPDATE T SET a=:p1 WHERE a=:p2", new.map Value.whole? ++ old.map Value.whole?)
  | .delete row => some ("DELETE FROM T WHERE a=:p1", row.map Value.whole?)
  | .insert row => some ("INSERT INTO T(a) VALUES(:p1)", row.map Value.whole?)

/-- A statement for a table of whole numbers has its standard meaning. -/
theorem meant_of_wholes {h : Host} {edit : Edit} {sql : String} (ns : List Int)
    (formed : (h.table 0).IsWellFormed) (ready : readiness (h.table 0) = .ok ())
    (columns : (h.table 0).columns.length = 1)
    (small : ∀ c ∈ (h.table 0).columns, c.type.kind.isLarge = false) (fits : edit.Fits 1)
    (sent : Sent.wholes (edit.message h 0 0) = some (sql, ns.map some))
    (known : ∀ rows, Remote.wholes ⟨sql, ns.map .int⟩ rows
      = edit.effect (Sql.rowLike .whole 1) rows) :
    edit.Meant .whole Remote.wholes h 0 0 := by
  intro statement message made messaged rows widths
  obtain ⟨statement', made', -, effect⟩ := Edit.effect_statement ready formed.numbered small
    (fun none => by rw [none] at columns; cases columns) .whole (columns ▸ fits)
  obtain rfl := Except.ok.inj (made'.symm.trans made)
  obtain rfl := Except.ok.inj ((Sent.eq_of_wholes sent).symm.trans messaged)
  rw [known, effect rows widths, columns]

/-- Updates of whole numbers on a table with one column, if their statements are as expected. -/
theorem Desk.Updates.of_wholes {d : Desk} {ns : List (Int × Int)} (created : d.Created 0)
    (undisturbed : d.host.Undisturbed 0) (columns : (d.host.table 0).columns.length = 1)
    (small : ((d.host.table 0).columns.all fun c => !c.type.kind.isLarge) = true)
    (bound : (ns.all fun n => (d.host.converted (some 0) (.int n.1)).toBool
      && (d.host.converted (some 0) (.int n.2)).toBool) = true)
    (sent : ((Edit.ofPairs (d.host.table 0).definition.emitUpdates (wholePairs ns)).all fun edit =>
      Sent.wholes (edit.message d.host 0 0) == wholeSent edit) = true) :
    d.Updates 0 0 .whole Remote.wholes 1 (wholePairs ns) := by
  replace small : ∀ c ∈ (d.host.table 0).columns, c.type.kind.isLarge = false := fun c hc => by
    simpa using List.all_eq_true.mp small c hc
  refine ⟨created, undisturbed, columns, small, fun p hp v hv => ?_, fun edit there => ?_⟩
  · obtain ⟨n, hn, rfl⟩ := List.mem_map.mp hp
    have bound := Bool.and_eq_true_iff.mp (List.all_eq_true.mp bound n hn)
    rcases List.mem_append.mp hv with hv | hv
    · rw [List.mem_singleton.mp hv]
      exact exists_of_toBool bound.1
    · rw [List.mem_singleton.mp hv]
      exact exists_of_toBool bound.2
  · obtain ⟨-, sound⟩ := Desk.inService_of_created created
    obtain ⟨s, ready, -⟩ := undisturbed.ready
    have formed := (sound undisturbed.valid).2
    replace ready : readiness (d.host.table 0) = .ok () := by rw [readiness, ready]; rfl
    replace sent := beq_iff_eq.mp (List.all_eq_true.mp sent edit there)
    have plain (n : Int) : ∀ v ∈ [Value.int n], v ≠ .useDefault := by simp
    obtain ⟨p, hp, shape⟩ := Edit.exists_of_mem_ofPairs there
    obtain ⟨⟨old, new⟩, -, rfl⟩ := List.mem_map.mp hp
    rcases shape with rfl | rfl | rfl
    · exact meant_of_wholes [new, old] formed ready columns small ⟨rfl, rfl, plain new⟩ sent
        fun _ => rfl
    · exact meant_of_wholes [old] formed ready columns small rfl sent fun _ => rfl
    · exact meant_of_wholes [new] formed ready columns small ⟨rfl, plain new⟩ sent fun _ => rfl

/-- The desk with a table of one column is ready for updates. -/
theorem Desk.linked_ready (emits : Bool) :
    (linked emits).2.Created 0 ∧ (linked emits).2.host.Undisturbed 0
      ∧ ((linked emits).2.host.table 0).columns.length = 1
      ∧ (((linked emits).2.host.table 0).columns.all fun c => !c.type.kind.isLarge) = true
      ∧ ((linked emits).2.host.table 0).definition.emitUpdates = emits := by
  have made : Reply.table? (linked emits).1 = some 0 := by cases emits <;> decide +kernel
  have writable : ((linked emits).2.host.table 0).readOnly = false := by
    cases emits <;> decide +kernel
  have valid : ((linked emits).2.host.table 0).valid = true := by cases emits <;> decide +kernel
  have ready : (readySession ((linked emits).2.host.table 0)).toOption = some 0 := by
    cases emits <;> decide +kernel
  have opened : ((linked emits).2.host.session 0).closed = false := by
    cases emits <;> decide +kernel
  have answers : (linked emits).2.host.script.answers.length = 0 := by
    cases emits <;> decide +kernel
  have created : (linked emits).2.Created 0 :=
    ⟨.quiet, .bare false, .error, [.plain (.join .ok) trivial], [], "PUBLIC", 1, "FIRST",
      { Definition.bare with emitUpdates := emits }, 100, [.listing ["a"]], Reply.eq_table made,
      rfl⟩
  have session {r : Except Fault Nat} (e : r.toOption = some 0) : r = .ok 0 := by
    cases r <;> cases e
    rfl
  refine ⟨created, ⟨writable, valid, ⟨0, session ready, opened⟩, ?_⟩, ?_, ?_, ?_⟩
  · rw [Remote.Script.Willing, List.length_eq_zero_iff.mp answers]
    nofun
  · cases emits <;> decide +kernel
  · cases emits <;> decide +kernel
  · cases emits <;> decide +kernel

/-- Updates of whole numbers at a desk with a table of one column. -/
theorem Desk.linked_updates (emits : Bool) (ns : List (Int × Int))
    (bound : (ns.all fun n => ((linked emits).2.host.converted (some 0) (.int n.1)).toBool
      && ((linked emits).2.host.converted (some 0) (.int n.2)).toBool) = true)
    (sent : ((Edit.ofPairs emits (wholePairs ns)).all fun edit =>
      Sent.wholes (edit.message (linked emits).2.host 0 0) == wholeSent edit) = true) :
    (linked emits).2.Updates 0 0 .whole Remote.wholes 1 (wholePairs ns)
      ∧ ((linked emits).2.host.table 0).definition.emitUpdates = emits := by
  obtain ⟨created, undisturbed, columns, small, own⟩ := Desk.linked_ready emits
  generalize (linked emits).2 = d at *
  subst own
  exact ⟨.of_wholes created undisturbed columns small bound sent, rfl⟩

/-- The second row becomes a third one before the first becomes the second: both ways agree. -/
theorem updates_agree_from_last_pair :
    let on := (Desk.linked true).2
    let off := (Desk.linked false).2
    let pairs := wholePairs [(2, 3), (1, 2)]
    let content : List (List Value) := [[.int 1], [.int 2]]
    let emitted := on.host.perform (.updateRows 0 0 false pairs)
    let replaced := off.host.perform (.updateRows 0 0 false pairs)
    on.Updates 0 0 .whole Remote.wholes 1 pairs ∧ off.Updates 0 0 .whole Remote.wholes 1 pairs
      ∧ (on.host.table 0).definition.emitUpdates = true
      ∧ (off.host.table 0).definition.emitUpdates = false
      ∧ Replaceable (Sql.rowLike .whole 1) content pairs
      ∧ Unchained (Sql.rowLike .whole 1) pairs
      ∧ (on.host.rowsSince Remote.wholes emitted.2 content).Perm
        (off.host.rowsSince Remote.wholes replaced.2 content) := by
  obtain ⟨updates, emits⟩ :=
    Desk.linked_updates true [(2, 3), (1, 2)] (by decide +kernel) (by decide +kernel)
  obtain ⟨replaces, emits_none⟩ :=
    Desk.linked_updates false [(2, 3), (1, 2)] (by decide +kernel) (by decide +kernel)
  -- From here on the desks are known by these facts only.
  generalize (Desk.linked true).2 = on at updates emits ⊢
  generalize (Desk.linked false).2 = off at replaces emits_none ⊢
  intro on off pairs content emitted replaced
  have replaceable : Replaceable (Sql.rowLike .whole 1) content pairs :=
    ⟨by decide +kernel, by decide +kernel, by decide +kernel, by decide +kernel, by decide +kernel⟩
  have unchained : Unchained (Sql.rowLike .whole 1) pairs := by
    rw [Unchained]
    decide +kernel
  obtain ⟨-, -, agree, -⟩ := updates_agree_iff_unchained updates replaces emits emits_none
    (by decide) (wholePairs_fit _) replaceable
  exact ⟨updates, replaces, emits, emits_none, replaceable, unchained, agree unchained⟩

/-- The first row becomes the second one, and then both become a third: emitted updates leave other
rows than replaced ones. -/
theorem updates_differ_from_first_pair :
    let on := (Desk.linked true).2
    let off := (Desk.linked false).2
    let pairs := wholePairs [(1, 2), (2, 3)]
    let content : List (List Value) := [[.int 1], [.int 2]]
    let emitted := on.host.perform (.updateRows 0 0 false pairs)
    let replaced := off.host.perform (.updateRows 0 0 false pairs)
    let rows := on.host.rowsSince Remote.wholes emitted.2 content
    let rows' := off.host.rowsSince Remote.wholes replaced.2 content
    on.Updates 0 0 .whole Remote.wholes 1 pairs ∧ off.Updates 0 0 .whole Remote.wholes 1 pairs
      ∧ (on.host.table 0).definition.emitUpdates = true
      ∧ (off.host.table 0).definition.emitUpdates = false
      ∧ Replaceable (Sql.rowLike .whole 1) content pairs
      ∧ emitted.1 = .ok .done ∧ replaced.1 = .ok .done
      ∧ rows = [[.int 3], [.int 3]] ∧ rows' = [[.int 2], [.int 3]]
      ∧ ¬ ∀ row, row ∈ rows ↔ row ∈ rows' := by
  obtain ⟨updates, emits⟩ :=
    Desk.linked_updates true [(1, 2), (2, 3)] (by decide +kernel) (by decide +kernel)
  obtain ⟨replaces, emits_none⟩ :=
    Desk.linked_updates false [(1, 2), (2, 3)] (by decide +kernel) (by decide +kernel)
  -- From here on the desks are known by these facts only.
  generalize (Desk.linked true).2 = on at updates emits ⊢
  generalize (Desk.linked false).2 = off at replaces emits_none ⊢
  intro on off pairs content emitted replaced rows rows'
  have replaceable : Replaceable (Sql.rowLike .whole 1) content pairs :=
    ⟨by decide +kernel, by decide +kernel, by decide +kernel, by decide +kernel, by decide +kernel⟩
  obtain ⟨done, made⟩ :=
    rows_of_updates updates Nat.one_ne_zero (wholePairs_fit _) content (by decide)
  obtain ⟨done', made'⟩ :=
    rows_of_updates replaces Nat.one_ne_zero (wholePairs_fit _) content (by decide)
  rw [emits] at made
  rw [emits_none] at made'
  have two : rows = [[.int 3], [.int 3]] := made
  have three : rows' = [[.int 2], [.int 3]] := made'
  refine ⟨updates, replaces, emits, emits_none, replaceable, done, done', two, three,
    fun same => ?_⟩
  have kept := (same [.int 2]).mpr (by rw [three]; exact List.mem_cons_self ..)
  rw [two] at kept
  simp at kept

end LinkedTables
