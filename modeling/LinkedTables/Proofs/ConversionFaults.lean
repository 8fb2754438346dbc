import LinkedTables.Column.Basic
import LinkedTables.Proofs.Conversion

/-!
# Values that do not convert

A conversion that fails ends in a fault that a column reports, with one exception: a number too
large for the values of the type overflows (`reports_or_overflows`), and an overflow is not
reported. A fault that is reported is put into a failure which names the column and shows the value.
An integer of too many digits cannot be shown, though, and then the fault of showing it takes the
place of the failure. These two are all that comes of an explicit value beside the converted one and
the failure, and whatever comes of it but a value leaves the sequence of the column as it was
(`faults_of_explicit`).
-/

namespace LinkedTables

open Number

variable {v : Value} {cause : Fault}

/-! ### Faults of conversion -/

namespace ColumnType

open Column

/-- A number that is too large for the values of a type: an infinity that is to be an integer, or an
integer beyond the finite doubles that is to be one. -/
inductive Overflows (t : ColumnType) : Value → Prop where
  | whole (negative : Bool) (kind : t.kind ∈ KindGroup.whole.kinds) :
      Overflows t (.decimal (.infinite negative))
  | approximate {v : Value} {n : Int} (kind : t.kind ∈ KindGroup.approximate.kinds)
      (number : v.int? = some n) (beyond : floatOfInt? n = none) : Overflows t v

theorem reports_of_orMalformed {α : Type} {x : Option α} (failed : orMalformed x = .error cause) :
    reports cause = true := by
  cases x with
  | some a => cases failed
  | none =>
    cases failed
    rfl

theorem reports_of_badValue {α : Type} {message : String}
    (failed : (.error (.badValue message) : Except Fault α) = .error cause) :
    reports cause = true := by
  cases failed
  rfl

theorem toWhole_error (failed : toWhole v = .error cause) :
    reports cause = true
      ∨ cause = .overflow ∧ ∃ negative, v = .decimal (.infinite negative) := by
  unfold toWhole at failed
  split at failed
  case h_1 | h_2 | h_4 => cases failed
  case h_3 =>
    -- A double that is no integer is told in a message of its own.
    split at failed
    · split at failed
      · cases failed
      · exact .inl (reports_of_badValue failed)
    · exact .inl (reports_of_badValue failed)
  case h_5 negative =>
    cases failed
    exact .inr ⟨rfl, negative, rfl⟩
  case h_6 | h_9 =>
    cases failed
    exact .inl rfl
  case h_7 | h_8 => exact .inl (reports_of_orMalformed failed)

theorem toExact_error (failed : toExact v = .error cause) : reports cause = true := by
  unfold toExact at failed
  split at failed
  next => cases failed
  next =>
    split at failed
    · cases failed
      rfl
    · split at failed
      · cases failed
      · exact reports_of_badValue failed

theorem toApproximate_error (failed : toApproximate v = .error cause) :
    reports cause = true
      ∨ cause = .overflow ∧ ∃ n, v.int? = some n ∧ floatOfInt? n = none := by
  unfold toApproximate at failed
  split at failed
  case h_1 | h_2 =>
    dsimp only at failed
    split at failed
    · cases failed
    next beyond =>
      cases failed
      exact .inr ⟨rfl, _, rfl, beyond⟩
  case h_6 =>
    split at failed
    · cases failed
      exact .inl rfl
    · cases failed
  case h_7 | h_8 => exact .inl (reports_of_orMalformed failed)
  case h_9 =>
    cases failed
    exact .inl rfl
  all_goals cases failed

theorem toTruth_error (failed : toTruth v = .error cause) : reports cause = true := by
  unfold toTruth at failed
  split at failed
  next =>
    dsimp only at failed
    split at failed
    · cases failed
    · split at failed
      · cases failed
      · exact reports_of_badValue failed
  next => cases failed

theorem toText_error {t : ColumnType} (failed : t.toText v = .error cause) :
    reports cause = true := by
  unfold toText at failed
  split at failed
  next =>
    cases failed
    rfl
  next =>
    split at failed
    · exact reports_of_badValue failed
    · cases failed

theorem toBytes_error (failed : toBytes v = .error cause) : reports cause = true := by
  unfold toBytes at failed
  split at failed <;> cases failed
  rfl

theorem toDate_error (failed : toDate v = .error cause) : reports cause = true := by
  unfold toDate at failed
  split at failed
  case h_2 => exact reports_of_orMalformed failed
  all_goals cases failed
  rfl

theorem toTimestamp_error (failed : toTimestamp v = .error cause) : reports cause = true := by
  unfold toTimestamp at failed
  split at failed
  case h_3 => exact reports_of_orMalformed failed
  all_goals cases failed
  rfl

theorem toTime_error (failed : toTime v = .error cause) : reports cause = true := by
  unfold toTime at failed
  split at failed
  case h_2 => exact reports_of_orMalformed failed
  all_goals cases failed
  rfl

theorem error_of_map {α β : Type} {x : Except Fault α} {f : α → β}
    (failed : x.map f = .error cause) : x = .error cause := by
  cases x with
  | error fault => exact congrArg Except.error (Except.error.inj failed)
  | ok a => cases failed

variable {t : ColumnType}

/-- A conversion ends in a fault that a column reports, or a number is too large. -/
theorem reports_or_overflows (failed : t.convert v = .error cause) :
    reports cause = true ∨ cause = .overflow ∧ t.Overflows v := by
  unfold convert at failed
  have kind := Kind.group_eq_iff.mp (Eq.refl t.kind.group)
  generalize t.kind.group = group at failed kind
  cases group with
  | whole =>
    refine (toWhole_error (error_of_map failed)).imp_right ?_
    rintro ⟨overflow, negative, rfl⟩
    exact ⟨overflow, .whole negative kind⟩
  | approximate =>
    refine (toApproximate_error (error_of_map failed)).imp_right ?_
    rintro ⟨overflow, n, number, beyond⟩
    exact ⟨overflow, .approximate kind number beyond⟩
  | truth => exact .inl (toTruth_error (error_of_map failed))
  | exact => exact .inl (toExact_error (error_of_map failed))
  | string => exact .inl (toText_error (error_of_map failed))
  | binary => exact .inl (toBytes_error (error_of_map failed))
  | date => exact .inl (toDate_error (error_of_map failed))
  | time => exact .inl (toTime_error (error_of_map failed))
  | timestamp => exact .inl (toTimestamp_error (error_of_map failed))
  | untyped => cases failed

/-- A number that is too large overflows. -/
theorem Overflows.convert (too_large : t.Overflows v) : t.convert v = .error .overflow := by
  unfold ColumnType.convert
  cases too_large with
  | whole negative kind =>
    rw [Kind.group_eq_iff.mpr kind]
    rfl
  | approximate kind number beyond =>
    rw [Kind.group_eq_iff.mpr kind]
    cases v with
    | int n =>
      obtain rfl := Option.some.inj number
      simp only [toApproximate, beyond]
      rfl
    | bool b =>
      obtain rfl := Option.some.inj number
      simp only [toApproximate, beyond]
      rfl
    | _ => cases number

end ColumnType

/-! ### Explicit values -/

namespace Column

/-- The failure of a conversion whose details name the column. -/
def Names (c : Column) (failure : LinkFault) : Prop :=
  failure.kind = .valueConversion
    ∧ failure.details = some (.dict [("column", .text c.name)])

/-- What comes of an explicit value when neither a value nor a failure of the conversion does: the
overflow of a number that is too large, or the fault of showing what cannot be shown. -/
inductive Escapes (c : Column) (v : Value) : Fault → Prop where
  | overflow (too_large : c.type.Overflows v) : Escapes c v .overflow
  | unshown {cause : Fault} (given : v ≠ .null) (failed : c.type.convert v = .error cause)
      (reported : reports cause = true)
      (hidden : ¬ (v.isShowable = true ∧ c.type.isShowable = true)) : Escapes c v .malformed

variable {c : Column} {f : Filling}

theorem accept_eq_convertFor (explicit : v ≠ .useDefault) : c.accept f v = c.convertFor f v := by
  cases v with
  | useDefault => exact absurd rfl explicit
  | _ => rfl

theorem convertFor_of_ok {w : Value} (given : v ≠ .null) (ok : c.type.convert v = .ok w) :
    c.convertFor f v = (.ok w, f.observe w) := by
  cases v with
  | null => exact absurd rfl given
  | _ => simp only [convertFor, ok]

theorem convertFor_of_error (given : v ≠ .null) (failed : c.type.convert v = .error cause) :
    c.convertFor f v = (.error (c.refusal v cause), f) := by
  cases v with
  | null => exact absurd rfl given
  | _ => simp only [convertFor, failed]

/-- A cause that is reported is shown with the value, unless that is impossible. -/
theorem refusal_of_reports (reported : reports cause = true) :
    c.refusal v cause = if v.isShowable = true ∧ c.type.isShowable = true then
      .link (c.conversionFault v cause) else .malformed := by
  rw [refusal, if_pos reported]
  simp only [Bool.and_eq_true]

theorem Escapes.accept {fault : Fault} (explicit : v ≠ .useDefault)
    (escapes : c.Escapes v fault) : c.accept f v = (.error fault, f) := by
  rw [accept_eq_convertFor explicit]
  cases escapes with
  | overflow too_large =>
    have given : v ≠ .null := by
      rintro rfl
      obtain _ | ⟨_, number, _⟩ := too_large
      cases number
    exact convertFor_of_error given too_large.convert
  | unshown given failed reported hidden =>
    rw [convertFor_of_error given failed, refusal_of_reports reported, if_neg hidden]

/-- An explicit value is converted, or refused with a failure that names the column, or its fault
escapes: that of a number too large for the type, or of a value or a type that cannot be shown.
Whatever it is refused with, the sequence and the default of the column stay as they were. -/
theorem faults_of_explicit (c : Column) (f : Filling) {v : Value} (explicit : v ≠ .useDefault) :
    ((∃ w, (c.accept f v).1 = .ok w)
      ∨ (∃ failure, c.accept f v = (.error (.link failure), f) ∧ c.Names failure)
      ∨ ∃ fault, c.accept f v = (.error fault, f) ∧ c.Escapes v fault)
    ∧ ∀ fault, c.Escapes v fault → c.accept f v = (.error fault, f) := by
  refine ⟨?_, fun fault escapes => escapes.accept explicit⟩
  by_cases given : v = .null
  · subst given
    exact .inl ⟨.null, rfl⟩
  rw [accept_eq_convertFor explicit]
  cases converted : c.type.convert v with
  | ok w => exact .inl ⟨w, congrArg Prod.fst (convertFor_of_ok given converted)⟩
  | error cause =>
    refine .inr ?_
    have refused := convertFor_of_error (f := f) given converted
    rcases ColumnType.reports_or_overflows converted with reported | ⟨rfl, too_large⟩
    · rw [refusal_of_reports reported] at refused
      by_cases showable : v.isShowable = true ∧ c.type.isShowable = true
      · rw [if_pos showable] at refused
        exact .inl ⟨_, refused, rfl, rfl⟩
      · rw [if_neg showable] at refused
        exact .inr ⟨_, refused, .unshown given converted reported showable⟩
    · exact .inr ⟨_, refused, .overflow too_large⟩

/-- A text that is no integer is refused in the name of the column, but an infinity overflows. -/
theorem faults_of_text_and_infinity :
    let age : Column := ⟨"AGE", .ofKind .integer, 0, "AGE", true⟩
    let numbered : Filling := ⟨none, some ⟨5, 1⟩⟩
    (Value.text "old" ≠ .useDefault
      ∧ ∃ failure, age.accept numbered (.text "old") = (.error (.link failure), numbered)
        ∧ age.Names failure)
    ∧ Value.decimal (.infinite true) ≠ .useDefault
      ∧ age.accept numbered (.decimal (.infinite true)) = (.error .overflow, numbered) := by
  intro age numbered
  have whole : age.type.kind ∈ KindGroup.whole.kinds := by decide
  have infinity : age.Escapes (.decimal (.infinite true)) .overflow := .overflow (.whole true whole)
  have refused : age.type.convert (.text "old") = .error .malformed := by
    have unread : readInt? "old".toList = none := by decide +kernel
    show (ColumnType.orMalformed (readInt? "old".toList)).map Value.int = _
    rw [unread]
    rfl
  have text : Value.text "old" ≠ .useDefault := nofun
  have given : Value.text "old" ≠ .null := nofun
  have decimal : Value.decimal (.infinite true) ≠ .useDefault := nofun
  refine ⟨⟨text, ?_⟩, decimal, (faults_of_explicit age numbered decimal).2 _ infinity⟩
  rcases (faults_of_explicit age numbered text).1 with ⟨w, ok⟩ | named | ⟨fault, -, escapes⟩
  · rw [accept_eq_convertFor text, convertFor_of_error given refused] at ok
    cases ok
  · exact named
  · cases escapes with
    | overflow too_large => cases refused.symm.trans too_large.convert
    | unshown _ _ _ hidden => exact absurd ⟨rfl, rfl⟩ hidden

/-- The conversion of an infinity to an integer ends in another fault than the failure that names
the column. -/
theorem infinity_escapes :
    let id : Column := ⟨"ID", .ofKind .integer, 0, "ID", true⟩
    let infinity : Value := .decimal (.infinite false)
    infinity ≠ .useDefault ∧ (id.accept .none infinity).1 = .error .overflow
      ∧ ¬ ((∃ w, (id.accept .none infinity).1 = .ok w)
        ∨ ∃ failure, (id.accept .none infinity).1 = .error (.link failure) ∧ id.Names failure) := by
  intro id infinity
  have overflow : (id.accept .none infinity).1 = .error .overflow := rfl
  refine ⟨nofun, overflow, ?_⟩
  rw [overflow]
  rintro (⟨w, ok⟩ | ⟨failure, named, -⟩)
  · cases ok
  · cases named

end Column

end LinkedTables
