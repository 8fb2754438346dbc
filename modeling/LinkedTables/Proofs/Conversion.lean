import LinkedTables.Column.Type
import LinkedTables.Proofs.Success

/-!
# Conversion to the type of a column

Values of many types convert to the type of a column, and what a conversion comes to is a value of
this type (`Holds`): truth values are no whole numbers then, nor timestamps dates, and a text fits
into the precision. The values of the type are also those that convert to themselves, so that a value
that has been converted once converts to itself. Every step of the argument goes group by group. The
main statement is `holds_of_convert`.
-/

namespace LinkedTables

open Number Calendar

/-! ### The kinds of a group -/

/-- The kinds that hold values of one type. -/
def KindGroup.kinds : KindGroup → List Kind
  | truth => [.boolean]
  | whole => [.tinyint, .smallint, .integer, .bigint]
  | exact => [.decimal, .numeric]
  | approximate => [.real, .double, .float]
  | string => [.char, .varchar, .clob]
  | binary => [.binary, .varbinary, .blob]
  | date => [.date]
  | time => [.time]
  | timestamp => [.timestamp]
  | untyped => [.json, .other]

theorem Kind.group_eq_iff {kind : Kind} {group : KindGroup} :
    kind.group = group ↔ kind ∈ group.kinds := by
  constructor
  · rintro rfl
    cases kind <;> decide
  · cases group <;> cases kind <;> decide

namespace ColumnType

variable {t : ColumnType} {v w : Value}

/-! ### The values of a type -/

/-- A text is within the precision, unless that is zero or the kind is a large object. -/
def Fits (t : ColumnType) (s : String) : Prop :=
  t.kind = .clob ∨ t.precision = 0 ∨ s.length ≤ t.precision

theorem fits_iff {s : String} :
    t.Fits s ↔ ¬(t.kind ≠ .clob ∧ t.precision ≠ 0 ∧ t.precision < s.length) := by
  simp only [Fits, ne_eq, Decidable.not_and_iff_not_or_not, Decidable.not_not, Int.not_lt]

/-- The values that a type holds, and for which kinds. -/
inductive Holds (t : ColumnType) : Value → Prop where
  | truth (b : Bool) (kind : t.kind ∈ KindGroup.truth.kinds) : Holds t (.bool b)
  | whole (n : Int) (kind : t.kind ∈ KindGroup.whole.kinds) : Holds t (.int n)
  | exact (d : Decimal) (kind : t.kind ∈ KindGroup.exact.kinds) : Holds t (.decimal d)
  | approximate (x : Float) (kind : t.kind ∈ KindGroup.approximate.kinds) : Holds t (.float x)
  | string (s : String) (kind : t.kind ∈ KindGroup.string.kinds) (fits : t.Fits s) :
      Holds t (.text s)
  | binary (data : List UInt8) (kind : t.kind ∈ KindGroup.binary.kinds) :
      Holds t (.bytes .fixed data)
  | date (d : Date) (kind : t.kind ∈ KindGroup.date.kinds) : Holds t (.date d)
  | time (x : Time) (kind : t.kind ∈ KindGroup.time.kinds) : Holds t (.time x)
  | timestamp (x : Timestamp) (kind : t.kind ∈ KindGroup.timestamp.kinds) : Holds t (.timestamp x)
  | untyped (v : Value) (kind : t.kind ∈ KindGroup.untyped.kinds) : Holds t v

/-! ### Texts -/

theorem fits_of_toText {s : String} (ok : t.toText v = .ok s) : t.Fits s := by
  unfold toText at ok
  split at ok
  next => cases ok
  next =>
    split at ok
    next => cases ok
    next within =>
      cases ok
      exact fits_iff.mpr within

theorem toText_of_fits {s : String} (fits : t.Fits s) : t.toText (.text s) = .ok s :=
  if_neg (fits_iff.mp fits)

/-! ### Conversion -/

theorem exists_of_map {α β : Type} {x : Except Fault α} {f : α → β} {b : β}
    (ok : x.map f = .ok b) : ∃ a, x = .ok a ∧ f a = b := by
  cases x with
  | error fault => cases ok
  | ok a => exact ⟨a, rfl, Except.ok.inj ok⟩

/-- What a conversion comes to is a value of the type. -/
theorem holds_of_ok (ok : t.convert v = .ok w) : t.Holds w := by
  unfold convert at ok
  have kind := Kind.group_eq_iff.mp (Eq.refl t.kind.group)
  generalize t.kind.group = group at ok kind
  cases group with
  | truth =>
    obtain ⟨b, -, rfl⟩ := exists_of_map ok
    exact .truth b kind
  | whole =>
    obtain ⟨n, -, rfl⟩ := exists_of_map ok
    exact .whole n kind
  | exact =>
    obtain ⟨d, -, rfl⟩ := exists_of_map ok
    exact .exact d kind
  | approximate =>
    obtain ⟨x, -, rfl⟩ := exists_of_map ok
    exact .approximate x kind
  | string =>
    obtain ⟨s, converted, rfl⟩ := exists_of_map ok
    exact .string s kind (fits_of_toText converted)
  | binary =>
    obtain ⟨data, -, rfl⟩ := exists_of_map ok
    exact .binary data kind
  | date =>
    obtain ⟨d, -, rfl⟩ := exists_of_map ok
    exact .date d kind
  | time =>
    obtain ⟨x, -, rfl⟩ := exists_of_map ok
    exact .time x kind
  | timestamp =>
    obtain ⟨x, -, rfl⟩ := exists_of_map ok
    exact .timestamp x kind
  | untyped => exact .untyped w kind

/-- A value of the type converts to itself. -/
theorem Holds.convert (holds : t.Holds w) : t.convert w = .ok w := by
  unfold ColumnType.convert
  cases holds with
  | string s kind fits =>
    rw [Kind.group_eq_iff.mpr kind, toText_of_fits fits]
    rfl
  | untyped _ kind => rw [Kind.group_eq_iff.mpr kind]
  | truth b kind | whole n kind | exact d kind | approximate x kind | binary data kind
  | date d kind | time x kind | timestamp x kind =>
    rw [Kind.group_eq_iff.mpr kind]
    rfl

/-- What a conversion comes to is a value of the type, which converts to itself, for every kind,
precision and scale. The values of the type are thus those that conversions come to, and also those
that convert to themselves. -/
theorem holds_of_convert (t : ColumnType) :
    (∀ v w, t.convert v = .ok w → t.Holds w ∧ t.convert w = .ok w)
      ∧ ∀ w, (t.Holds w ↔ ∃ v, t.convert v = .ok w) ∧ (t.Holds w ↔ t.convert w = .ok w) := by
  refine ⟨fun v w ok => ⟨holds_of_ok ok, (holds_of_ok ok).convert⟩, fun w => ⟨?_, ?_⟩⟩
  · constructor
    · intro holds
      exact ⟨w, holds.convert⟩
    · rintro ⟨v, ok⟩
      exact holds_of_ok ok
  · exact ⟨Holds.convert, holds_of_ok⟩

/-- A truth value is converted to a whole number, and null to a text that fits. -/
theorem holds_of_converted_null :
    let whole := ofKind .integer
    let text : ColumnType := ⟨.varchar, 4, 0, none⟩
    (whole.convert (.bool true) = .ok (.int 1) ∧ whole.Holds (.int 1)
        ∧ whole.convert (.int 1) = .ok (.int 1))
      ∧ text.convert .null = .ok (.text "None") ∧ text.Holds (.text "None")
        ∧ text.convert (.text "None") = .ok (.text "None") := by
  intro whole text
  obtain ⟨whole_again, -⟩ := holds_of_convert whole
  obtain ⟨text_again, -⟩ := holds_of_convert text
  have converted : whole.convert (.bool true) = .ok (.int 1) := rfl
  have shown : text.convert .null = .ok (.text "None") := rfl
  exact ⟨⟨converted, whole_again _ _ converted⟩, shown, text_again _ _ shown⟩

end ColumnType

end LinkedTables
