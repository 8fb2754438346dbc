import LinkedTables.Proofs.Surfacing
import LinkedTables.Proofs.Writing

/-!
# Faults that are found at hand

Without the remote side, the statement for some rows fails if it cannot be written, because a row
is too short or no column can tell rows (`Sql.unwritten_of_request`), or if one of its values cannot
be bound, which is then a value of a row (`Host.unfit_of_unbound`). What the remote side reports for
the number of rows may not be readable as a number.
-/

namespace LinkedTables

/-! ### Statements that cannot be written -/

namespace Sql

/-- The rows of a request. -/
def RowRequest.rows : RowRequest → List (List Value)
  | add row | remove row => [row]
  | update old new => [old, new]
  | find first last => first.toList ++ last.toList

/-- Why a statement for some rows cannot be written. -/
inductive Unwritten (ready : Except Fault Unit) (columns : List Column)
    (rows : List (List Value)) : Fault → Prop
  | unready {fault : Fault} (refuses : ready = .error fault) : Unwritten ready columns rows fault
  /-- A row has no value for a column. -/
  | short {row : List Value} {c : Column} (given : row ∈ rows) (among : c ∈ columns)
      (missing : row[c.ordinal]? = none) : Unwritten ready columns rows (.outOfRange false)
  | untold (table : String) : Unwritten ready columns rows (untold table)

section Unwritten

variable {ready : Except Fault Unit} {table : String} {columns : List Column} {fault : Fault}
  {request : RowRequest}

/-- What a request looks at stands in one of its rows. -/
theorem mem_rows_of_row? {clause : Clause} {row : List Value}
    (takes : request.row? clause = some row) : row ∈ request.rows := by
  unfold RowRequest.row? at takes
  split at takes
  · exact List.mem_singleton.mpr (Option.some.inj takes).symm
  · exact List.mem_singleton.mpr (Option.some.inj takes).symm
  · exact Option.some.inj takes ▸ List.mem_cons_self
  · exact Option.some.inj takes ▸ List.mem_cons_of_mem _ List.mem_cons_self
  · exact List.mem_append_left _ (Option.mem_toList.mpr takes)
  · exact List.mem_append_right _ (Option.mem_toList.mpr takes)
  · cases takes

/-- A statement for rows cannot be written because the link is not ready, because a row is too
short, or because no column can tell rows. -/
theorem unwritten_of_request (failed : request.statement ready table columns = .error fault) :
    Unwritten ready columns request.rows fault := by
  cases unwritable_of_request failed with
  | unready refuses => exact .unready refuses
  | short looks missing => exact .short (mem_rows_of_row? looks.takes) looks.among missing
  | untold _ _ => exact .untold table

/-- The values of a statement stand in the rows for which it was written. -/
theorem mem_rows_of_param {statement : RowStatement} {v : Value}
    (made : request.statement ready table columns = .ok statement) (param : v ∈ statement.params) :
    ∃ row ∈ request.rows, v ∈ row := by
  obtain ⟨clause, row, c, looks, found, -⟩ := ((written_of_request made).params v).mp param
  exact ⟨row, mem_rows_of_row? looks.takes, List.mem_of_getElem? found⟩

end Unwritten

end Sql

/-- A row is too short for one of some columns, or holds a value that cannot be bound on behalf of a
client. -/
def Host.Unfit (client : Option Nat) (columns : List Column) (rows : List (List Value)) (h : Host)
    (fault : Fault) : Prop :=
  ∃ row ∈ rows, h.Unbound client row fault
    ∨ fault = .outOfRange false ∧ ∃ c ∈ columns, row[c.ordinal]? = none

theorem Host.Unfit.mono {client : Option Nat} {columns : List Column}
    {rows rows' : List (List Value)} {h : Host} {fault : Fault}
    (unfit : h.Unfit client columns rows fault) (more : rows ⊆ rows') :
    h.Unfit client columns rows' fault := by
  obtain ⟨row, given, why⟩ := unfit
  exact ⟨row, more given, why⟩

/-- A value of a statement that cannot be bound stands in a row. -/
theorem Host.unfit_of_unbound {client : Option Nat} {columns columns' : List Column}
    {ready : Except Fault Unit} {table : String} {request : Sql.RowRequest}
    {statement : Sql.RowStatement} {h : Host} {fault : Fault}
    (made : request.statement ready table columns = .ok statement)
    (unbound : h.Unbound client statement.params fault) :
    h.Unfit client columns' request.rows fault := by
  obtain ⟨v, param, failed⟩ := unbound
  obtain ⟨row, given, there⟩ := Sql.mem_rows_of_param made param
  exact ⟨row, given, .inl ⟨v, there, failed⟩⟩

/-- Why the number of rows cannot be read from what the remote side reports for it. -/
def Uncounted (fault : Fault) : Prop :=
  fault = .outOfRange false ∨ ∃ v, wholeCount v = .error fault

open ColumnType in
/-- A value that is not that of a number makes a fault of values. -/
theorem fault_of_wholeCount {v : Value} {fault : Fault} (failed : wholeCount v = .error fault) :
    fault.isBadValue = true ∨ fault = .mismatch ∨ fault = .overflow := by
  have malformed {n : Option Int} (failed : orMalformed n = .error fault) :
      fault.isBadValue = true := by
    cases n <;> cases failed
    rfl
  cases v with
  | float x =>
    simp only [wholeCount] at failed
    split at failed
    · cases failed
    · cases failed
      split
      · exact .inl rfl
      · exact .inr (.inr rfl)
  | decimal d =>
    cases d <;> cases failed
    · exact .inr (.inr rfl)
    · exact .inl rfl
  | text s => exact .inl (malformed failed)
  | bytes _ data => exact .inl (malformed failed)
  | bool _ => cases failed
  | int _ => cases failed
  | _ =>
    cases failed
    exact .inr (.inl rfl)

namespace Uncounted

variable {fault : Fault}

theorem isRemote (uncounted : Uncounted fault) : fault.isRemote = false := by
  rcases uncounted with rfl | ⟨v, failed⟩
  · rfl
  · rcases fault_of_wholeCount failed with bad | rfl | rfl
    · cases fault with
      | remote => cases bad
      | _ => rfl
    · rfl
    · rfl

theorem ne_link (uncounted : Uncounted fault) (failure : LinkFault) : fault ≠ .link failure := by
  rintro rfl
  rcases uncounted with same | ⟨v, failed⟩
  · cases same
  · rcases fault_of_wholeCount failed with bad | same | same <;> contradiction

end Uncounted

end LinkedTables
