import LinkedTables.Fault

/-!
# Rows

A row of the local engine: values by place, and the key under which the engine knows the row. A
negative place counts back from the end.
-/

namespace LinkedTables

/-- A row with the key under which it is known. -/
structure Row where
  values : List Value
  key : Option Int
deriving Inhabited

namespace Row

/-- The place that an index names in a list of a length. -/
def place? (length : Nat) (i : Int) : Option Nat :=
  let j := if i < 0 then length + i else i
  if 0 ≤ j ∧ j < length then some j.toNat else none

/-- The value at an index. -/
def get (row : Row) (i : Int) : Except Fault Value :=
  match (place? row.values.length i).bind (row.values[·]?) with
  | some v => .ok v
  | none => .error (.outOfRange false)

/-- The row with a value at an index. -/
def set (row : Row) (i : Int) (v : Value) : Except Fault Row :=
  match place? row.values.length i with
  | some j => .ok { row with values := row.values.set j v }
  | none => .error (.outOfRange true)

/-- Rows with equal values are equal, whatever their keys. -/
def same (row other : Row) : Bool := Value.sameItems row.values other.values

/-- The row in messages. -/
def shown (row : Row) : String := "Row(" ++ (Value.list row.values).shown ++ ")"

end Row

end LinkedTables
