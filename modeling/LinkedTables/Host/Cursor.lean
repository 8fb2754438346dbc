import LinkedTables.Host.Table

/-!
# Cursors

The rows of a query come one by one. The query runs when the first row is asked for, and while it
is read its statement is in nobody else's hands. Behind the last row the statement is handed back;
when the reading fails or is given up, the statement is closed.
-/

namespace LinkedTables.Action

/-- A cursor for a query that has not run yet. -/
def openCursor (cursor : Cursor) : Action Nat := do
  let c := (← get).cursors.next
  modify fun h => { h with cursors := h.cursors.join cursor }
  return c

/-- A cursor over all rows of a table. -/
def openScan (t : Nat) (client : Option Nat) : Action Nat := do
  let sql := (Sql.RowStatement.select []).text id ((← get).table t).qualifiedName
  openCursor ⟨t, sql, [], client, .fresh⟩

/-- A cursor over the rows between two bounds on the columns of an index, both included. -/
def openFind (t : Nat) (index : Index) (client : Option Nat) (first last : Option (List Value)) :
    Action Nat := do
  let h ← get
  let table := h.table t
  let statement ← ofExcept (Sql.selectBetween (readiness table) index.columns first last)
  let sql := statement.text (quoteFor h t) table.qualifiedName
  openCursor ⟨t, sql, statement.params, client, .fresh⟩

/-- Ends a cursor. -/
def endCursor (c : Nat) : Action Unit := reviseCursor c fun cursor => { cursor with phase := .ended }

/-- The next row of a result, where the cursor ends behind the last row and with a fault. -/
def readNext (c : Nat) (cursor : Cursor) (st r : Nat) : Action (Option (List Value)) := do
  match ← outcome (fetch r) with
  | .ok (some row) => return some row
  | .ok none =>
    endCursor c
    handBack cursor.table st cursor.sql
    return none
  | .error fault =>
    endCursor c
    closeStatement st
    throw fault

/-- The next row of a cursor, if there is one. -/
def next (c : Nat) : Action (Option (List Value)) := do
  let cursor := (← get).cursor c
  match cursor.phase with
  | .ended => return none
  | .reading st r => readNext c cursor st r
  | .fresh =>
    match ← outcome (execute cursor.table cursor.sql cursor.params cursor.client) with
    | .error fault =>
      endCursor c
      throw fault
    | .ok st =>
      match ((← get).statement st).result with
      | none =>
        endCursor c
        return none
      | some r =>
        reviseCursor c fun cursor => { cursor with phase := .reading st r }
        readNext c cursor st r

/-- Gives a cursor up. -/
def closeCursor (c : Nat) : Action Unit := do
  let cursor := (← get).cursor c
  endCursor c
  match cursor.phase with
  | .reading st _ => closeStatement st
  | _ => pure ()

/-- All rows still to come; `fuel` bounds their number. -/
def drainFrom (c : Nat) : Nat → Action (List (List Value))
  | 0 => return []
  | fuel + 1 => do
    match ← next c with
    | none => return []
    | some row => return row :: (← drainFrom c fuel)

/-- The rows that a cursor can still have: those of its result. -/
def remaining (h : Host) (c : Nat) : Nat :=
  match (h.cursor c).phase with
  | .reading _ r => (h.result r).rows.length
  | _ => 0

/-- All rows still to come from a cursor. -/
def drain (c : Nat) : Action (List (List Value)) := do
  match ← next c with
  | none => return []
  -- How many rows are left is known once the query has run.
  | some row => return row :: (← drainFrom c (remaining (← get) c + 1))

end LinkedTables.Action
