import LinkedTables.Column.Basic

/-!
# Statements about rows

What the host asks of a remote table is a `RowStatement`: rows to select, to insert, to update or to
delete, where rows are told by conditions on their columns. `RowStatement.text` writes a statement
with a marker for each value, and `RowStatement.params` lists the values in the order of their
markers. Large objects take no part in telling rows apart, since most remote sides cannot compare
them.
-/

namespace LinkedTables.Sql

/-- What is asked of the value of a column. -/
inductive Test where
  | isNull
  | equals (v : Value)
  | atLeast (v : Value)
  | atMost (v : Value)
deriving Inhabited

/-- A test of a column. -/
structure Condition where
  column : Column
  test : Test
deriving Inhabited

/-- A statement about rows. An assignment without a value gives a column its default. -/
inductive RowStatement where
  | select (conditions : List Condition)
  | insert (cells : List (Column × Value))
  | update (assignments : List (Column × Option Value)) (conditions : List Condition)
  | delete (conditions : List Condition)
deriving Inhabited

/-! ### Writing -/

/-- How a test is written behind the name of its column. -/
def Test.text : Test → String
  | isNull => " IS NULL"
  | equals _ => "=?"
  | atLeast _ => ">=?"
  | atMost _ => "<=?"

/-- The value of a test, if it has a marker. -/
def Test.param? : Test → Option Value
  | isNull => none
  | equals v | atLeast v | atMost v => some v

/-- A condition as it is written. -/
def Condition.text (quote : String → String) (c : Condition) : String :=
  quote c.column.remoteName ++ c.test.text

/-- Conditions that hold together, as they are written. -/
def allText (quote : String → String) (cs : List Condition) : String :=
  " AND ".intercalate (cs.map (Condition.text quote))

/-- The values of conditions. -/
def allParams (cs : List Condition) : List Value := cs.filterMap (·.test.param?)

/-- An assignment as it is written. -/
def assignmentText (quote : String → String) (a : Column × Option Value) : String :=
  quote a.1.remoteName ++ if a.2.isSome then "=?" else "=DEFAULT"

namespace RowStatement

/-- A statement on a table as it is written, where `quote` writes the names of columns. -/
def text (quote : String → String) (table : String) : RowStatement → String
  | select [] => "SELECT * FROM " ++ table ++ " T"
  | select cs => "SELECT * FROM " ++ table ++ " T WHERE " ++ allText quote cs
  | insert [] => "INSERT INTO " ++ table ++ " DEFAULT VALUES"
  | insert cells =>
    "INSERT INTO " ++ table ++ "(" ++ ", ".intercalate (cells.map fun c => quote c.1.remoteName)
      ++ ") VALUES(" ++ ", ".intercalate (cells.map fun _ => "?") ++ ")"
  | update assignments cs =>
    "UPDATE " ++ table ++ " SET "
      ++ ", ".intercalate (assignments.map (assignmentText quote))
      ++ " WHERE " ++ allText quote cs
  | delete cs => "DELETE FROM " ++ table ++ " WHERE " ++ allText quote cs

/-- The values of a statement in the order of their markers. -/
def params : RowStatement → List Value
  | select cs => allParams cs
  | insert cells => cells.map (·.2)
  | update assignments cs => assignments.filterMap (·.2) ++ allParams cs
  | delete cs => allParams cs

end RowStatement

/-! ### Statements for rows

A column can be named only while the link is ready, which is looked at when the first name is
needed. -/

/-- The value of a row for a column. -/
def valueAt (row : List Value) (c : Column) : Except Fault Value :=
  match row[c.ordinal]? with
  | some v => .ok v
  | none => .error (.outOfRange false)

/-- The test that a value of a row passes. -/
def testOf : Value → Test
  | .null => .isNull
  | v => .equals v

/-- The conditions that tell a row, from all columns but the large objects. -/
def conditionsOf (ready : Except Fault Unit) (columns : List Column) (row : List Value) :
    Except Fault (List Condition) :=
  (columns.filter fun c => !c.type.kind.isLarge).mapM fun c => do
    ready
    return ⟨c, testOf (← valueAt row c)⟩

/-- The conditions that tell a row of a table; without any the row cannot be told. -/
def identifying (ready : Except Fault Unit) (table : String) (columns : List Column)
    (row : List Value) : Except Fault (List Condition) := do
  match ← conditionsOf ready columns row with
  | [] => .error (.link (.plain .unsupportedOperation
      ("Linked table " ++ table ++ " has no comparable columns to identify a row")))
  | cs => return cs

/-- The condition on one side of a column: a bound that is not given, or null, leaves it open. -/
def sideOf (make : Value → Test) (bound : Option (List Value)) (c : Column) :
    Except Fault (List Condition) :=
  match bound with
  | none => .ok []
  | some row => do
    match ← valueAt row c with
    | .null => return []
    | v => return [⟨c, make v⟩]

/-- The statement that selects the rows between two bounds, both included. -/
def selectBetween (ready : Except Fault Unit) (columns : List Column)
    (first last : Option (List Value)) : Except Fault RowStatement := do
  let sides ← columns.mapM fun c => do
    ready
    return (← sideOf .atLeast first c) ++ (← sideOf .atMost last c)
  return .select sides.flatten

/-- The cell of an inserted row for a column; one left to the default is left out. -/
def cellOf (ready : Except Fault Unit) (row : List Value) (c : Column) :
    Except Fault (Option (Column × Value)) := do
  match ← valueAt row c with
  | .useDefault => return none
  | v =>
    ready
    return some (c, v)

/-- The statement that inserts a row. -/
def insertRow (ready : Except Fault Unit) (columns : List Column) (row : List Value) :
    Except Fault RowStatement := do
  return .insert ((← columns.mapM (cellOf ready row)).filterMap id)

/-- The statement that deletes a row. -/
def deleteRow (ready : Except Fault Unit) (table : String) (columns : List Column)
    (row : List Value) : Except Fault RowStatement := do
  return .delete (← identifying ready table columns row)

/-- What a column is assigned in place of its old value. -/
def assigned : Value → Option Value
  | .useDefault => none
  | v => some v

/-- The statement that turns one row into another. -/
def updateRow (ready : Except Fault Unit) (table : String) (columns : List Column)
    (old new : List Value) : Except Fault RowStatement := do
  let assignments ← columns.mapM fun c => do
    let v ← valueAt new c
    ready
    return (c, assigned v)
  return .update assignments (← identifying ready table columns old)

end LinkedTables.Sql
