import LinkedTables.Catalog.Row
import LinkedTables.Index.Basic

/-!
# Indexes from catalog rows

The rows of a primary key come in any order, each with its place in the key (`keyBinding`). The rows
of the other indexes come index by index: `runs` gathers neighbours that bear the same name, while
statistics rows and the rows of the primary key are passed over wherever they stand. A catalog that
cannot answer contributes no index, which is reported.
-/

namespace LinkedTables.Reconstruction

/-- How the columns of a table are found by the names that the catalog reports. -/
abbrev Resolver := String → Option Column

/-- The column of a reported name; an expression has none. -/
def resolved (resolve : Resolver) (name : Option String) : Option Column := name.bind resolve

/-! ### The primary key -/

/-- A list made up to a length by unknown columns. -/
def padded {α : Type} (length : Nat) (columns : List (Option α)) : List (Option α) :=
  columns ++ List.replicate (length - columns.length) none

/-- The columns with one more at its place: places count from one, place zero is behind the last
column, and a negative place counts back from the last column but one. -/
def placed {α : Type} (columns : List (Option α)) (place : Int) (column : Option α) :
    Except Fault (List (Option α)) :=
  if place = 0 then .ok (columns ++ [column])
  else if 0 < place then .ok ((padded place.toNat columns).set (place.toNat - 1) column)
  else if 0 ≤ columns.length + place - 1 then
    .ok (columns.set (columns.length + place - 1).toNat column)
  else .error (.outOfRange true)

/-- The first name that is not empty. -/
def keyName : List KeyRow → Option String
  | [] => none
  -- The last name is taken as it is, even if it is empty.
  | [row] => row.keyName
  | row :: rest =>
    match row.keyName with
    | some name => if name.isEmpty then keyName rest else some name
    | none => keyName rest

/-- The columns of the primary key in the order of their places. -/
def keyColumns (resolve : Resolver) (rows : List KeyRow) : Except Fault (List (Option Column)) :=
  rows.foldlM (fun columns row => placed columns row.place (resolve row.column)) []

/-- The primary key that the rows report. -/
def keyBinding (resolve : Resolver) (rows : List KeyRow) : Except Fault Binding :=
  (keyColumns resolve rows).map fun columns => ⟨.primaryKey, columns, keyName rows⟩

/-! ### The other indexes -/

/-- Rows of one index, with the kind that the last of them gives. -/
structure Run where
  name : Option String
  unique : Bool
  columns : List (Option String)
deriving DecidableEq, Repr

/-- The run of a single row. -/
def Run.ofRow (row : IndexRow) : Run := ⟨row.index, !row.nonUnique, [row.column]⟩

/-- A run with one more row. -/
def Run.extend (run : Run) (row : IndexRow) : Run :=
  { run with unique := !row.nonUnique, columns := run.columns ++ [row.column] }

/-- The rows that belong to no index of their own: statistics, and the rows of the primary key. -/
def isPassedOver (key : Option String) (row : IndexRow) : Bool :=
  row.kind == .statistic || (key.isSome && row.index == key)

/-- The runs of the rows, where `current` is the run that the next row may continue. -/
def runsFrom (key : Option String) (current : Option Run) : List IndexRow → List Run
  | [] => current.toList
  | row :: rest =>
    if isPassedOver key row then runsFrom key current rest
    else
      match current with
      | none => runsFrom key (some (.ofRow row)) rest
      | some run =>
        if run.name = row.index then runsFrom key (some (run.extend row)) rest
        else run :: runsFrom key (some (.ofRow row)) rest

/-- The runs of neighbouring rows of one index. -/
def runs (key : Option String) (rows : List IndexRow) : List Run := runsFrom key none rows

/-- The index of a run. -/
def Run.binding (resolve : Resolver) (run : Run) : Binding :=
  ⟨.ofUnique run.unique, run.columns.map (resolved resolve), run.name⟩

/-- The indexes that the rows report, besides the primary key. -/
def indexBindings (resolve : Resolver) (key : Option String) (rows : List IndexRow) :
    List Binding :=
  (runs key rows).map (Run.binding resolve)

/-! ### Both parts -/

/-- The rows of a feed; when the remote side cannot answer there are none, which is reported. -/
def rowsOrNotice {α : Type} (what table : String) (feed : Feed α) :
    Except Fault (List α) × List Notice :=
  match feed.toList with
  | .ok rows => (.ok rows, [])
  | .error fault =>
    if fault.isRemote || fault.isUnsupported then
      (.ok [], [⟨.warning, "Could not read " ++ what ++ " of " ++ table ++ ": " ++ fault.text⟩])
    else (.error fault, [])

/-- The primary key of a table and its name, with what is reported on the way. -/
def readKey (resolve : Resolver) (table : String) (feed : Feed KeyRow) :
    Except Fault (Option Index × Option String) × List Notice :=
  match rowsOrNotice "primary key" table feed with
  | (.error fault, notices) => (.error fault, notices)
  | (.ok [], notices) => (.ok (none, none), notices)
  | (.ok rows, notices) =>
    match keyBinding resolve rows with
    | .error fault => (.error fault, notices)
    | .ok binding => (.ok (binding.index?, binding.name), notices ++ binding.notice?.toList)

/-- The other indexes of a table, with what is reported on the way. -/
def readOthers (resolve : Resolver) (table : String) (key : Option String) (feed : Feed IndexRow) :
    Except Fault (List Index) × List Notice :=
  match rowsOrNotice "indexes" table feed with
  | (.error fault, notices) => (.error fault, notices)
  | (.ok rows, notices) =>
    let bindings := indexBindings resolve key rows
    (.ok (bindings.filterMap (·.index?)), notices ++ bindings.filterMap (·.notice?))

/-- The primary key, if there is one, and behind it the other indexes. -/
def readIndexes (resolve : Resolver) (table : String) (keys : Feed KeyRow) (infos : Feed IndexRow) :
    Except Fault (List Index) × List Notice :=
  match readKey resolve table keys with
  | (.error fault, notices) => (.error fault, notices)
  | (.ok (primary, key), notices) =>
    match readOthers resolve table key infos with
    | (.error fault, more) => (.error fault, notices ++ more)
    | (.ok others, more) => (.ok (primary.toList ++ others), notices ++ more)

end LinkedTables.Reconstruction
