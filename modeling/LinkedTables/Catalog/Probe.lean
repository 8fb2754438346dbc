import LinkedTables.Catalog.Row

/-!
# Columns told from a result

When the catalog does not settle the columns of a link, they are read off the description that
comes with the result of a query. A description has an entry for each column: its name and type
code, and, where the driver gives them, a size, a precision, a scale and whether it is nullable. The
type objects of the driver classify the codes.
-/

namespace LinkedTables

/-- The type codes that a driver lists under the names of its type objects. -/
structure TypeObjects where
  number : Option (List Value)
  datetime : Option (List Value)
  string : Option (List Value)
  binary : Option (List Value)
deriving Inhabited

namespace TypeObjects

/-- The type objects in the order in which they are tried, with their kinds. -/
def ranked (objects : TypeObjects) : List (Option (List Value) × Kind) :=
  [(objects.number, .decimal), (objects.datetime, .timestamp), (objects.string, .varchar),
    (objects.binary, .varbinary)]

/-- The kind of a type code. -/
def kindOf (objects : TypeObjects) (code : Value) : Kind :=
  let lists (codes : Option (List Value)) : Bool :=
    match codes with
    | some cs => cs.any (·.same code)
    | none => false
  ((objects.ranked.find? fun entry => lists entry.1).map (·.2)).getD .other

end TypeObjects

namespace Probe

/-- The kind of a type code, if there are type objects to tell it. -/
def kindOf (objects : Option TypeObjects) (code : Value) : Kind :=
  match objects, code with
  | none, _ | _, .null => .other
  | some objects, code => objects.kindOf code

/-- The number in an entry; what is no whole number counts as zero. -/
def wholeOrZero : Value → Int
  | .int n => n
  | .bool b => if b then 1 else 0
  | _ => 0

/-- The precision of an entry: for texts and buffers without one, the size stands in. -/
def precisionOf (kind : Kind) (size precision : Value) : Int :=
  if (kind == .varchar || kind == .varbinary) && !precision.isTruthy then wholeOrZero size
  else wholeOrZero precision

/-- The row of an entry, which needs at least a name and a type code. -/
def rowOf (objects : Option TypeObjects) (entry : List Value) : Except Fault ColumnRow :=
  match entry with
  | name :: code :: rest =>
    let item (i : Nat) : Value := (rest[i]?).getD .null
    let kind := kindOf objects code
    .ok {
      catalog := none
      schema := none
      table := none
      column := name.asText
      kind
      typeName := match code with
        | .null => none
        | code => some code.asText
      precision := precisionOf kind (item 1) (item 2)
      scale := wholeOrZero (item 3)
      nullable := match item 4 with
        | .bool false => false
        | _ => true }
  | _ => .error (.outOfRange false)

/-- The rows of a description, in its order; no description has no columns. -/
def rows (objects : Option TypeObjects) (description : Option (List (List Value))) :
    Except Fault (List ColumnRow) :=
  (description.getD []).mapM (rowOf objects)

end Probe

end LinkedTables
