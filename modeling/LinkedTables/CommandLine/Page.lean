import LinkedTables.Host.State

/-!
# What is printed

The answers of the command line: lines of text, and sheets with a title and columns.
-/

namespace LinkedTables.CommandLine

/-- The side of a column at which its cells stand. -/
inductive Side where
  | left
  | right
deriving DecidableEq, Repr, Inhabited

/-- The name of a side. -/
def Side.name : Side → String
  | left => "left"
  | right => "right"

/-- Cells in rows and columns. -/
structure Sheet where
  title : String
  columns : List (String × Side)
  rows : List (List String)
deriving DecidableEq, Repr, Inhabited

/-- What is printed at a time. -/
inductive Print where
  | line (text : String)
  | sheet (s : Sheet)
deriving DecidableEq, Repr, Inhabited

/-! ### The columns and indexes of a table -/

/-- The columns of a table. -/
def columnSheet (table : LinkedTable) : Sheet where
  title := table.name ++ " -> " ++ table.qualifiedName
  columns := [("#", .right), ("Column", .left), ("Remote name", .left), ("Type", .left),
    ("Nullable", .left)]
  rows := table.columns.map fun c =>
    [toString c.ordinal, c.name, c.remoteName, c.type.text, if c.nullable then "yes" else "no"]

/-- The indexes of a table; one without a name is marked by a dash. -/
def indexSheet (table : LinkedTable) : Sheet where
  title := "Indexes"
  columns := [("Name", .left), ("Kind", .left), ("Columns", .left)]
  rows := table.indexes.map fun index =>
    [(index.name.filter fun name => !name.isEmpty).getD "-", index.kind.name,
      String.intercalate ", " index.columnNames]

/-- What is printed as a value: a line as its text, a sheet by its parts. -/
def Print.toValue : Print → Value
  | line text => .text text
  | sheet s => .dict [
      ("title", .text s.title),
      ("columns", .list (s.columns.map fun (name, side) => .list [.text name, .text side.name])),
      ("rows", .list (s.rows.map fun row => .list (row.map .text)))]

/-! ### Styles

Lines are set in styles, which tags in brackets begin and end. A backslash before a bracket says that
the bracket stands for itself, and a text that is put into a line gets such backslashes where it looks
like a tag. What a line shows is therefore the text itself but for the backslashes at its end, those
before a bracket that opens no tag, and the characters that move the cursor, which are left out. -/

/-- A character that moves the cursor and is not shown: the bell, the backspace, the vertical tabulator,
the form feed and the carriage return. -/
def isCursorControl (c : Char) : Bool := [7, 8, 11, 12, 13].contains c.toNat

/-- The characters of a line that are shown. -/
def shownText (cs : List Char) : String := String.ofList (cs.filter fun c => !isCursorControl c)

/-- Whether what follows an opening bracket makes it a tag. -/
def opensTag : List Char → Bool
  | [] => false
  | c :: cs =>
    (('a' ≤ c && c ≤ 'z') || c == '#' || c == '/' || c == '@')
      && (cs.find? fun c => c == ']' || c == '[') == some ']'

/-- A text with the backslash left out before each bracket that opens no tag. -/
def withoutEscapes : List Char → List Char
  | [] => []
  | '\\' :: '[' :: cs =>
    if opensTag cs then '\\' :: '[' :: withoutEscapes cs else '[' :: withoutEscapes cs
  | c :: cs => c :: withoutEscapes cs

/-- The number of backslashes at the end of a text. -/
def finalSlashes (cs : List Char) : Nat := (cs.reverse.takeWhile (· == '\\')).length

/-- What is shown of a text that the tag which ends a style follows: several backslashes before the tag
stand for half as many, and if their number is odd, the tag is part of the text. -/
def shownBefore (tag text : String) : String :=
  let cs := withoutEscapes text.toList
  let n := finalSlashes cs
  if n ≤ 1 then shownText cs
  else shownText (cs.take (cs.length - n) ++ List.replicate (n / 2) '\\')
    ++ if n % 2 = 0 then "" else tag

/-- What is shown of a text at the end of a line: a single backslash there is doubled. -/
def shownLast (text : String) : String :=
  let cs := withoutEscapes text.toList
  shownText cs ++ if finalSlashes cs = 1 then "\\" else ""

/-! ### Outcomes -/

/-- The line for a success. -/
def successLine (message : String) : Print := .line (shownBefore "[/success]" ("✔ " ++ message))

/-- The line for a failure. -/
def failureLine (message : String) : Print := .line (shownBefore "[/error]" ("✘ " ++ message))

/-- A line for what goes with a failure, unless it is empty. -/
def detailLine (label : String) (text : Option String) : List Print :=
  match text with
  | none | some "" => []
  | some s => [.line ("  " ++ label ++ ": " ++ shownLast s)]

/-- The lines for the failure of a link: its code and message, the statement and the remote text. -/
def linkFailure (fault : LinkFault) : List Print :=
  failureLine (fault.kind.code ++ ": " ++ fault.message) :: detailLine "SQL" fault.sql
    ++ detailLine "Remote" fault.remoteMessage

/-! ### Lines -/

/-- A cell set in a width. -/
def Side.place (side : Side) (width : Nat) (cell : String) : String :=
  let blanks := String.ofList (List.replicate (width - cell.length) ' ')
  match side with
  | left => cell ++ blanks
  | right => blanks ++ cell

/-- The lines of a sheet: the title, the names of the columns, and the rows. -/
def Sheet.lines (s : Sheet) : List String :=
  let rows := s.columns.map (·.1) :: s.rows
  let widths := s.columns.zipIdx.map fun (_, i) =>
    (rows.map fun row => (row[i]?.getD "").length).foldl max 0
  s.title :: rows.map fun row =>
    String.intercalate "  " (((s.columns.zip widths).zip row).map fun ((column, width), cell) =>
      column.2.place width cell)

/-- The lines of what is printed. -/
def Print.lines : Print → List String
  | line text => [text]
  | sheet s => s.lines

end LinkedTables.CommandLine
