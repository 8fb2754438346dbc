import LinkedTables.Text.Ranges

/-!
# Paths

A `Path` is where a file is: the root that it begins from, if it is absolute, and the names on the
way. A path has one text, whatever separators are doubled in the text it was read from.
-/

namespace LinkedTables.Configuration

/-- A path: its root, which is empty for a relative one, and the names on the way. -/
structure Path where
  root : String
  names : List String
deriving DecidableEq, Repr, Inhabited

namespace Path

/-- The root at the head of a text: one separator, or exactly two. -/
def rootOf (cs : List Char) : String :=
  match (cs.takeWhile (· == '/')).length with
  | 0 => ""
  | 2 => "//"
  | _ => "/"

/-- The path that a text names; empty names and the names of the place itself are left out. -/
def ofText (s : String) : Path :=
  ⟨rootOf s.toList,
    ((Text.pieces '/' s.toList).map String.ofList).filter fun name => !name.isEmpty && name != "."⟩

/-- The text of a path. -/
def text (p : Path) : String :=
  let s := p.root ++ String.intercalate "/" p.names
  if s.isEmpty then "." else s

/-- A path seen from a directory. -/
def below (directory p : Path) : Path :=
  if p.root.isEmpty then ⟨directory.root, directory.names ++ p.names⟩ else p

end Path

end LinkedTables.Configuration
