/-!
# Parameter markers

Statements mark their parameters by `?`. Before a statement is sent, the markers outside quoted
segments are numbered in order as `:p1`, `:p2`, …, and the colons inside quoted segments are
escaped so that they name no parameter. A quoted segment runs from one of the three quotes to the
next occurrence of the same character, or to the end of the text.
-/

namespace LinkedTables.Sql

/-- The characters that open a quoted segment. -/
def opensQuote (c : Char) : Bool := c == '\'' || c == '"' || c == '`'

/-- The name under which a parameter is bound. -/
def parameterName (i : Nat) : String := s!"p{i}"

/-- Numbers the markers in the rest of a text: `quote` is the quote that is open, if any, and `count`
the number of markers met before. -/
def numberFrom (quote : Option Char) (count : Nat) : List Char → List Char × Nat
  | [] => ([], count)
  | c :: cs =>
    match quote with
    | some mark =>
      -- No quote is a colon, so that one never closes the segment.
      if c = ':' then
        let (rest, n) := numberFrom (some mark) count cs
        ('\\' :: ':' :: rest, n)
      else
        let (rest, n) := numberFrom (if c = mark then none else some mark) count cs
        (c :: rest, n)
    | none =>
      if opensQuote c then
        let (rest, n) := numberFrom (some c) count cs
        (c :: rest, n)
      else if c = '?' then
        let (rest, n) := numberFrom none (count + 1) cs
        (':' :: (parameterName (count + 1)).toList ++ rest, n)
      else
        let (rest, n) := numberFrom none count cs
        (c :: rest, n)

/-- The statement as it is sent, and the number of its parameters. -/
def numberMarkers (sql : String) : String × Nat :=
  let (cs, n) := numberFrom none 0 sql.toList
  (String.ofList cs, n)

end LinkedTables.Sql
