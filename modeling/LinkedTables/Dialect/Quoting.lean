import LinkedTables.Dialect.Reserved
import LinkedTables.Text.LetterCase

/-!
# Quoting of remote identifiers

A `Style` says how a dialect quotes identifiers and which ones it must quote. `Style.quote` leaves
a plain identifier alone and puts any other between the dialect's quotes, the closing one doubled
inside.
-/

namespace LinkedTables.Dialect

/-- How a dialect quotes identifiers. -/
structure Style where
  opening : Char
  closing : Char
  /-- A percent sign inside quotes is doubled. -/
  doublesPercent : Bool
  /-- An unquoted identifier may begin with an underscore. -/
  allowsUnderscore : Bool
  reserved : List String

namespace Style

/-- Double quotes and the words of standard SQL. -/
def standard : Style := ⟨'"', '"', false, true, standardReserved⟩

/-- The dialects with a style of their own. -/
def known : List (String × Style) :=
  [("sqlite", ⟨'"', '"', false, true, sqliteReserved⟩),
    ("mysql", ⟨'`', '`', true, true, mysqlReserved⟩),
    ("mariadb", ⟨'`', '`', true, true, mysqlReserved⟩),
    ("postgresql", ⟨'"', '"', true, true, postgresqlReserved⟩),
    ("oracle", ⟨'"', '"', false, false, oracleReserved⟩),
    ("mssql", ⟨'[', ']', false, true, sqlServerReserved⟩)]

/-- The style of a dialect; the standard one where there is no other. -/
def ofDialect (name : String) : Style :=
  ((known.find? (·.1 == name)).map (·.2)).getD standard

/-- The characters of a plain identifier. -/
def isPlain (c : Char) : Bool :=
  ('a' ≤ c && c ≤ 'z') || ('A' ≤ c && c ≤ 'Z') || ('0' ≤ c && c ≤ '9') || c == '_' || c == '$'

/-- The characters with which an unquoted identifier cannot begin. -/
def refusesFirst (style : Style) (c : Char) : Bool :=
  ('0' ≤ c && c ≤ '9') || c == '$' || (c == '_' && !style.allowsUnderscore)

/-- Whether an identifier has to be quoted. -/
def needsQuotes (style : Style) (name : String) : Bool :=
  let small := Text.lower name
  match name.toList with
  | [] => true
  | c :: cs =>
    style.reserved.contains small || style.refusesFirst c || !(c :: cs).all isPlain || small != name

/-- A character between the quotes. -/
def inside (style : Style) (c : Char) : List Char :=
  if c = style.closing || (c = '%' && style.doublesPercent) then [c, c] else [c]

/-- The identifier as it is written in a statement. -/
def quote (style : Style) (name : String) : String :=
  if style.needsQuotes name then
    String.ofList (style.opening :: name.toList.flatMap style.inside ++ [style.closing])
  else name

end Style

end LinkedTables.Dialect
