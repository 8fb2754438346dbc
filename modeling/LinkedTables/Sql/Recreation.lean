import LinkedTables.Definition
import LinkedTables.Sql.Literal

/-!
# Statements that recreate a link

The statement that creates a linked table anew from its definition, and the one that drops it. The
link is created by force, so that this works while the remote side cannot be reached.
-/

namespace LinkedTables.Sql

/-- The mark that keeps the statement, which holds a password, out of listings. -/
def hideMark : String := "--hide--"

/-- A table of the local engine with its schema. -/
def tableName (schema name : String) : String := quotedName schema ++ "." ++ quotedName name

/-- The words for a temporary table. -/
def temporaryWords (d : Definition) : String :=
  if d.temporary then (if d.globalTemporary then "GLOBAL " else "LOCAL ") ++ "TEMPORARY " else ""

/-- The comment of a table. -/
def commentClause : Option String → String
  | none => ""
  | some comment => " COMMENT " ++ textLiteral (some comment)

/-- The arguments of a link: its target, the remote schema if it is not empty, and the table. -/
def linkArguments (d : Definition) : List (Option String) :=
  [d.driver, some d.url, d.user, d.password]
    ++ (match d.remoteSchema with
        | none => []
        | some schema => if schema.isEmpty then [] else [some schema])
    ++ [some d.remoteTable]

/-- The options behind the arguments. -/
def optionWords (d : Definition) : String :=
  (if d.emitUpdates then " EMIT UPDATES" else "")
    ++ (if d.readOnly then " READONLY" else "")
    ++ (if d.fetchSize ≠ 0 then s!" FETCH_SIZE {d.fetchSize}" else "")

/-- The statement that creates the table. -/
def creation (schema name : String) (d : Definition) : String :=
  "CREATE FORCE " ++ temporaryWords d ++ "LINKED TABLE " ++ tableName schema name
    ++ commentClause d.comment
    ++ "(" ++ ", ".intercalate ((linkArguments d).map textLiteral) ++ ")"
    ++ optionWords d ++ " /*" ++ hideMark ++ "*/"

/-- The statement that drops the table. -/
def dropping (schema name : String) : String :=
  "DROP TABLE IF EXISTS " ++ tableName schema name

end LinkedTables.Sql
