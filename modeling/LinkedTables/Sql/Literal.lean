import LinkedTables.Text.Hex
import LinkedTables.Value

/-!
# Literals

Values and names as they are written in the statements of the local engine: texts in single quotes,
names in double ones, each with the quote doubled inside.
-/

namespace LinkedTables.Sql

/-- The characters of a text between quotes, each quote inside doubled. -/
def enclose (mark : Char) (cs : List Char) : List Char :=
  mark :: Text.replaceChar mark [mark, mark] cs ++ [mark]

/-- A text literal; nothing is null. -/
def textLiteral : Option String → String
  | none => "NULL"
  | some s => String.ofList (enclose '\'' s.toList)

/-- A name in double quotes. -/
def quotedName (name : String) : String := String.ofList (enclose '"' name.toList)

/-- A value as a literal. -/
def literal : Value → String
  | .null => "NULL"
  | .useDefault => "DEFAULT"
  | .bool b => if b then "TRUE" else "FALSE"
  | .int n => toString n
  | .float x => Number.floatText x
  | .decimal d => d.text
  | .bytes _ data => "X'" ++ Text.hexOfBytes data ++ "'"
  | .timestamp t => "TIMESTAMP '" ++ t.textWith ' ' ++ "'"
  | .date d => "DATE '" ++ d.text ++ "'"
  | .time t => "TIME '" ++ t.text ++ "'"
  | v => textLiteral (some v.asText)

/-- A statement with its numbered parameters, as it is traced for a table. -/
def trace (table sql : String) (params : List Value) : String :=
  let bound := params.zipIdx.map fun (v, i) => s!"{i + 1}: " ++ literal v
  let shown := if params.isEmpty then "" else " \x7b" ++ ", ".intercalate bound ++ "\x7d"
  table ++ ":\n" ++ sql ++ shown ++ ";"

end LinkedTables.Sql
