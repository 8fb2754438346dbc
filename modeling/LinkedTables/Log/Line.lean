import LinkedTables.Json.Writer
import LinkedTables.Log.Template
import LinkedTables.Notice
import LinkedTables.Roster
import LinkedTables.Schema

/-!
# Log lines

A `Record` is what is logged at one moment. Its line is a JSON object: the time, the level, the name
of the logger and the message, then the link in whose name the work was done, if there is one, and
then what else the record carries.
-/

namespace LinkedTables.Log

/-- What is logged at one moment. -/
structure Record where
  logger : Value
  level : Value
  template : Value
  /-- The arguments of the template, if it has any. -/
  arguments : Option Arguments
  link : Value
  /-- What else the record carries, under names of the writer's choice. -/
  more : Schema.Entries
deriving Inhabited

namespace Record

/-- A record with a message made of a template and arguments. -/
def make (logger : String) (level : Int) (template : String) (arguments : List Value) : Record where
  logger := .text logger
  level := .text (Level.nameOfNumber level)
  template := .text template
  arguments := if arguments.isEmpty then none else some (Arguments.ofList arguments)
  link := .null
  more := []

/-- The names of what every record carries and no line shows under these names. -/
def reservedNames : List String :=
  ["asctime", "created", "exc_info", "exc_text", "filename", "funcName", "levelno", "lineno",
    "module", "msecs", "message", "pathname", "process", "processName", "relativeCreated",
    "stack_info", "thread", "threadName", "taskName"]

/-- The record with something more to carry. The names of its parts change these parts; names that
are reserved, or marked as private, show nowhere. -/
def carrying (r : Record) (name : String) (v : Value) : Record :=
  match name with
  | "name" => { r with logger := v }
  | "levelname" => { r with level := v }
  | "msg" => { r with template := v }
  | "args" => { r with arguments := if v.isTruthy then some (Arguments.single v) else none }
  | "link" => { r with link := v }
  | _ =>
    if reservedNames.contains name || name.front? == some '_' then r
    else { r with more := Ledger.put r.more name v }

/-- The message. -/
def message (r : Record) : Except Fault String :=
  match r.arguments with
  | none => .ok r.template.asText
  | some arguments => Template.fill r.template.asText arguments

/-- The entries of the line: what the record carries more goes behind the rest, unless it bears the
name of an entry, whose place it takes. -/
def entries (r : Record) (time : String) : Except Fault Schema.Entries := do
  let message ← r.message
  let own : Schema.Entries :=
    [("timestamp", .text time), ("level", r.level), ("name", r.logger), ("message", .text message)]
  let link : Schema.Entries := if r.link.isTruthy then [("link", r.link)] else []
  return r.more.foldl (fun entries (name, v) => Ledger.put entries name v) (own ++ link)

/-- The line of a record that is logged at a time. -/
def line (r : Record) (time : String) : Except Fault String := do
  return Json.write (.dict (← r.entries time))

end Record

end LinkedTables.Log
