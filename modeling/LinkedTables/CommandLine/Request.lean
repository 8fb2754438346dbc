import LinkedTables.CommandLine.Options

/-!
# Requests on the command line

The words of a command line ask for one `Task`, done to a `Target`: the remote table that an address
and a name give, or a link that a file declares. Before the task come the options for all of them.
-/

namespace LinkedTables.CommandLine

/-- What can be done to a linked table. -/
inductive Task where
  /-- Show the columns and the indexes. -/
  | inspect
  /-- Show the statements that create and drop the table. -/
  | ddl
  /-- Count the rows. -/
  | count
deriving DecidableEq, Repr, Inhabited

namespace Task

/-- All tasks. -/
def all : List Task := [inspect, ddl, count]

/-- The name of a task. -/
def name : Task → String
  | inspect => "inspect"
  | ddl => "ddl"
  | count => "count"

/-- The task with a name. -/
def ofName? (s : String) : Option Task := all.find? (·.name == s)

end Task

/-- Which table a task is done to. -/
structure Target where
  name : Option String
  config : Option String
  url : Option String
  table : Option String
  schema : Option String
deriving DecidableEq, Repr, Inhabited

/-- What stands before the task, and what follows it. -/
structure Request where
  env : Option String
  verbose : Bool
  task : Task
  rest : List String
deriving DecidableEq, Repr, Inhabited

/-- The result of reading words: what they ask for, or that they ask for help. -/
inductive Reading (α : Type) where
  | asked (a : α)
  | help
deriving DecidableEq, Repr, Inhabited

namespace Request

/-- The options for all tasks. -/
def switches : List Switch := [⟨["--env", "-e"], true⟩, ⟨["--verbose", "-v"], false⟩, helpSwitch]

/-- Reads the words up to the task. -/
def read (words : List String) : Except UsageFault (Reading Request) := do
  let found ← scan switches false words
  if words.isEmpty || found.has "--help" then return .help
  match found.plain with
  | [] => throw .missingCommand
  | name :: rest =>
    match Task.ofName? name with
    | some task => return .asked ⟨found.value? "--env", found.has "--verbose", task, rest⟩
    | none => throw (.noSuchCommand name)

end Request

namespace Target

/-- The options of a task. -/
def switches : List Switch :=
  [⟨["--config"], true⟩, ⟨["--url"], true⟩, ⟨["--table"], true⟩, ⟨["--schema"], true⟩, helpSwitch]

/-- Reads the words behind the task. -/
def read (words : List String) : Except UsageFault (Reading Target) := do
  let found ← scan switches true words
  if found.has "--help" then return .help
  match found.plain with
  | _ :: w :: ws => throw (.strayWords (w :: ws))
  | plain =>
    return .asked ⟨plain.head?, found.value? "--config", found.value? "--url",
      found.value? "--table", found.value? "--schema"⟩

end Target

end LinkedTables.CommandLine
