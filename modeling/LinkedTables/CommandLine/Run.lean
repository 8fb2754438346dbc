import LinkedTables.CommandLine.Page
import LinkedTables.CommandLine.Request
import LinkedTables.Configuration.Workspace
import LinkedTables.Host.Operation

/-!
# Running a request

`run` does what the words of a command line ask for, on a host that is made once the settings are
known. It says how the program ends, what it prints, how it sets up the log, and what becomes of the
host.
-/

namespace LinkedTables.CommandLine

open LinkedTables.Configuration

/-- How a run ends: with a code, with words that make no sense, or with a fault that no message is
printed for. -/
inductive Ending where
  | exit (code : Nat)
  | usage (fault : UsageFault)
  | fault (fault : Fault)
deriving Inhabited

/-- What a run leaves behind. -/
structure Report where
  host : Host
  printed : List Print
  /-- How the log was set up: from which level on, and whether as JSON. -/
  logging : List (String × Bool)
deriving Inhabited

/-- A run that may end before it is through. -/
abbrev Run (α : Type) := ExceptT Ending (StateM Report) α

namespace Run

/-- Prints. -/
def print (prints : List Print) : Run Unit :=
  modify fun report => { report with printed := report.printed ++ prints }

/-- Ends with a code. -/
def exit {α : Type} (code : Nat) : Run α := throw (.exit code)

/-- Goes on with what the words ask for. -/
def understood {α : Type} (r : Except UsageFault (Reading α)) : Run α :=
  match r with
  | .ok (.asked a) => return a
  | .ok .help => exit 0
  | .error fault => throw (.usage fault)

/-- Does an operation on the host. -/
def attempt (operation : Operation) : Run (Except Fault Reply) := do
  let (r, host) := (← get).host.perform operation
  modify fun report => { report with host }
  return r

/-- What comes of faults that are printed: a failure of the link has its code, and ends the run. -/
def orPrinted {α : Type} (cleanUp : Run Unit) (r : Except Fault α) : Run α :=
  match r with
  | .ok a => return a
  | .error (.link fault) => do
    print (linkFailure fault)
    cleanUp
    exit 1
  | .error fault => throw (.fault fault)

/-- Does something and cleans up, however it ends. -/
def andThen {α : Type} (x : Run α) (cleanUp : Run Unit) : Run α := do
  let r ← ExceptT.lift x.run
  cleanUp
  MonadExcept.ofExcept r

/-- Closes the pool. -/
def closePool : Run Unit := do
  let _ ← attempt .closePool

/-! ### The target -/

/-- The name for a table that none is given for: its own in capitals, or that of a query. -/
def standardName (table : String) : String :=
  if table.toList.head? = some '(' then "QUERY" else Text.upper table

/-- The definition of a remote table that is given by its address. -/
def definitionAt (url table : String) (schema : Option String) : Definition where
  driver := none
  url := url
  user := none
  password := none
  remoteSchema := schema
  remoteTable := table
  emitUpdates := false
  force := false
  readOnly := false
  fetchSize := 0
  temporary := false
  globalTemporary := false
  comment := none

/-- A text that is given and not empty. -/
def given (s : Option String) : Option String := s.filter fun s => !s.isEmpty

/-- Faults of files, links and references, which are told in a line. -/
def isTold : Fault → Bool
  | .missingFile _ | .unknownKey _ | .missingKey => true
  | fault => fault.isBadValue

/-- The name, the schema and the definition of the table that is meant. -/
def resolve (w : Workspace) (settings : Settings) (target : Target) :
    Run (String × String × Definition) :=
  match given target.url, given target.table with
  | some url, some table =>
    return ((given target.name).getD (standardName table), LinkConfig.standardSchema,
      definitionAt url table target.schema)
  | _, _ =>
    match given target.name with
    | none => throw (.usage .noTarget)
    | some name =>
      let path := (target.config.map Path.ofText).getD (Workspace.linksPath w.directory settings)
      match w.link path name with
      | .ok link => return (link.name, link.schema, link.definition)
      | .error fault =>
        if isTold fault then do
          print [failureLine fault.text]
          exit 1
        else throw (.fault fault)

/-! ### The tasks -/

/-- Does a task to a table. -/
def perform (task : Task) (t : Nat) : Run Unit := do
  let table := (← get).host.table t
  match task with
  | .inspect => print [.sheet (columnSheet table), .sheet (indexSheet table)]
  | .ddl =>
    match table.creation with
    | .ok s => print [.line s, .line table.dropping]
    | .error fault => throw (.fault fault)
  | .count =>
    match ← orPrinted (pure ()) (← attempt (.rowCount t none)) with
    | .number n => print [successLine s!"{table.qualifiedName}: {n} rows"]
    | _ => pure ()

/-- Opens the table that is meant, does a task to it, and closes it with the pool. -/
def serve (w : Workspace) (settings : Settings) (hostFor : Settings → Host)
    (catalogFor : Definition → Catalog) (task : Task) (target : Target) : Run Unit := do
  let (name, schema, d) ← resolve w settings target
  modify fun report => { report with host := hostFor settings }
  let table :=
    LinkedTable.unconnected schema 0 name d settings.defaultFetchSize [catalogFor d]
  match ← orPrinted closePool (← attempt (.createTable table)) with
  | .table t =>
    andThen (perform task t) do
      let _ ← attempt (.closeLink t)
      closePool
  | _ => pure ()

/-- The level from which on notices are logged. -/
def logLevel (settings : Settings) (verbose : Bool) : String :=
  if verbose then Level.debug.name else settings.logLevel

/-- Does what words ask for. -/
def answer (w : Workspace) (hostFor : Settings → Host) (catalogFor : Definition → Catalog)
    (words : List String) : Run Unit := do
  let request ← understood (Request.read words)
  let settings ← match Settings.standard.reload (request.env.getD "") w.env w.files with
    | .ok settings => pure settings
    | .error fault => throw (.fault fault)
  let w := { w with env := environmentFor (request.env.getD "") w.env w.files }
  modify fun report => { report with
    logging := report.logging ++ [(logLevel settings request.verbose, settings.logJson)] }
  let target ← understood (Target.read request.rest)
  serve w settings hostFor catalogFor request.task target

end Run

/-- Runs the words of a command line. -/
def run (w : Workspace) (hostFor : Settings → Host) (catalogFor : Definition → Catalog)
    (words : List String) : Ending × Report :=
  let (r, report) := (Run.answer w hostFor catalogFor words).run.run
    ⟨hostFor Settings.standard, [], []⟩
  (match r with
    | .ok () => .exit 0
    | .error ending => ending, report)

end LinkedTables.CommandLine
