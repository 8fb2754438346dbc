import LinkedTables.CommandLine.Run

/-!
# The program

Runs the words of the command line in the working directory and the environment of the process. No
remote driver is built in: every attempt to connect fails, so that what can be done without a
connection is done, and the rest ends in the failure to connect.
-/

namespace LinkedTables.CommandLine

open LinkedTables.Configuration

/-- The text of a file, if there is one that can be read. -/
def readFile? (path : String) : IO (Option String) := do
  try
    return some (← IO.FS.readFile path)
  catch _ =>
    return none

/-- The variables of the environment of the process. -/
def processVariables : IO Environment := do
  match ← readFile? "/proc/self/environ" with
  | none => return []
  | some s =>
    return (s.splitOn (String.singleton (Char.ofNat 0))).filterMap fun entry =>
      match splitValue entry.toList with
      | (name, some value) => some (name, value)
      | (_, none) => none

/-- The paths that words and variables may lead to. -/
def candidatePaths (words : List String) (env : Environment) : List String :=
  [".env", Settings.standard.linksPath] ++ words ++ words.map (".env." ++ ·)
    ++ (env.filter (·.1 == "LINKS_CONFIG")).map (·.2)

/-- The files at paths. -/
def filesAt (paths : List String) : IO Files := do
  let found ← paths.eraseDups.mapM fun path => do
    return (← readFile? path).map fun s => (path, s)
  return found.filterMap id

/-- The remote side when nothing can be reached. -/
def unreachable : Remote.Script :=
  let fault : Fault := .remote ⟨.general, "no remote driver is built in", none⟩
  { Remote.Script.quiet with connects := List.replicate 100 (some fault) }

/-- A host that cannot reach the remote side. -/
def unreachingHost (settings : Settings) : Host :=
  Host.start unreachable
    ⟨settings.shareSessions, settings.breakerFailMax, settings.breakerResetTimeout,
      settings.prePing, [], [], []⟩ .info

/-- The catalog of a remote side that holds nothing. -/
def emptyCatalog : Catalog where
  flags := Dialect.Flags.none
  journaled := false
  tables := fun _ _ => .ok []
  columns := fun _ _ => .ok []
  primaryKeys := fun _ _ => .ok []
  indexInfo := fun _ _ => .ok []

end LinkedTables.CommandLine

open LinkedTables LinkedTables.CommandLine LinkedTables.Configuration in
/-- Runs the words of the command line, prints what is to be printed and returns the code. -/
def main (words : List String) : IO UInt32 := do
  let env ← processVariables
  let directory := Path.ofText (← IO.currentDir).toString
  let workspace : Workspace := ⟨directory, ← filesAt (candidatePaths words env), env⟩
  let (ending, report) := run workspace unreachingHost (fun _ => emptyCatalog) words
  for line in report.printed.flatMap Print.lines do
    IO.println line
  match ending with
  | .exit code => return code.toUInt32
  | .usage fault =>
    IO.eprintln fault.message
    return 2
  | .fault fault =>
    IO.eprintln (fault.className ++ ": " ++ fault.text)
    return 1
