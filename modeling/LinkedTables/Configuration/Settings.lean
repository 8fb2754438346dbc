import LinkedTables.Configuration.EnvFile
import LinkedTables.Schema

/-!
# Settings

The settings of the program come from arguments, from the environment and from a file, in this
order of precedence. The names of variables are told apart without regard to letter case.
-/

namespace LinkedTables.Configuration

open Schema

/-- The settings of the program. -/
structure Settings where
  /-- The rows fetched at a time for new tables; zero leaves it to the remote side. -/
  defaultFetchSize : Nat
  /-- Tables of one target share a session. -/
  shareSessions : Bool
  /-- Connections are tested before they are handed out. -/
  prePing : Bool
  /-- The failures in a row that open a breaker. -/
  breakerFailMax : Nat
  /-- The seconds that a breaker stays open. -/
  breakerResetTimeout : Nat
  /-- The path of the file that declares links. -/
  linksPath : String
  logLevel : String
  logJson : Bool
deriving DecidableEq, Repr

namespace Settings

/-- The settings when nothing is given. -/
def standard : Settings := ⟨0, false, true, 5, 30, "configs/links.yaml", "INFO", false⟩

instance : Inhabited Settings := ⟨standard⟩

/-- The settings by name. -/
def toFields (s : Settings) : Entries :=
  [("default_fetch_size", .int s.defaultFetchSize), ("share_linked_sessions", .bool s.shareSessions),
    ("pool_pre_ping", .bool s.prePing), ("breaker_fail_max", .int s.breakerFailMax),
    ("breaker_reset_timeout", .int s.breakerResetTimeout),
    ("links_config_path", .text s.linksPath), ("log_level", .text s.logLevel),
    ("log_json", .bool s.logJson)]

/-- The variable with a name, told without regard to letter case; of several the last. -/
def lookup? (env : Environment) (name : String) : Option String :=
  (env.reverse.find? fun (n, _) => Text.lower n == Text.lower name).map (·.2)

/-- What is given for the settings, by name: by the arguments, else by the environment, else by the
file. -/
def sources (names : List String) (arguments : Entries) (env file : Environment) : Entries :=
  names.filterMap fun name =>
    match Schema.find? arguments name with
    | some v => some (name, v)
    | none =>
      match lookup? env name <|> lookup? file name with
      | some s => some (name, .text s)
      | none => none

/-- The names of the settings. -/
def names : List String :=
  ["LINK_FETCH_SIZE", "SHARE_LINKED_SESSIONS", "LINK_POOL_PRE_PING", "LINK_BREAKER_FAIL_MAX",
    "LINK_BREAKER_RESET_TIMEOUT", "LINKS_CONFIG", "LOG_LEVEL", "LOG_JSON"]

/-- Reads the settings that are given by name. -/
def ofFields (entries : Entries) : Checked Settings :=
  Settings.mk
    <$> field entries "LINK_FETCH_SIZE" standard.defaultFetchSize (wholeFrom 0)
    <*> field entries "SHARE_LINKED_SESSIONS" standard.shareSessions truth
    <*> field entries "LINK_POOL_PRE_PING" standard.prePing truth
    <*> field entries "LINK_BREAKER_FAIL_MAX" standard.breakerFailMax (wholeFrom 1)
    <*> field entries "LINK_BREAKER_RESET_TIMEOUT" standard.breakerResetTimeout (wholeFrom 0)
    <*> field entries "LINKS_CONFIG" standard.linksPath text
    <*> field entries "LOG_LEVEL" standard.logLevel text
    <*> field entries "LOG_JSON" standard.logJson truth

/-- Reads the settings from all sources. -/
def read (arguments : Entries) (env file : Environment) : Checked Settings :=
  ofFields (sources names arguments env file)

end Settings

/-! ### Files and environments -/

/-- The files that can be read, by path. -/
abbrev Files := Ledger String String

/-- The variables that a file gives in an environment; a file that is not there gives none. -/
def variablesOf (files : Files) (env : Environment) (path : String) : Environment :=
  match files.value? path with
  | some s => EnvFile.read env s
  | none => []

/-- The settings for an environment and the file next to it. -/
def Settings.load (arguments : Entries) (env : Environment) (files : Files) : Checked Settings :=
  read arguments env (variablesOf files env ".env")

/-- The environment with the variables of another on top. -/
def Environment.overlaid (env top : Environment) : Environment :=
  top.foldl (fun env (name, value) => env.put name value) env

/-- The environment with the variables of a named one loaded; without a name it stays. -/
def environmentFor (name : String) (env : Environment) (files : Files) : Environment :=
  if name.isEmpty then env else Environment.overlaid env (variablesOf files env (".env." ++ name))

/-- The settings after a named environment has been loaded; without a name they stay. -/
def Settings.reload (settings : Settings) (name : String) (env : Environment) (files : Files) :
    Except Fault Settings :=
  if name.isEmpty then .ok settings
  else (Settings.load [] (environmentFor name env files) files).toExcept

end LinkedTables.Configuration
