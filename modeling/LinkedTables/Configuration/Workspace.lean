import LinkedTables.Configuration.Path
import LinkedTables.Configuration.Secrets
import LinkedTables.Configuration.Settings
import LinkedTables.Yaml.Node

/-!
# Workspaces

A `Workspace` is what the program finds around it: the directory in which it works, the files there
and the variables of the environment. `Workspace.links` gives the links that a file declares, with
the values of their references, and `Workspace.link` the one of a name.
-/

namespace LinkedTables.Configuration

/-- What the program finds around it. -/
structure Workspace where
  directory : Path
  files : Files
  env : Environment
deriving Inhabited

namespace Workspace

/-- The text of a file. -/
def read? (w : Workspace) (path : Path) : Option String :=
  (w.files.find? fun e => w.directory.below (Path.ofText e.1) == w.directory.below path).map (·.2)

/-- The path of the file that declares links, seen from a directory. -/
def linksPath (root : Path) (settings : Settings) : Path :=
  root.below (Path.ofText settings.linksPath)

/-- The links that a file declares, as they are written. -/
def declarations (w : Workspace) (path : Path) : Except Fault (List LinkConfig) :=
  match w.read? path with
  | none => .error (.missingFile ("Link config not found: " ++ path.text))
  | some s =>
    match Yaml.read s with
    | .error .unreadable => .error (.unreadableLinks path.text)
    | .error .badScalar => .error .malformed
    | .ok v =>
      match LinkFile.ofValue v with
      | .good file => .ok file.links
      | .bad faults => .error (.invalidLinks faults)

/-- The links that a file declares, with the values of their references. -/
def links (w : Workspace) (path : Path) : Except Fault (List LinkConfig) := do
  (← w.declarations path).mapM (LinkConfig.resolve (environmentProvider w.env))

/-- The first link of a name that a file declares. -/
def link (w : Workspace) (path : Path) (name : String) : Except Fault LinkConfig := do
  match (← w.links path).find? (·.name == name) with
  | some link => return link
  | none => throw (.unknownKey ("No link named '" ++ name ++ "' in " ++ path.text))

end Workspace

end LinkedTables.Configuration
