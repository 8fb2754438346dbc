import LinkedTables.Notice
import LinkedTables.Value
import LinkedTables.Fault

/-!
# Setting up the log

Where notices go and from which level on. Setting up the log puts one output, which knows in whose
name work is done, in the place of all others, and quiets the remote libraries.
-/

namespace LinkedTables.Log

/-- How the lines of an output are made. -/
inductive Layout where
  | none
  | plain
  | json
deriving DecidableEq, Repr, Inhabited

/-- An output of notices. -/
structure Output where
  /-- Whether the output writes anything. -/
  writes : Bool
  layout : Layout
  /-- The number of filters, which add what the layout needs to know. -/
  filters : Nat
deriving DecidableEq, Repr, Inhabited

/-- Where notices go. -/
structure Setup where
  /-- The name of the level from which on notices are written. -/
  level : String
  outputs : List Output
  /-- The levels from which on the remote libraries are heard. -/
  remoteLevels : List String
deriving DecidableEq, Repr, Inhabited

namespace Setup

/-- The names for levels and the levels they stand for. -/
def levelNames : List (String × String) :=
  [("CRITICAL", "CRITICAL"), ("FATAL", "CRITICAL"), ("ERROR", "ERROR"), ("WARN", "WARNING"),
    ("WARNING", "WARNING"), ("INFO", "INFO"), ("DEBUG", "DEBUG"), ("NOTSET", "NOTSET")]

/-- The level that a value stands for: a name in capitals, or a number. -/
def readLevel (v : Value) : Except Fault String :=
  match v with
  | .text s =>
    match levelNames.find? (·.1 == s) with
    | some (_, name) => .ok name
    | none => .error .malformed
  | .int n => .ok (Level.nameOfNumber n)
  | .bool b => .ok (if b then "Level " ++ v.shown else Level.nameOfNumber 0)
  | _ => .error .mismatch

/-- The outputs of a log that has been set up. -/
def outputsFor (json : Bool) : List Output := [⟨true, if json then .json else .plain, 1⟩]

/-- The log set up for a level, without which it begins with what is informative. -/
def make (level : Option Value) (json : Bool) : Except Fault Setup := do
  let level ← readLevel (level.getD (.text Level.info.name))
  return ⟨level, outputsFor json, [Level.warning.name, Level.warning.name]⟩

end Setup

end LinkedTables.Log
