/-!
# Notices

What the program reports about its work: a text at a level.
-/

namespace LinkedTables

/-- The levels of notices. -/
inductive Level where
  | debug
  | info
  | warning
  | error
  | critical
deriving DecidableEq, Repr, Inhabited

namespace Level

/-- All levels, from the least on. -/
def all : List Level := [debug, info, warning, error, critical]

/-- The name of a level. -/
def name : Level → String
  | debug => "DEBUG"
  | info => "INFO"
  | warning => "WARNING"
  | error => "ERROR"
  | critical => "CRITICAL"

/-- The number of a level. -/
def number : Level → Nat
  | debug => 10
  | info => 20
  | warning => 30
  | error => 40
  | critical => 50

/-- The level with a number. -/
def ofNumber? (n : Int) : Option Level := all.find? fun level => (level.number : Int) == n

/-- The name for a number of any level, also of one that has no name of its own. -/
def nameOfNumber (n : Int) : String :=
  match ofNumber? n with
  | some level => level.name
  | none => if n = 0 then "NOTSET" else s!"Level {n}"

end Level

/-- A text at a level. -/
structure Notice where
  level : Level
  text : String
deriving DecidableEq, Repr, Inhabited

end LinkedTables
