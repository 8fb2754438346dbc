import LinkedTables.Catalog.Probe

/-!
# The remote side

A `Script` holds the outcomes of the remote calls to come, one list for each kind of call. Each call
takes the first outcome of its list; where none is left, the call succeeds and reports nothing.
-/

namespace LinkedTables.Remote

/-- The rows with which a statement is answered, any of which may fail to be fetched. -/
structure Answer where
  rows : List (Except Fault (List Value))
  /-- While the statement runs, the command it belongs to is cancelled. -/
  cancels : Bool

instance : Inhabited Answer := ⟨⟨[], false⟩⟩

/-- The outcomes of the remote calls to come. -/
structure Script where
  /-- Making a connector for a target. -/
  connectors : List (Option Fault)
  /-- Connecting. -/
  connects : List (Option Fault)
  /-- Describing the result of a query without rows. -/
  probes : List (Except Fault (Option (List (List Value))))
  /-- Executing a statement. -/
  answers : List (Except Fault Answer)
  /-- Invalidating a connection. -/
  invalidations : List (Option Fault)
  /-- The type objects of the driver. -/
  typeObjects : Option TypeObjects

namespace Script

/-- Every call succeeds and reports nothing. -/
def quiet : Script := ⟨[], [], [], [], [], none⟩

instance : Inhabited Script := ⟨quiet⟩

/-- The outcome of making a connector. -/
def connector (s : Script) : Except Fault Unit × Script :=
  match s.connectors with
  | [] => (.ok (), s)
  | none :: rest => (.ok (), { s with connectors := rest })
  | some fault :: rest => (.error fault, { s with connectors := rest })

/-- The outcome of connecting. -/
def connect (s : Script) : Except Fault Unit × Script :=
  match s.connects with
  | [] => (.ok (), s)
  | none :: rest => (.ok (), { s with connects := rest })
  | some fault :: rest => (.error fault, { s with connects := rest })

/-- The outcome of a query without rows. -/
def probe (s : Script) : Except Fault (Option (List (List Value))) × Script :=
  match s.probes with
  | [] => (.ok (some []), s)
  | outcome :: rest => (outcome, { s with probes := rest })

/-- The outcome of executing a statement. -/
def execute (s : Script) : Except Fault Answer × Script :=
  match s.answers with
  | [] => (.ok default, s)
  | outcome :: rest => (outcome, { s with answers := rest })

/-- The outcome of invalidating a connection. -/
def invalidate (s : Script) : Except Fault Unit × Script :=
  match s.invalidations with
  | [] => (.ok (), s)
  | none :: rest => (.ok (), { s with invalidations := rest })
  | some fault :: rest => (.error fault, { s with invalidations := rest })

end Script

end LinkedTables.Remote
