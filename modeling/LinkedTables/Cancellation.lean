import LinkedTables.Fault

/-!
# Cancellation

A command asks between its steps whether it has been cancelled, and ends if it has.
-/

namespace LinkedTables.Cancellation

/-- The fault of a command that has been cancelled. -/
def fault : Fault :=
  .link (.plain .queryCancelled "Statement was canceled or the session timed out")

/-- Ends a command that has been cancelled. -/
def check (requested : Bool) : Except Fault Unit := if requested then .error fault else .ok ()

end LinkedTables.Cancellation
