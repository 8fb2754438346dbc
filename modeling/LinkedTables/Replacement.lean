/-!
# Replacing rows

The generic way to replace rows: all old rows are removed before any new row is added, so that new
rows may bear the keys of old ones. Before each change it is asked whether to go on, and behind each
change that succeeded it is recorded.
-/

namespace LinkedTables

/-- What is needed to replace the rows of a table. -/
structure RowStore (m : Type → Type) (ρ : Type) where
  /-- Ends the work if it is to go on no further. -/
  proceed : m Unit
  remove : ρ → m Unit
  add : ρ → m Unit
  recordRemoved : ρ → m Unit
  recordAdded : ρ → m Unit

/-- Replaces rows, given as pairs of the old and the new one. -/
def RowStore.replace {m : Type → Type} [Monad m] {ρ : Type} (store : RowStore m ρ)
    (pairs : List (ρ × ρ)) : m Unit := do
  pairs.forM fun (old, _) => do
    store.proceed
    store.remove old
    store.recordRemoved old
  pairs.forM fun (_, new) => do
    store.proceed
    store.add new
    store.recordAdded new

end LinkedTables
