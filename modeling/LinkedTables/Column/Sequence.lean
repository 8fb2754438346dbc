/-!
# Sequences

Locally generated values of a column: `Sequence.draw` hands out the next value, and
`Sequence.observe` moves the sequence past a value that was given explicitly.
-/

namespace LinkedTables

/-- A sequence: the value it hands out next and the distance to the one after. -/
structure Sequence where
  next : Int
  increment : Int
deriving DecidableEq, Repr, Inhabited

namespace Sequence

/-- The next value, and the sequence after it. -/
def draw (s : Sequence) : Int × Sequence := (s.next, { s with next := s.next + s.increment })

/-- A value that the sequence has not passed in its direction. -/
def reaches (s : Sequence) (n : Int) : Bool :=
  (0 < s.increment && s.next ≤ n) || (s.increment < 0 && n ≤ s.next)

/-- The sequence moved past a value. -/
def observe (s : Sequence) (n : Int) : Sequence :=
  if s.reaches n then { s with next := n + s.increment } else s

end Sequence

end LinkedTables
