/-!
# Characters by ranges

A set of characters given as closed ranges of code points, and the texts that are cut out by
such a set: `dropBoth` removes the members of a set from both ends of a text.
-/

namespace LinkedTables.Text

/-- Whether a code point lies in one of the closed ranges. -/
def inRanges (ranges : Array (Nat × Nat)) (n : Nat) : Bool :=
  ranges.any fun r => r.1 ≤ n && n ≤ r.2

/-- The text without the characters of a class at either end. -/
def dropBoth (cls : Char → Bool) (cs : List Char) : List Char :=
  ((cs.dropWhile cls).reverse.dropWhile cls).reverse

/-- Whether the text `p` begins `cs`; the rest of `cs` after it. -/
def afterPrefix? : List Char → List Char → Option (List Char)
  | [], cs => some cs
  | _ :: _, [] => none
  | p :: ps, c :: cs => if p = c then afterPrefix? ps cs else none

@[simp] theorem afterPrefix?_append (p cs : List Char) : afterPrefix? p (p ++ cs) = some cs := by
  induction p with
  | nil => rfl
  | cons c p ih => simp [afterPrefix?, ih]

/-- The text before the first character of a class, and the text after that character, if there
is one. -/
def splitFirst? (cls : Char → Bool) : List Char → Option (List Char × List Char)
  | [] => none
  | c :: cs => if cls c then some ([], cs) else (splitFirst? cls cs).map fun (a, b) => (c :: a, b)

/-- The pieces of a text between the occurrences of a character: one more than there are
occurrences. -/
def pieces (sep : Char) : List Char → List (List Char)
  | [] => [[]]
  | c :: cs =>
    if c = sep then [] :: pieces sep cs
    else match pieces sep cs with
      | [] => [[c]]
      | p :: ps => (c :: p) :: ps

/-- The text with every occurrence of one character replaced by a text. -/
def replaceChar (old : Char) (new : List Char) (cs : List Char) : List Char :=
  cs.flatMap fun c => if c = old then new else [c]

end LinkedTables.Text
