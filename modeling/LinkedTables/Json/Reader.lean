import LinkedTables.Json.Token
import LinkedTables.Roster

/-!
# Values from JSON text

`Json.read` gives the value that a JSON text writes, with the entries of a dictionary in the order
of the text; of several entries with one key the last counts, in the place of the first. The
containers that are still open stand on a stack, and each token is taken only where it may stand.
-/

namespace LinkedTables.Json

/-- A container that is still open; its items are kept the latest first. -/
inductive Frame where
  | list (items : List Value)
  | dict (entries : Ledger String Value) (key : Option String)
deriving Inhabited

/-- What may come next. -/
inductive Need where
  | value
  | valueOrClose
  | key
  | keyOrClose
  | colon
  | separator
  | nothing
deriving DecidableEq, Repr, Inhabited

/-- A text that has been read in part. -/
structure Reading where
  frames : List Frame
  need : Need
  result : Value
deriving Inhabited

/-- A value goes into the innermost open container, or is the result. -/
def Reading.place (r : Reading) (v : Value) : Option Reading :=
  if r.need ≠ .value ∧ r.need ≠ .valueOrClose then none
  else
    match r.frames with
    | [] => some ⟨[], .nothing, v⟩
    | .list items :: rest => some ⟨.list (v :: items) :: rest, .separator, r.result⟩
    | .dict entries (some key) :: rest =>
      some ⟨.dict (entries.put key v) none :: rest, .separator, r.result⟩
    | .dict _ none :: _ => none

/-- A new container is opened where a value may stand. -/
def Reading.openFrame (r : Reading) (frame : Frame) (need : Need) : Option Reading :=
  if r.need = .value ∨ r.need = .valueOrClose then
    some ⟨frame :: r.frames, need, r.result⟩
  else none

/-- The innermost container is complete. -/
def Reading.closeFrame (r : Reading) (v : Value) : Option Reading :=
  Reading.place ⟨r.frames.drop 1, .value, r.result⟩ v

/-- The reading after one more token. -/
def Reading.step (r : Reading) : Token → Option Reading
  | .value v => r.place v
  | .text s =>
    match r.need, r.frames with
    | .key, .dict entries _ :: rest | .keyOrClose, .dict entries _ :: rest =>
      some ⟨.dict entries (some s) :: rest, .colon, r.result⟩
    | _, _ => r.place (.text s)
  | .openList => r.openFrame (.list []) .valueOrClose
  | .openDict => r.openFrame (.dict [] none) .keyOrClose
  | .closeList =>
    match r.frames with
    | .list items :: _ =>
      if r.need = .separator ∨ r.need = .valueOrClose then r.closeFrame (.list items.reverse)
      else none
    | _ => none
  | .closeDict =>
    match r.frames with
    | .dict entries _ :: _ =>
      if r.need = .separator ∨ r.need = .keyOrClose then r.closeFrame (.dict entries) else none
    | _ => none
  | .comma =>
    match r.need, r.frames with
    | .separator, .list _ :: _ => some { r with need := .value }
    | .separator, .dict _ _ :: _ => some { r with need := .key }
    | _, _ => none
  | .colon => if r.need = .colon then some { r with need := .value } else none

/-- The value that a text writes. -/
def read (s : String) : Option Value := do
  let r ← (← tokens s.toList).foldlM Reading.step ⟨[], .value, .null⟩
  if r.need = .nothing then some r.result else none

end LinkedTables.Json
