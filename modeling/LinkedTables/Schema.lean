import LinkedTables.Fault
import LinkedTables.Text.LetterCase

/-!
# Checked reading of fields

Structures are read from dictionaries of values. A `Checked` result is a value or the list of all
faults found; combining two results keeps the faults of both, so that every field is reported, in
the order in which the fields are read. The readers of single values accept the usual spellings:
numbers and truth values may also come as text.
-/

namespace LinkedTables

/-- A value, or everything that is wrong with its fields. -/
inductive Checked (α : Type) where
  | good (a : α)
  | bad (faults : List FieldFault)

namespace Checked

instance : Applicative Checked where
  pure := good
  seq f x :=
    match f, x () with
    | good g, good a => good (g a)
    | good _, bad faults => bad faults
    | bad faults, good _ => bad faults
    | bad faults, bad more => bad (faults ++ more)

/-- The faults found under a step belong to the paths that begin with it. -/
def under {α : Type} (step : Step) : Checked α → Checked α
  | good a => good a
  | bad faults => bad (faults.map fun f => { f with path := step :: f.path })

/-- The result with further faults. -/
def withFaults {α : Type} (faults : List FieldFault) (x : Checked α) : Checked α :=
  match x with
  | good a => if faults.isEmpty then good a else bad faults
  | bad found => bad (found ++ faults)

/-- The value, or the fault that lists all faults. -/
def toExcept {α : Type} : Checked α → Except Fault α
  | good a => .ok a
  | bad faults => .error (.invalidFields faults)

end Checked

namespace Schema

/-- The entries of a dictionary. -/
abbrev Entries := List (String × Value)

/-- Reads a value, or says what is wrong with it. -/
abbrev Reader (α : Type) := Value → Except String α

/-! ### Readers -/

/-- Texts. -/
def text : Reader String
  | .text s => .ok s
  | _ => .error "string_type"

/-- Secrets, which also come as texts. -/
def secret : Reader String
  | .text s | .secret s => .ok s
  | _ => .error "string_type"

/-- Null for nothing, and what a reader accepts. -/
def optional {α : Type} (read : Reader α) : Reader (Option α)
  | .null => .ok none
  | v => (read v).map some

/-- An integer given as a double: within 64 bits and without a fraction. -/
def wholeOfFloat (x : Float) : Except String Int :=
  match Number.FinitePart.of? x with
  | none => .error "finite_number"
  | some p =>
    if !p.isWhole then .error "int_from_float"
    else
      let n := p.truncated
      if -Int.pow 2 63 ≤ n ∧ n < Int.pow 2 63 then .ok n else .error "int_parsing_size"

/-- An integer given as text: white space around it, a sign, single underscores between digits,
and zeros behind a point. -/
def wholeOfText? (s : String) : Option Int := do
  let (negative, rest) := Number.Decimal.spanSign (Text.dropBoth Text.isSpace s.toList)
  let whole := rest.takeWhile (· != '.')
  let fraction := (rest.dropWhile (· != '.')).drop 1
  let digits ← Number.dropSeparators false whole
  let n ← Text.asciiNat? digits
  if fraction.all (· == '0') then some (if negative then -(n : Int) else n) else none

/-- Integers. -/
def whole : Reader Int
  | .bool b => .ok (if b then 1 else 0)
  | .int n => .ok n
  | .float x => wholeOfFloat x
  | .decimal (.finite negative c e) =>
    if 0 ≤ e || c % Nat.pow 10 (-e).toNat == 0 then .ok (Number.Decimal.truncated negative c e)
    else .error "int_from_float"
  | .decimal _ => .error "finite_number"
  | .text s =>
    match wholeOfText? s with
    | some n => .ok n
    | none => .error "int_parsing"
  | _ => .error "int_type"

/-- Integers from a bound on. -/
def wholeFrom (least : Nat) : Reader Nat := fun v => do
  let n ← whole v
  if n < least then .error "greater_than_equal" else .ok n.toNat

/-- The words for true and for false. -/
def truthOfWord? (word : String) : Option Bool :=
  if ["1", "true", "t", "yes", "y", "on"].contains word then some true
  else if ["0", "false", "f", "no", "n", "off"].contains word then some false
  else none

/-- One and zero as truth values. -/
def truthOfWhole (n : Int) : Except String Bool :=
  if n = 1 then .ok true else if n = 0 then .ok false else .error "bool_parsing"

/-- Truth values. -/
def truth : Reader Bool
  | .bool b => .ok b
  | .int n => if -Int.pow 2 63 ≤ n ∧ n < Int.pow 2 63 then truthOfWhole n else .error "bool_type"
  | .float x =>
    match wholeOfFloat x with
    | .ok n => truthOfWhole n
    | .error _ => .error "bool_type"
  | .text s =>
    match truthOfWord? (s.map Char.toLower) with
    | some b => .ok b
    | none => .error "bool_parsing"
  | _ => .error "bool_type"

/-- One of a list of named things. -/
def oneOf {α : Type} (find? : String → Option α) : Reader α
  | .text s =>
    match find? s with
    | some a => .ok a
    | none => .error "enum"
  | _ => .error "enum"

/-! ### Fields -/

/-- A value under a reader. -/
def check {α : Type} (read : Reader α) (v : Value) : Checked α :=
  match read v with
  | .ok a => .good a
  | .error problem => .bad [⟨[], problem⟩]

/-- The value of a field, if it is given. -/
def find? (entries : Entries) (name : String) : Option Value :=
  (entries.find? (·.1 == name)).map (·.2)

/-- A field that has to be given. -/
def required {α : Type} (entries : Entries) (name : String) (read : Reader α) : Checked α :=
  (match find? entries name with
    | some v => check read v
    | none => .bad [⟨[], "missing"⟩]).under (.field name)

/-- A field with a value for when it is not given. -/
def field {α : Type} (entries : Entries) (name : String) (default : α) (read : Reader α) :
    Checked α :=
  match find? entries name with
  | some v => (check read v).under (.field name)
  | none => .good default

/-- The items of a list, each read at its place. -/
def items {α : Type} (read : Value → Checked α) (vs : List Value) : Checked (List α) :=
  (vs.zipIdx.map fun (v, i) => (read v).under (.item i)).foldr
    (fun x xs => List.cons <$> x <*> xs) (.good [])

/-- The faults of the fields that are not among the known ones. -/
def strangers (entries : Entries) (known : List String) : List FieldFault :=
  (entries.filter fun e => !known.contains e.1).map fun e => ⟨[.field e.1], "extra_forbidden"⟩

end Schema

end LinkedTables
