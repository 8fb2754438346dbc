import LinkedTables.Column.Type
import LinkedTables.Number.Rounded

/-!
# Message templates

A template is a text with directives, each of which stands for an argument: a percent sign, the key
of the argument in parentheses, flags, a width, a precision and the letter of a conversion, of
which only the first and the last are required. Two percent signs stand for one. `Template.fill` puts the arguments in. They are
taken in their order; a template with keys has one argument, a dictionary. Every argument must be
used, unless it can be asked for its parts.
-/

namespace LinkedTables.Log

open Number

/-! ### Directives -/

/-- A width or a precision: absent, given, or taken from the arguments. -/
inductive Extent where
  | absent
  | given (n : Nat)
  | fromArgument
deriving DecidableEq, Repr, Inhabited

/-- A directive of a template. -/
structure Directive where
  /-- The key of the argument, up to the parenthesis that closes it, and whether there is one. -/
  key : Option (String × Bool)
  flags : List Char
  width : Extent
  /-- The precision; a point without a number stands for zero. -/
  precision : Extent
  /-- The letter of the conversion, unless the text ends before it. -/
  conversion : Option Char
deriving DecidableEq, Repr, Inhabited

/-- A part of a template. -/
inductive Piece where
  | plain (c : Char)
  | directive (d : Directive)
deriving DecidableEq, Repr, Inhabited

namespace Template

/-- The characters that change how a value is set. -/
def isFlag (c : Char) : Bool := c == '-' || c == '+' || c == ' ' || c == '#' || c == '0'

/-- The letters that say how long a number is, which makes no difference. -/
def isLengthMark (c : Char) : Bool := c == 'h' || c == 'l' || c == 'L'

/-- The plain digits. -/
def isDigit (c : Char) : Bool := '0' ≤ c && c ≤ '9'

/-- A key up to the parenthesis that closes it, the parentheses within counted; `depth` of them
are open. -/
def readKey (depth : Nat) : List Char → (List Char × Bool) × List Char
  | [] => (([], false), [])
  | c :: cs =>
    if c = ')' ∧ depth = 0 then (([], true), cs)
    else
      let depth := if c = '(' then depth + 1 else if c = ')' then depth - 1 else depth
      let ((key, closed), rest) := readKey depth cs
      ((c :: key, closed), rest)

/-- A width or precision at the head of a text. -/
def readExtent (cs : List Char) : Extent × List Char :=
  match cs with
  | '*' :: rest => (.fromArgument, rest)
  | _ =>
    let ds := cs.takeWhile isDigit
    let n := ds.foldl (fun n c => 10 * n + (c.toNat - '0'.toNat)) 0
    (if ds.isEmpty then .absent else .given n, cs.dropWhile isDigit)

/-- A precision at the head of a text. -/
def readPrecision (cs : List Char) : Extent × List Char :=
  match cs with
  | '.' :: rest =>
    match readExtent rest with
    | (.absent, rest) => (.given 0, rest)
    | r => r
  | _ => (.absent, cs)

/-- A directive, without its percent sign, at the head of a text. -/
def readDirective (cs : List Char) : Directive × List Char :=
  let (key, cs) := match cs with
    | '(' :: rest =>
      let ((key, closed), rest) := readKey 0 rest
      (some (String.ofList key, closed), rest)
    | _ => (none, cs)
  let flags := cs.takeWhile isFlag
  let (width, cs) := readExtent (cs.dropWhile isFlag)
  let (precision, cs) := readPrecision cs
  let cs := match cs with
    | c :: rest => if isLengthMark c then rest else cs
    | [] => []
  (⟨key, flags, width, precision, cs.head?⟩, cs.tail)

/-- The pieces of a text, in which two percent signs stand for one; `fuel` bounds its length. -/
def piecesFrom : Nat → List Char → List Piece
  | 0, _ => []
  | _, [] => []
  | fuel + 1, '%' :: '%' :: cs => .plain '%' :: piecesFrom fuel cs
  | fuel + 1, '%' :: cs =>
    let (d, rest) := readDirective cs
    .directive d :: piecesFrom fuel rest
  | fuel + 1, c :: cs => .plain c :: piecesFrom fuel cs

/-- The pieces of a template. -/
def pieces (template : String) : List Piece := piecesFrom template.length template.toList

end Template

/-! ### Arguments -/

/-- The arguments of a template: those still to be taken, and the one that has parts. -/
structure Arguments where
  remaining : List Value
  whole : Option Value
deriving Inhabited

namespace Arguments

/-- Arguments one after another. -/
def several (vs : List Value) : Arguments := ⟨vs, none⟩

/-- Whether a value has parts that can be asked for. -/
def hasParts : Value → Bool
  | .list _ | .dict _ | .bytes .. => true
  | _ => false

/-- A single argument, which may have parts. -/
def single (v : Value) : Arguments := ⟨[v], if hasParts v then some v else none⟩

/-- The arguments of a record: a single dictionary with entries is asked for its parts. -/
def ofList (vs : List Value) : Arguments :=
  match vs with
  | [.dict (e :: es)] => single (.dict (e :: es))
  | _ => several vs

end Arguments

/-- What reads the arguments of a template. -/
abbrev Filler (α : Type) := StateT Arguments (Except Fault) α

namespace Filler

/-- The next argument. -/
def next : Filler Value := do
  match (← get).remaining with
  | [] => throw .mismatch
  | v :: vs =>
    modify fun arguments => { arguments with remaining := vs }
    return v

/-- Goes on with the part that a key asks for. -/
def select (key : String) (closed : Bool) : Filler Unit := do
  match (← get).whole with
  | none => throw .mismatch
  | some whole =>
    if !closed then throw .malformed
    match whole with
    | .dict entries =>
      match entries.find? (·.1 == key) with
      | some (_, v) => modify fun arguments => { arguments with remaining := [v] }
      | none => throw .missingKey
    | _ => throw .mismatch

/-- A width or precision below a limit, which may be an argument. -/
def extent? (limit : Nat) : Extent → Filler (Option Int)
  | .absent => return none
  | .given n => if n < limit then return some n else throw .malformed
  | .fromArgument => do
    match ← next with
    | .int n =>
      if n < limit ∧ -(limit : Int) ≤ n then return some n else throw .overflow
    | .bool b => return some (if b then 1 else 0)
    | _ => throw .mismatch

end Filler

/-! ### Conversions -/

/-- How a value is set: on which side, in which width and with which signs. -/
structure Setting where
  flags : List Char
  width : Nat
  precision : Option Nat
deriving DecidableEq, Repr, Inhabited

namespace Setting

/-- A value set within the width: the sign and the mark of a base before its digits, the digits
filled up on the left with zeros or blanks. -/
def place (s : Setting) (sign mark digits : List Char) (numeric : Bool) : List Char :=
  let body := sign ++ mark ++ digits
  let missing := s.width - body.length
  if s.flags.contains '-' then body ++ List.replicate missing ' '
  else if numeric && s.flags.contains '0' then
    sign ++ mark ++ List.replicate missing '0' ++ digits
  else List.replicate missing ' ' ++ body

/-- The sign of a number. -/
def sign (s : Setting) (negative : Bool) : List Char :=
  if negative then ['-']
  else if s.flags.contains '+' then ['+']
  else if s.flags.contains ' ' then [' ']
  else []

/-- A text, cut off at the precision. -/
def placeText (s : Setting) (text : String) : List Char :=
  s.place [] [] (match s.precision with
    | some n => text.toList.take n
    | none => text.toList) false

end Setting

/-- The integer that a number stands for, its fraction cut off. -/
def wholeNumber (v : Value) : Except Fault Int :=
  match v with
  | .bool b => .ok (if b then 1 else 0)
  | .int n => .ok n
  | .float x =>
    match FinitePart.of? x with
    | some p => .ok p.truncated
    | none => .error (if x.isNaN then .malformed else .overflow)
  | .decimal _ => ColumnType.toWhole v
  | _ => .error .mismatch

/-- The integer that a value is. -/
def integer (v : Value) : Except Fault Int :=
  match v with
  | .bool _ | .int _ => wholeNumber v
  | _ => .error .mismatch

/-- The double that a number stands for. -/
def double (v : Value) : Except Fault Float :=
  match v with
  | .bool _ | .int _ | .float _ | .decimal _ => ColumnType.toApproximate v
  | _ => .error .mismatch

/-- The plain capital for a small letter. -/
def capitals (cs : List Char) : List Char := cs.map Char.toUpper

/-- A text with an escape for every character that is not plain. -/
def plainShown (text : String) : String :=
  String.ofList (text.toList.flatMap fun c =>
    if c.toNat < 128 then [c] else Text.codeEscape c.toNat)

/-- The text of a value, as it shows itself. -/
def shownText (v : Value) : Except Fault String := ColumnType.orMalformed v.shown?

/-- An integer in a base, with as many digits as the precision asks for. -/
def Setting.placeInteger (s : Setting) (base : Nat) (mark : List Char) (n : Int) : List Char :=
  let ds := Nat.toDigits base n.natAbs
  let ds := List.replicate ((s.precision.getD 0) - ds.length) '0' ++ ds
  s.place (s.sign (n < 0)) (if s.flags.contains '#' then mark else []) ds true

/-- A double in the layout that a small letter names. -/
def Setting.placeDouble (s : Setting) (letter : Char) (x : Float) : List Char :=
  let places := s.precision.getD 6
  let keepPoint := s.flags.contains '#'
  let digits := match FinitePart.of? x with
    | none => if x.isNaN then ['n', 'a', 'n'] else ['i', 'n', 'f']
    | some p =>
      match letter with
      | 'e' => p.scientificText places keepPoint
      | 'f' => p.fixedText places keepPoint
      | _ => p.generalText places keepPoint
  s.place (s.sign (signBit x && !x.isNaN)) [] digits true

/-- A character given by itself or by its code. -/
def character (v : Value) : Except Fault Char :=
  match v with
  | .text s =>
    match s.toList with
    | [c] => .ok c
    | _ => .error .mismatch
  | _ => do
    let n ← integer v
    if n < 0 ∨ 0x10FFFF < n then .error .overflow else .ok (Char.ofNat n.toNat)

/-- A value as the letter of a conversion asks for it. -/
def convert (s : Setting) (letter : Char) (v : Value) : Except Fault (List Char) :=
  match letter with
  | 's' => do return s.placeText (← ColumnType.orMalformed v.asText?)
  | 'r' => do return s.placeText (← shownText v)
  | 'a' => do return s.placeText (plainShown (← shownText v))
  | 'd' | 'i' | 'u' => do
    let n ← wholeNumber v
    let _ ← ColumnType.orMalformed (intText? n)
    return s.placeInteger 10 [] n
  | 'o' => do return s.placeInteger 8 ['0', 'o'] (← integer v)
  | 'x' => do return s.placeInteger 16 ['0', 'x'] (← integer v)
  | 'X' => do return capitals (s.placeInteger 16 ['0', 'x'] (← integer v))
  | 'e' | 'f' | 'g' => do return s.placeDouble letter (← double v)
  | 'E' | 'F' | 'G' => do return capitals (s.placeDouble letter.toLower (← double v))
  | 'c' => do return s.placeText (String.ofList [← character v])
  | _ => .error .malformed

namespace Filler

/-- No width reaches this size. -/
def widthLimit : Nat := Nat.pow 2 63

/-- No precision reaches this size. -/
def precisionLimit : Nat := Nat.pow 2 31

/-- The text for a directive. -/
def directive (d : Directive) : Filler (List Char) := do
  if let some (key, closed) := d.key then select key closed
  let width := (← extent? widthLimit d.width).getD 0
  let precision ← extent? precisionLimit d.precision
  let flags := if width < 0 then '-' :: d.flags else d.flags
  match d.conversion with
  | none => throw .malformed
  | some letter =>
    let v ← next
    let precision := if letter = 'c' then none else precision.map Int.toNat
    StateT.lift (convert ⟨flags, width.natAbs, precision⟩ letter v)

/-- The text for the pieces of a template. -/
def pieces : List Piece → Filler (List Char)
  | [] => return []
  | .plain c :: rest => do return c :: (← pieces rest)
  | .directive d :: rest => do return (← directive d) ++ (← pieces rest)

end Filler

/-- The text of a template with arguments put in. -/
def Template.fill (template : String) (arguments : Arguments) : Except Fault String := do
  let (cs, rest) ← (Filler.pieces (Template.pieces template)).run arguments
  if rest.remaining.isEmpty || rest.whole.isSome then return String.ofList cs
  else throw .mismatch

end LinkedTables.Log
