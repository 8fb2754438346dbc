import LinkedTables.Text.Hex
import LinkedTables.Text.Ranges

/-!
# Scalars in a YAML text

A scalar may go on over several lines: a single line break in it counts as a blank, and of several
the first is dropped. Between quotes the text ends at the closing quote; without quotes it ends at a
mark, at a comment, or where the lines are no longer indented.
-/

namespace LinkedTables.Yaml

open LinkedTables.Text

/-- A blank, a tab, or the end of a line. -/
def isSpace (c : Char) : Bool := c == ' ' || c == '\t' || c == '\n'

/-- Whether a text begins with white space or is at its end. -/
def atSpace (cs : List Char) : Bool := (cs.head?.map isSpace).getD true

/-- Whether a line is a mark between documents. -/
def isSeparator (cs : List Char) : Bool :=
  match cs with
  | '-' :: '-' :: '-' :: rest | '.' :: '.' :: '.' :: rest => atSpace rest
  | _ => false

/-- The marks of flow collections. -/
def isFlowMark (c : Char) : Bool := ",[]\x7b\x7d".contains c

/-! ### Line breaks -/

/-- The empty lines behind a line break, their number, and the rest, which begins at the text of a
line or at a mark between documents; `atStart` says that a line begins here. -/
def emptyLines (blank : Char → Bool) (atStart : Bool) : List Char → Nat × List Char
  | [] => (0, [])
  | c :: cs =>
    if atStart && isSeparator (c :: cs) then (0, c :: cs)
    else if c = '\n' then
      let (n, rest) := emptyLines blank true cs
      (n + 1, rest)
    else if blank c then emptyLines blank false cs
    else (0, c :: cs)

/-- What a line break with so many empty lines behind it stands for. -/
def folded (emptyCount : Nat) : List Char :=
  if emptyCount = 0 then [' '] else List.replicate emptyCount '\n'

/-! ### Without quotes -/

/-- What ends a plain scalar within a line. -/
def endsPlain (flow : Bool) (c : Char) (rest : List Char) : Bool :=
  isSpace c
    || (c == ':' && (atSpace rest || (flow && (rest.head?.map isFlowMark).getD false)))
    || (flow && (isFlowMark c || c == '?'))

/-- The characters of a plain scalar up to the next gap or its end, and the rest. -/
def plainWord (flow : Bool) : List Char → List Char × List Char
  | [] => ([], [])
  | c :: cs =>
    if endsPlain flow c cs then ([], c :: cs)
    else
      let (word, rest) := plainWord flow cs
      (c :: word, rest)

/-- A gap between the words of a plain scalar: what it stands for, the rest, and the column at which
the rest begins if a line was ended. -/
structure Gap where
  text : List Char
  rest : List Char
  column : Option Nat

/-- The column at which `rest` begins, where `cs` is a text that ends with it. -/
def columnOf (cs rest : List Char) : Nat :=
  ((cs.take (cs.length - rest.length)).reverse.takeWhile (· != '\n')).length

/-- The gap at which a text begins. -/
def plainGap (cs : List Char) : Gap :=
  match cs.dropWhile (· == ' ') with
  | '\n' :: more =>
    let (n, rest) := emptyLines (· == ' ') true more
    ⟨if isSeparator rest && columnOf more rest == 0 then [] else folded n, rest,
      some (columnOf more rest)⟩
  | rest => ⟨cs.takeWhile (· == ' '), rest, none⟩

/-- What is read of a plain scalar, the rest of the text, and whether a line was ended behind the last
word. -/
structure PlainText where
  text : List Char
  rest : List Char
  ended : Bool

/-- A plain scalar that goes on with the words of a text; `joint` stands for the gap before them,
`ended` says that a line was ended there, and `fuel` bounds their number. The lines that go on are
indented by at least `indent`. -/
def plainFrom (flow : Bool) (indent : Int) :
    Nat → List Char → Bool → List Char → PlainText
  | 0, _, ended, cs => ⟨[], cs, ended⟩
  | fuel + 1, joint, ended, cs =>
    match plainWord flow cs with
    | ([], rest) => ⟨[], rest, ended⟩
    | (word, rest) =>
      let gap := plainGap rest
      let outdented := !flow && (gap.column.map fun c => decide ((c : Int) < indent)).getD false
      if gap.text.isEmpty || gap.rest.head? == some '#' || outdented then
        ⟨joint ++ word, gap.rest, gap.column.isSome⟩
      else
        let more := plainFrom flow indent fuel gap.text gap.column.isSome gap.rest
        { more with text := joint ++ word ++ more.text }

/-- The plain scalar at which a text begins. -/
def plain (flow : Bool) (indent : Int) (cs : List Char) : PlainText :=
  plainFrom flow indent cs.length [] false cs

/-! ### Between quotes -/

/-- The character that stands for one behind a backslash. -/
def escape? (c : Char) : Option Char :=
  match c with
  | '0' => some (Char.ofNat 0)
  | 'a' => some (Char.ofNat 7)
  | 'b' => some (Char.ofNat 8)
  | 't' | '\t' => some '\t'
  | 'n' => some '\n'
  | 'v' => some (Char.ofNat 11)
  | 'f' => some (Char.ofNat 12)
  | 'r' => some '\r'
  | 'e' => some (Char.ofNat 27)
  | ' ' | '"' | '\\' | '/' => some c
  | 'N' => some (Char.ofNat 0x85)
  | '_' => some (Char.ofNat 0xA0)
  | 'L' => some (Char.ofNat 0x2028)
  | 'P' => some (Char.ofNat 0x2029)
  | _ => none

/-- The number of digits behind a backslash and a letter. -/
def escapeWidth? (c : Char) : Option Nat :=
  match c with
  | 'x' => some 2
  | 'u' => some 4
  | 'U' => some 8
  | _ => none

/-- The number of a character that is given by its digits, and the rest. -/
def codeEscape? (width : Nat) (cs : List Char) : Option (Nat × List Char) := do
  let digits := cs.take width
  if digits.length = width then return (← hexNat? digits, cs.drop width) else none

/-- The character of a code escape and the rest; two halves of a pair make one character. -/
def escapedChar? (width : Nat) (cs : List Char) : Option (Char × List Char) := do
  let (a, rest) ← codeEscape? width cs
  match rest with
  | '\\' :: 'u' :: more =>
    if 0xD800 ≤ a ∧ a < 0xDC00 then
      let (b, after) ← codeEscape? 4 more
      if 0xDC00 ≤ b ∧ b < 0xE000 then
        return (Char.ofNat (0x10000 + (a - 0xD800) * 0x400 + (b - 0xDC00)), after)
      else return (Char.ofNat a, rest)
    else return (Char.ofNat a, rest)
  | _ => if a < 0x110000 then return (Char.ofNat a, rest) else none

/-- The text that a gap between quotes stands for, and the rest; a mark between documents must not
stand there. -/
def quotedGap? (cs : List Char) : Option (List Char × List Char) :=
  let blank (c : Char) : Bool := c == ' ' || c == '\t'
  match cs.dropWhile blank with
  | [] => none
  | '\n' :: more =>
    let (n, rest) := emptyLines blank true more
    if isSeparator rest && columnOf more rest == 0 then none else some (folded n, rest)
  | rest => some (cs.takeWhile blank, rest)

/-- A scalar behind its opening quote, and the rest behind the closing one; `fuel` bounds the
number of steps. -/
def quotedFrom (quote : Char) : Nat → List Char → Option (List Char × List Char)
  | 0, _ => none
  | _, [] => none
  | fuel + 1, c :: cs =>
    let go (text : List Char) (rest : List Char) : Option (List Char × List Char) :=
      (quotedFrom quote fuel rest).map fun (more, rest) => (text ++ more, rest)
    if c = quote then
      match quote, cs with
      | '\'', '\'' :: rest => go ['\''] rest
      | _, _ => some ([], cs)
    else if isSpace c then do
      let (gap, rest) ← quotedGap? (c :: cs)
      go gap rest
    else if c = '\\' && quote = '"' then
      match cs with
      | [] => none
      | '\n' :: rest =>
        let (n, rest) := emptyLines (fun c => c == ' ' || c == '\t') true rest
        go (List.replicate n '\n') rest
      | e :: rest =>
        match escape? e, escapeWidth? e with
        | some d, _ => go [d] rest
        | none, some width => do
          let (d, rest) ← escapedChar? width rest
          go [d] rest
        | none, none => none
    else go [c] cs

/-- A scalar behind its opening quote, and the rest behind the closing one. -/
def quoted? (quote : Char) (cs : List Char) : Option (List Char × List Char) :=
  quotedFrom quote (cs.length + 1) cs

end LinkedTables.Yaml
