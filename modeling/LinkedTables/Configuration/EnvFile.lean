import LinkedTables.Roster
import LinkedTables.Text.Blank
import LinkedTables.Text.Ranges

/-!
# Files of environment variables

A file of environment variables has a line `NAME=value` for each of them. The value may stand in
single or double quotes; without quotes it ends at the end of the line or before a comment. Lines
that begin with `#`, and lines that cannot be read, are passed over. In a value a name in braces
behind a dollar sign stands for the variable of that name, which an earlier line of the file or the
environment around it gives.
-/

namespace LinkedTables.Configuration

open Text

/-- The variables of an environment. -/
abbrev Environment := Ledger String String

namespace EnvFile

/-- The character behind a backslash between double quotes, where it has a meaning. -/
def escape? (c : Char) : Option Char :=
  match c with
  | '\\' | '\'' | '"' => some c
  | 'a' => some (Char.ofNat 7)
  | 'b' => some (Char.ofNat 8)
  | 'f' => some (Char.ofNat 12)
  | 'n' => some '\n'
  | 'r' => some '\r'
  | 't' => some '\t'
  | 'v' => some (Char.ofNat 11)
  | _ => none

/-- The character behind a backslash between quotes of a kind, where it has a meaning. -/
def escapeIn? (mark c : Char) : Option Char :=
  if mark = '"' then escape? c else if c = '\\' || c = '\'' then some c else none

/-- The text up to the closing quote, and what follows it. -/
def untilQuote (mark : Char) : List Char → Option (List Char × List Char)
  | [] => none
  | '\\' :: c :: cs =>
    match escapeIn? mark c with
    | some d => (untilQuote mark cs).map fun (text, rest) => (d :: text, rest)
    | none => (untilQuote mark cs).map fun (text, rest) => ('\\' :: c :: text, rest)
  | c :: cs =>
    if c = mark then some ([], cs)
    else (untilQuote mark cs).map fun (text, rest) => (c :: text, rest)

/-- A text without the comment behind it: a comment begins with `#` behind a blank. -/
def beforeComment : List Char → List Char
  | [] => []
  | c :: cs =>
    if isBlank c && (cs.dropWhile isBlank).head? == some '#' then [] else c :: beforeComment cs

/-- The value that the rest of a line gives. -/
def value? (cs : List Char) : Option (List Char) :=
  match cs with
  | [] => some []
  | c :: rest =>
    if c = '\'' || c = '"' then do
      let (text, after) ← untilQuote c rest
      match after.dropWhile isBlank with
      | [] | '#' :: _ => some text
      | _ => none
    else some (dropBoth isBlank (beforeComment cs))

/-- The characters that end a name. -/
def endsName (c : Char) : Bool := c == '=' || c == '#' || isBlank c

/-- The name that a line begins with, behind the word `export` if it stands there. -/
def name? (cs : List Char) : Option (List Char × List Char) :=
  let cs := cs.dropWhile isBlank
  let cs :=
    match afterPrefix? "export".toList cs with
    | some (c :: rest) => if isBlank c then rest.dropWhile isBlank else cs
    | _ => cs
  match cs with
  | '\'' :: rest =>
    match splitFirst? (· == '\'') rest with
    | some (c :: name, after) => some (c :: name, after)
    | _ => none
  | cs =>
    match cs.takeWhile (!endsName ·) with
    | [] => none
    | name => some (name, cs.dropWhile (!endsName ·))

/-- The variable that a line gives. -/
def entry? (line : List Char) : Option (String × String) := do
  let (name, rest) ← name? line
  match rest.dropWhile isBlank with
  | '=' :: rest =>
    let value ← value? (rest.dropWhile isBlank)
    return (String.ofList name, String.ofList value)
  | _ => none

/-- The lines of a text. -/
def lines (s : String) : List (List Char) :=
  pieces '\n' (s.toList.map fun c => if c = '\r' then '\n' else c)

/-! ### References to other variables -/

/-- The name of a variable, behind the mark of a reference, what stands for the variable if it is
not there, and the text behind the reference. -/
def reference? (cs : List Char) : Option (String × List Char × List Char) :=
  let name := cs.takeWhile fun c => c != '\x7d' && c != ':'
  match cs.drop name.length with
  | '\x7d' :: rest => some (String.ofList name, [], rest)
  | ':' :: '-' :: more =>
    (splitFirst? (· == '\x7d') more).map fun (standard, rest) =>
      (String.ofList name, standard, rest)
  | _ => none

/-- A text with the values of the variables in place of the references to them; `fuel` bounds its
length. -/
def expandFrom (value? : String → Option String) : Nat → List Char → List Char
  | 0, cs => cs
  | _, [] => []
  | fuel + 1, '$' :: '\x7b' :: cs =>
    match reference? cs with
    | some (name, standard, rest) =>
      ((value? name).map String.toList).getD standard ++ expandFrom value? fuel rest
    | none => '$' :: expandFrom value? fuel ('\x7b' :: cs)
  | fuel + 1, c :: cs => c :: expandFrom value? fuel cs

/-- A value with the values of other variables in place of the references to them. -/
def expand (value? : String → Option String) (s : String) : String :=
  String.ofList (expandFrom value? s.length s.toList)

/-- The variables that a file gives in an environment; of several lines for one name the last
counts. -/
def read (around : Environment) (s : String) : Environment :=
  ((lines s).filterMap entry?).foldl (fun env (name, value) =>
    env.put name (expand (fun n => env.value? n <|> around.value? n) value)) []

end EnvFile

end LinkedTables.Configuration
