import LinkedTables.Roster
import LinkedTables.Yaml.Scalar
import LinkedTables.Yaml.Text

/-!
# Tokens of a YAML text

`Yaml.tokens` cuts a text into scalars and marks. Blocks have no marks of their own in the text: where
the indentation grows a block begins, and where it falls the blocks that were indented further end.
That a scalar is the key of a mapping shows only at the colon behind it, so the place of the last
scalar that may be a key is kept, one for each depth of flow collections.
-/

namespace LinkedTables.Yaml

/-- The tokens of a YAML text. -/
inductive Token where
  | documentStart
  | documentEnd
  | blockSequence
  | blockMapping
  | blockEnd
  | entry
  | key
  | value
  | openList
  | closeList
  | openDict
  | closeDict
  | comma
  | plain (s : String)
  | quoted (s : String)
deriving DecidableEq, Repr, Inhabited

/-- The place of what may turn out to be a key. -/
structure KeyPlace where
  /-- The number of tokens before it. -/
  before : Nat
  /-- It has to be a key, because it stands where a block goes on. -/
  required : Bool
  index : Nat
  line : Nat
  column : Nat
deriving DecidableEq, Repr, Inhabited

/-- A text that has been cut in part. -/
structure Cutting where
  rest : List Char
  index : Nat
  line : Nat
  column : Nat
  /-- The number of flow collections that are open. -/
  depth : Nat
  /-- The indentation of the innermost block. -/
  indent : Int
  /-- The indentations of the blocks around it. -/
  outer : List Int
  /-- A key may begin here. -/
  keyAllowed : Bool
  /-- The places of possible keys by depth. -/
  keys : Ledger Nat KeyPlace
  /-- The tokens, the latest first. -/
  out : List Token
deriving Inhabited

namespace Cutting

/-- A text that has not been cut yet. -/
def start (cs : List Char) : Cutting := ⟨cs, 0, 0, 0, 0, -1, [], true, [], []⟩

/-- Goes on at a rest of the text. -/
def moveTo (c : Cutting) (rest : List Char) : Cutting :=
  let passed := c.rest.take (c.rest.length - rest.length)
  let breaks := passed.count '\n'
  { c with
    rest
    index := c.index + passed.length
    line := c.line + breaks
    column :=
      if breaks = 0 then c.column + passed.length
      else (passed.reverse.takeWhile (· != '\n')).length }

/-- Goes on behind some characters. -/
def skip (c : Cutting) (n : Nat) : Cutting := c.moveTo (c.rest.drop n)

/-- One more token. -/
def emit (c : Cutting) (token : Token) : Cutting := { c with out := token :: c.out }

/-- Tokens in front of the ones from a number on. -/
def insert (c : Cutting) (before : Nat) (tokens : List Token) : Cutting :=
  let n := c.out.length - before
  { c with out := c.out.take n ++ tokens.reverse ++ c.out.drop n }

/-! ### Indentation -/

/-- The indentations of which the blocks have ended, given the innermost one and the outer ones: their
number, and what is left. -/
def unwound (column : Int) : Int → List Int → Nat × Int × List Int
  | indent, [] => (0, indent, [])
  | indent, next :: outer =>
    if column < indent then
      let (n, rest) := unwound column next outer
      (n + 1, rest)
    else (0, indent, next :: outer)

/-- Ends the blocks that are indented further than a column. -/
def unwind (c : Cutting) (column : Int) : Cutting :=
  if c.depth ≠ 0 then c
  else
    let (n, indent, outer) := unwound column c.indent c.outer
    { c with indent, outer, out := List.replicate n .blockEnd ++ c.out }

/-- Whether a block begins at a column. -/
def beginsBlock (c : Cutting) (column : Nat) : Bool := c.depth == 0 && c.indent < column

/-- The blocks with a new one at a column. -/
def indented (c : Cutting) (column : Nat) : Cutting :=
  { c with indent := column, outer := c.indent :: c.outer }

/-- Begins a block at the present column if it is indented further than the innermost one. -/
def beginBlock (c : Cutting) (token : Token) : Cutting :=
  if c.beginsBlock c.column then (c.indented c.column).emit token else c

/-! ### Possible keys -/

/-- Forgets the possible key of the present depth, which must not have had to be one. -/
def dropKey (c : Cutting) : Except Failure Cutting :=
  if ((c.keys.value? c.depth).map (·.required)).getD false then .error .unreadable
  else .ok { c with keys := c.keys.drop c.depth }

/-- The greatest distance between a key and its colon. -/
def maxKeyLength : Nat := 1024

/-- Whether a possible key can no longer be one, because its line has ended or it is too long. -/
def isStale (c : Cutting) (key : KeyPlace) : Bool :=
  key.line != c.line || maxKeyLength < c.index - key.index

/-- Forgets the possible keys that can no longer be one. -/
def dropStaleKeys (c : Cutting) : Except Failure Cutting :=
  if c.keys.any fun (_, key) => c.isStale key && key.required then .error .unreadable
  else .ok { c with keys := c.keys.filter fun (_, key) => !c.isStale key }

/-- Keeps the present place as that of a possible key. -/
def saveKey (c : Cutting) : Except Failure Cutting :=
  if c.keyAllowed then do
    let c ← c.dropKey
    let required := c.depth == 0 && c.indent == c.column
    return { c with
      keys := c.keys.put c.depth ⟨c.out.length, required, c.index, c.line, c.column⟩ }
  else .ok c

/-! ### Tokens -/

/-- The rest of a text behind blanks, comments and line ends, and whether a line has ended. -/
def gapEnd (comment : Bool) : List Char → List Char × Bool
  | [] => ([], false)
  | c :: cs =>
    if c = '\n' then ((gapEnd false cs).1, true)
    else if comment || c == ' ' then gapEnd comment cs
    else if c = '#' then gapEnd true cs
    else (c :: cs, false)

/-- Goes to the next token. -/
def toToken (c : Cutting) : Cutting :=
  let (rest, ended) := gapEnd false c.rest
  let moved := c.moveTo rest
  if ended && c.depth == 0 then { moved with keyAllowed := true } else moved

/-- A mark between documents. -/
def cutSeparator (c : Cutting) (token : Token) : Except Failure Cutting := do
  let c ← (c.unwind (-1)).dropKey
  return ({ c with keyAllowed := false }.emit token).skip 3

/-- The opening mark of a flow collection. -/
def cutOpen (c : Cutting) (token : Token) : Except Failure Cutting := do
  let c ← c.saveKey
  return ({ c with depth := c.depth + 1, keyAllowed := true }.emit token).skip 1

/-- The closing mark of a flow collection. -/
def cutClose (c : Cutting) (token : Token) : Except Failure Cutting := do
  let c ← c.dropKey
  return ({ c with depth := c.depth - 1, keyAllowed := false }.emit token).skip 1

/-- The comma of a flow collection. -/
def cutComma (c : Cutting) : Except Failure Cutting := do
  let c ← { c with keyAllowed := true }.dropKey
  return (c.emit .comma).skip 1

/-- The mark of an entry of a sequence. -/
def cutEntry (c : Cutting) : Except Failure Cutting := do
  if c.depth = 0 ∧ !c.keyAllowed then throw .unreadable
  let c ← { c.beginBlock .blockSequence with keyAllowed := true }.dropKey
  return (c.emit .entry).skip 1

/-- The mark of a key. -/
def cutKey (c : Cutting) : Except Failure Cutting := do
  if c.depth = 0 ∧ !c.keyAllowed then throw .unreadable
  let c ← { c.beginBlock .blockMapping with keyAllowed := c.depth == 0 }.dropKey
  return (c.emit .key).skip 1

/-- The colon in front of a value. The possible key of the present depth is a key now. -/
def cutValue (c : Cutting) : Except Failure Cutting := do
  match c.keys.value? c.depth with
  | some key =>
    let c := { c with keys := c.keys.drop c.depth, keyAllowed := false }
    let c := if c.beginsBlock key.column then (c.indented key.column).insert key.before [.blockMapping, .key]
      else c.insert key.before [.key]
    return (c.emit .value).skip 1
  | none =>
    if c.depth = 0 ∧ !c.keyAllowed then throw .unreadable
    let c ← { c.beginBlock .blockMapping with keyAllowed := c.depth == 0 }.dropKey
    return (c.emit .value).skip 1

/-- A scalar between quotes. -/
def cutQuoted (c : Cutting) (quote : Char) : Except Failure Cutting := do
  let c ← c.saveKey
  match quoted? quote (c.rest.drop 1) with
  | some (text, rest) =>
    return ({ c with keyAllowed := false }.emit (.quoted (String.ofList text))).moveTo rest
  | none => throw .unreadable

/-- A scalar without quotes. -/
def cutPlain (c : Cutting) : Except Failure Cutting := do
  let c ← c.saveKey
  let p := plain (c.depth != 0) (c.indent + 1) c.rest
  return ({ c with keyAllowed := p.ended }.emit (.plain (String.ofList p.text))).moveTo p.rest

/-- Whether a plain scalar begins with a character. -/
def beginsPlain (flow : Bool) (ch : Char) (rest : List Char) : Bool :=
  !(isSpace ch || "-?:,[]\x7b\x7d#&*!|>'\"%@".contains ch || ch.toNat == 0x60)
    || (!atSpace rest && (ch == '-' || (!flow && (ch == '?' || ch == ':'))))

/-- The token at which the rest begins. -/
def cutToken (c : Cutting) : Except Failure Cutting :=
  match c.rest with
  | [] => .ok c
  | ch :: rest =>
    let flow := c.depth != 0
    if c.column = 0 && isSeparator c.rest then
      c.cutSeparator (if ch = '-' then .documentStart else .documentEnd)
    else if ch = '[' then c.cutOpen .openList
    else if ch = '\x7b' then c.cutOpen .openDict
    else if ch = ']' then c.cutClose .closeList
    else if ch = '\x7d' then c.cutClose .closeDict
    else if ch = ',' then c.cutComma
    else if ch = '-' && atSpace rest then c.cutEntry
    else if ch = '?' && (flow || atSpace rest) then c.cutKey
    else if ch = ':' && (flow || atSpace rest) then c.cutValue
    else if ch = '\'' || ch = '"' then c.cutQuoted ch
    else if beginsPlain flow ch rest then c.cutPlain
    else .error .unreadable

/-- Cuts the next token; nothing is left at the end of the text. -/
def next (c : Cutting) : Except Failure Cutting := do
  let c ← c.toToken.dropStaleKeys
  if c.rest.isEmpty then (c.unwind (-1)).dropKey
  else (c.unwind c.column).cutToken

/-- Cuts token after token until nothing is left; `fuel` bounds their number. -/
def run : Nat → Cutting → Except Failure Cutting
  | 0, _ => .error .unreadable
  | fuel + 1, c => do
    let c ← c.next
    if c.rest.isEmpty then c.next else run fuel c

end Cutting

/-- A character that a YAML text may hold. -/
def isAllowed (c : Char) : Bool :=
  let n := c.toNat
  n == 9 || n == 10 || n == 13 || (0x20 ≤ n && n ≤ 0x7E) || n == 0x85 || (0xA0 ≤ n && n ≤ 0xFFFD)
    || 0x10000 ≤ n

/-- The lines of a text, each ended in the same way. -/
def lineEnds : List Char → List Char
  | [] => []
  | '\r' :: '\n' :: cs => '\n' :: lineEnds cs
  | c :: cs => (if c == '\r' || c.toNat == 0x85 then '\n' else c) :: lineEnds cs

/-- A text without the mark of its byte order, which may stand before it. -/
def withoutByteOrder (cs : List Char) : List Char :=
  if cs.head? = some '\ufeff' then cs.tail else cs

/-- The tokens of a text. -/
def tokens (s : String) : Except Failure (List Token) := do
  let cs := lineEnds (withoutByteOrder s.toList)
  if cs.all isAllowed then
    let c ← Cutting.run (cs.length + 1) (Cutting.start cs)
    return c.out.reverse
  else throw .unreadable

end LinkedTables.Yaml
