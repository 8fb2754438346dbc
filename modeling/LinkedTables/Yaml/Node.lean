import LinkedTables.Yaml.Token

/-!
# Nodes of a YAML text

A `Node` is a scalar, a sequence or a mapping as the text has it, where scalars have no type yet.
`Node.ofTokens?` builds the node of the single document of a text, and `Node.value` gives its value.
-/

namespace LinkedTables.Yaml

/-- A scalar, a sequence or a mapping. -/
inductive Node where
  | plain (s : String)
  | quoted (s : String)
  | sequence (items : List Node)
  | mapping (entries : List (Node × Node))
deriving Inhabited

namespace Node

/-- What is missing stands for null. -/
def missing : Node := plain ""

/-- The places at which a node may stand. -/
inductive Place where
  /-- In a block. -/
  | block
  /-- In a block mapping, where the entries of a sequence need not be indented. -/
  | mapping
  /-- In a flow collection. -/
  | flow
deriving DecidableEq, Repr, Inhabited

/-- A node and the tokens behind it. -/
abbrev Result := Except Failure (Node × List Token)

/-- Whether the next token is one of some tokens. -/
def nextIn (stops tokens : List Token) : Bool := (tokens.head?.map stops.contains).getD false

mutual

/-- The node at which tokens begin; `fuel` bounds the depth and the number of nodes. -/
def read : Nat → Place → List Token → Result
  | 0, _, _ => .error .unreadable
  | fuel + 1, place, tokens =>
    match place, tokens with
    | .mapping, .entry :: _ => readLooseItems fuel [] tokens
    | _, .plain s :: rest => .ok (plain s, rest)
    | _, .quoted s :: rest => .ok (quoted s, rest)
    | _, .openList :: rest => readFlowItems fuel [] rest
    | _, .openDict :: rest => readFlowEntries fuel [] rest
    | .flow, _ => .error .unreadable
    | _, .blockSequence :: rest => readItems fuel [] rest
    | _, .blockMapping :: rest => readEntries fuel [] rest
    | _, _ => .error .unreadable

/-- The node at which tokens begin, or a missing one in front of some tokens. -/
def readUnless : Nat → Place → List Token → List Token → Result
  | 0, _, _, _ => .error .unreadable
  | fuel + 1, place, stops, tokens =>
    if nextIn stops tokens then .ok (missing, tokens) else read fuel place tokens

/-- The value of a key, if there is one. -/
def readValue : Nat → Place → List Token → List Token → Result
  | 0, _, _, _ => .error .unreadable
  | fuel + 1, place, stops, tokens =>
    match tokens with
    | .value :: rest => readUnless fuel place stops rest
    | tokens => .ok (missing, tokens)

/-- The items of a block sequence; the ones read so far come the latest first. -/
def readItems : Nat → List Node → List Token → Result
  | 0, _, _ => .error .unreadable
  | fuel + 1, items, tokens =>
    match tokens with
    | .entry :: rest => do
      let (item, rest) ← readUnless fuel .block [.entry, .blockEnd] rest
      readItems fuel (item :: items) rest
    | .blockEnd :: rest => .ok (sequence items.reverse, rest)
    | _ => .error .unreadable

/-- The items of a sequence that is not indented further than the key it belongs to. -/
def readLooseItems : Nat → List Node → List Token → Result
  | 0, _, _ => .error .unreadable
  | fuel + 1, items, tokens =>
    match tokens with
    | .entry :: rest => do
      let (item, rest) ← readUnless fuel .block [.entry, .key, .value, .blockEnd] rest
      readLooseItems fuel (item :: items) rest
    | tokens => .ok (sequence items.reverse, tokens)

/-- The entries of a block mapping. -/
def readEntries : Nat → List (Node × Node) → List Token → Result
  | 0, _, _ => .error .unreadable
  | fuel + 1, entries, tokens =>
    let stops := [.key, .value, .blockEnd]
    match tokens with
    | .key :: rest => do
      let (key, rest) ← readUnless fuel .mapping stops rest
      let (v, rest) ← readValue fuel .mapping stops rest
      readEntries fuel ((key, v) :: entries) rest
    | .blockEnd :: rest => .ok (mapping entries.reverse, rest)
    | _ => .error .unreadable

/-- An entry of a flow collection behind the mark of its key. -/
def readFlowEntry : Nat → Token → List Token → Except Failure ((Node × Node) × List Token)
  | 0, _, _ => .error .unreadable
  | fuel + 1, close, tokens => do
    let (key, rest) ← readUnless fuel .flow [.value, .comma, close] tokens
    let (v, rest) ← readValue fuel .flow [.comma, close] rest
    return ((key, v), rest)

/-- The items of a flow sequence; an entry among them is a mapping of its own. -/
def readFlowItems : Nat → List Node → List Token → Result
  | 0, _, _ => .error .unreadable
  | fuel + 1, items, tokens =>
    match tokens with
    | .closeList :: rest => .ok (sequence items.reverse, rest)
    | tokens => do
      let (item, rest) ←
        match tokens with
        | .key :: rest => do
          let (entry, rest) ← readFlowEntry fuel .closeList rest
          pure (mapping [entry], rest)
        | tokens => read fuel .flow tokens
      match rest with
      | .comma :: rest => readFlowItems fuel (item :: items) rest
      | .closeList :: rest => .ok (sequence (item :: items).reverse, rest)
      | _ => .error .unreadable

/-- The entries of a flow mapping; a node without a value is a key too. -/
def readFlowEntries : Nat → List (Node × Node) → List Token → Result
  | 0, _, _ => .error .unreadable
  | fuel + 1, entries, tokens =>
    match tokens with
    | .closeDict :: rest => .ok (mapping entries.reverse, rest)
    | tokens => do
      let (entry, rest) ←
        match tokens with
        | .key :: rest => readFlowEntry fuel .closeDict rest
        | tokens => do
          let (key, rest) ← read fuel .flow tokens
          pure ((key, missing), rest)
      match rest with
      | .comma :: rest => readFlowEntries fuel (entry :: entries) rest
      | .closeDict :: rest => .ok (mapping (entry :: entries).reverse, rest)
      | _ => .error .unreadable

end

/-- The node of a document: what stands behind its mark, if it has one. -/
def readDocument (fuel : Nat) (tokens : List Token) : Result :=
  match tokens with
  | [] => .ok (missing, [])
  | .documentStart :: rest =>
    if rest.isEmpty then .ok (missing, [])
    else readUnless fuel .block [.documentStart, .documentEnd] rest
  | tokens => read fuel .block tokens

/-- The node of the single document that tokens make up. -/
def ofTokens (tokens : List Token) : Except Failure Node := do
  let (node, rest) ← readDocument (4 * tokens.length + 4) tokens
  if rest.all (· == .documentEnd) then return node else throw .unreadable

/-! ### Values -/

/-- The text under which a value is a key; collections cannot be keys. -/
def keyText : Value → Except Failure String
  | .text s => .ok s
  | .list _ | .dict _ => .error .unreadable
  | v => .ok v.shown

mutual

/-- The value of a node. -/
def value : Node → Except Failure Value
  | plain s => Scalar.value s
  | quoted s => .ok (.text s)
  | sequence items => do return .list (← values items)
  | mapping entries => do return .dict (← valueEntries [] entries)

/-- The values of nodes. -/
def values : List Node → Except Failure (List Value)
  | [] => .ok []
  | n :: ns => do return (← value n) :: (← values ns)

/-- The entries of a dictionary, behind the ones that are there; of several entries with one key the
last counts. -/
def valueEntries (known : Ledger String Value) :
    List (Node × Node) → Except Failure (Ledger String Value)
  | [] => .ok known
  | (key, v) :: rest => do
    let key ← keyText (← value key)
    valueEntries (known.put key (← value v)) rest

end

end Node

/-- The value that a YAML text writes. -/
def read (s : String) : Except Failure Value := do (← Node.ofTokens (← tokens s)).value

end LinkedTables.Yaml
