import LinkedTables.Configuration.EnvFile
import LinkedTables.Configuration.Link

/-!
# References to secrets

A text of the form `${provider:key}` in a configuration stands for what a provider has under a key.
`Document.resolve` puts the values in the place of all references of a document, in one pass: what
was put in is not looked at again.
-/

namespace LinkedTables.Configuration

/-- What has the values of secrets, by name: a value for each key that is known. -/
abbrev Providers := Ledger String (String → Option String)

/-- The provider that reads an environment. -/
def environmentProvider (env : Environment) : Providers := [("env", env.value?)]

/-- A configuration: texts, secrets, links and what else it holds, in lists and dictionaries. -/
inductive Document where
  | text (s : String)
  | secret (s : String)
  | link (config : LinkConfig)
  | list (items : List Document)
  | dict (entries : List (String × Document))
  | other (v : Value)
deriving Inhabited

/-! ### References -/

namespace Reference

/-- The mark at the beginning of a reference. -/
def opening : List Char := ['$', '\x7b']

/-- The text behind the opening mark and before the closing one, if both are there. -/
def body? (s : String) : Option (List Char) := do
  let rest ← Text.afterPrefix? opening s.toList
  if rest.getLast? = some '\x7d' then some rest.dropLast else none

/-- Whether a text is a reference. -/
def isReference (s : String) : Bool := (body? s).isSome

/-- The fault of a reference without a provider. -/
def malformed (s : String) : Fault :=
  .badValue ("Invalid secret format '" ++ s ++ "'. Expected '$\x7bprovider_id:key\x7d'.")

/-- The value that a reference stands for. -/
def lookUp (providers : Providers) (s : String) (body : List Char) : Except Fault String :=
  match Text.splitFirst? (· == ':') body with
  | none => .error (malformed s)
  | some (provider, key) =>
    match providers.value? (String.ofList provider) with
    | none =>
      .error (.badValue ("Unknown secret provider ID: '" ++ String.ofList provider ++ "'"))
    | some value? =>
      match value? (String.ofList key) with
      | some value => .ok value
      | none => .error (.badValue ("Secret not found: " ++ s))

/-- A text, or the value that it refers to. -/
def resolve (providers : Providers) (s : String) : Except Fault String :=
  match body? s with
  | some body => lookUp providers s body
  | none => .ok s

end Reference

/-! ### Documents -/

/-- A link with the values of its references. -/
def LinkConfig.resolve (providers : Providers) (c : LinkConfig) : Except Fault LinkConfig := do
  let text := Reference.resolve providers
  let name ← text c.name
  let schema ← text c.schema
  let description ← c.description.mapM text
  let driver ← c.driver.mapM text
  let url ← text c.url
  let user ← c.user.mapM text
  let password ← c.password.mapM text
  let remoteSchema ← c.remoteSchema.mapM text
  let remoteTable ← text c.remoteTable
  return { c with
    name, schema, description, driver, url, user, password, remoteSchema, remoteTable }

/-- The texts of a link, in the order of its fields. -/
def LinkConfig.texts (c : LinkConfig) : List String :=
  [c.name, c.schema] ++ c.description.toList ++ c.driver.toList ++ [c.url] ++ c.user.toList
    ++ c.password.toList ++ c.remoteSchema.toList ++ [c.remoteTable]

namespace Document

mutual

/-- The document with the values of its references. -/
def resolve (providers : Providers) : Document → Except Fault Document
  | text s => do return text (← Reference.resolve providers s)
  | secret s => do return secret (← Reference.resolve providers s)
  | link c => do return link (← c.resolve providers)
  | list items => do return list (← resolveItems providers items)
  | dict entries => do return dict (← resolveEntries providers entries)
  | other v => .ok (other v)

/-- The items of a list with the values of their references. -/
def resolveItems (providers : Providers) : List Document → Except Fault (List Document)
  | [] => .ok []
  | d :: ds => do return (← resolve providers d) :: (← resolveItems providers ds)

/-- The entries of a dictionary with the values of their references; keys are no references. -/
def resolveEntries (providers : Providers) :
    List (String × Document) → Except Fault (List (String × Document))
  | [] => .ok []
  | (k, d) :: es => do return (k, ← resolve providers d) :: (← resolveEntries providers es)

end

/-- A document in which nothing can be replaced: not a collection, and without references. -/
def isPlain : Document → Bool
  | text s | secret s => !Reference.isReference s
  | link c => c.texts.all fun s => !Reference.isReference s
  | list _ | dict _ => false
  | other _ => true

mutual

/-- The document for a value. -/
def ofValue : Value → Document
  | .text s => text s
  | .secret s => secret s
  | .list items => list (ofItems items)
  | .dict entries => dict (ofEntries entries)
  | v => other v

/-- The documents for the items of a list. -/
def ofItems : List Value → List Document
  | [] => []
  | v :: vs => ofValue v :: ofItems vs

/-- The documents for the entries of a dictionary. -/
def ofEntries : List (String × Value) → List (String × Document)
  | [] => []
  | (k, v) :: es => (k, ofValue v) :: ofEntries es

end

mutual

/-- The value of a document; a link is given by its fields. -/
def toValue : Document → Value
  | text s => .text s
  | secret s => .secret s
  | link c => .dict c.toFields
  | list items => .list (toItems items)
  | dict entries => .dict (toEntries entries)
  | other v => v

/-- The values of the items of a list. -/
def toItems : List Document → List Value
  | [] => []
  | d :: ds => toValue d :: toItems ds

/-- The values of the entries of a dictionary. -/
def toEntries : List (String × Document) → List (String × Value)
  | [] => []
  | (k, d) :: es => (k, toValue d) :: toEntries es

end

end Document

end LinkedTables.Configuration
