/-!
# Options

The words of a command line are options, with or without a value, and plain words. An option has
long names, of two dashes and a word, and short ones, of a dash and a letter. Short options may
share a dash, and a value may stand in the word of its option or in the next one. `Option.scan`
sorts the words out.
-/

namespace LinkedTables.CommandLine

/-- What is wrong with the words of a command line. -/
inductive UsageFault where
  | noSuchOption (name : String)
  | needsValue (name : String)
  | takesNoValue (name : String)
  | missingCommand
  | noSuchCommand (name : String)
  | strayWords (words : List String)
  | noTarget
deriving DecidableEq, Repr, Inhabited

namespace UsageFault

/-- The class under which a usage fault is reported. -/
def className : UsageFault → String
  | noSuchOption _ => "NoSuchOption"
  | needsValue _ | takesNoValue _ => "BadOptionUsage"
  | missingCommand | noSuchCommand _ | strayWords _ => "UsageError"
  | noTarget => "BadParameter"

/-- The message of a usage fault. -/
def message : UsageFault → String
  | noSuchOption name => "No such option: " ++ name
  | needsValue name => "Option '" ++ name ++ "' requires an argument."
  | takesNoValue name => "Option '" ++ name ++ "' does not take a value."
  | missingCommand => "Missing command."
  | noSuchCommand name => "No such command '" ++ name ++ "'."
  | strayWords words =>
    "Got unexpected extra argument" ++ (if words.length = 1 then " (" else "s (")
      ++ String.intercalate " " words ++ ")"
  | noTarget => "Pass a link name, or both --url and --table"

end UsageFault

/-- An option that a command knows; the first of its names stands for it. -/
structure Switch where
  names : List String
  takesValue : Bool
deriving DecidableEq, Repr, Inhabited

/-- The name that stands for an option. -/
def Switch.name (s : Switch) : String := s.names.headD ""

/-- The options that every command knows. -/
def helpSwitch : Switch := ⟨["--help"], false⟩

/-- The words of a command line sorted out: the options with their values, and the plain words. -/
structure Words where
  options : List (String × String)
  plain : List String
deriving DecidableEq, Repr, Inhabited

namespace Words

/-- The value of an option; the last one counts. -/
def value? (w : Words) (name : String) : Option String :=
  (w.options.reverse.find? (·.1 == name)).map (·.2)

/-- Whether an option is there. -/
def has (w : Words) (name : String) : Bool := (w.value? name).isSome

end Words

/-- What comes of one word: the options in it, and the one whose value is the next word. -/
structure WordOptions where
  options : List (String × String)
  awaited : Option String
deriving DecidableEq, Repr, Inhabited

/-- The text before the first equals sign and the text behind it. -/
def splitValue (cs : List Char) : String × Option String :=
  match cs.dropWhile (· != '=') with
  | [] => (String.ofList cs, none)
  | _ :: value => (String.ofList (cs.takeWhile (· != '=')), some (String.ofList value))

/-- The option that a long word names, with its value. -/
def longOption? (switches : List Switch) (cs : List Char) : Option (Except UsageFault WordOptions) :=
  let (name, value) := splitValue cs
  match switches.find? fun s => s.names.contains name && 2 < name.length with
  | none => none
  | some s =>
    match s.takesValue, value with
    | true, some v => some (.ok ⟨[(s.name, v)], none⟩)
    | true, none => some (.ok ⟨[], some s.name⟩)
    | false, some _ => some (.error (.takesNoValue name))
    | false, none => some (.ok ⟨[(s.name, "")], none⟩)

/-- The options of the letters behind a dash; a value is what follows its letter. -/
def shortOptions (switches : List Switch) : List Char → Except UsageFault WordOptions
  | [] => .ok ⟨[], none⟩
  | c :: cs =>
    let name := String.ofList ['-', c]
    match switches.find? fun s => s.names.contains name with
    | none => .error (.noSuchOption name)
    | some s =>
      if s.takesValue then
        if cs.isEmpty then .ok ⟨[], some s.name⟩ else .ok ⟨[(s.name, String.ofList cs)], none⟩
      else do
        let more ← shortOptions switches cs
        return { more with options := (s.name, "") :: more.options }

/-- The options of a word that begins with a dash. -/
def wordOptions (switches : List Switch) (cs : List Char) : Except UsageFault WordOptions :=
  match longOption? switches cs with
  | some r => r
  | none =>
    match cs with
    | '-' :: '-' :: _ => .error (.noSuchOption (splitValue cs).1)
    | _ => shortOptions switches cs.tail

/-- Sorts out the words of a command line. Two dashes end the options; unless plain words may stand
among them, so does the first plain word. -/
def scan (switches : List Switch) (mixed : Bool) : List String → Except UsageFault Words
  | [] => .ok ⟨[], []⟩
  | "--" :: rest => .ok ⟨[], rest⟩
  | word :: rest =>
    match word.toList with
    | '-' :: _ :: _ => do
      let found ← wordOptions switches word.toList
      match found.awaited, rest with
      | none, rest =>
        let more ← scan switches mixed rest
        return { more with options := found.options ++ more.options }
      | some name, value :: rest =>
        let more ← scan switches mixed rest
        return { more with options := found.options ++ (name, value) :: more.options }
      | some name, [] => throw (.needsValue name)
    | _ =>
      if mixed then do
        let more ← scan switches mixed rest
        return { more with plain := word :: more.plain }
      else .ok ⟨[], word :: rest⟩

end LinkedTables.CommandLine
