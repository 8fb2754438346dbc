import LinkedTables.Configuration.Secrets
import LinkedTables.Proofs.Success

/-!
# One pass over a document

To resolve a document is to go once through its texts in their order: each is kept or, if it is a
reference, replaced by the value that it stands for, and that value is not looked at again; all else
in the document stays as it is. The first text that is a reference without a value ends the pass.
The two halves are told in `resolve_iff`. A document is its shape and its texts (`eq_of_shape`), and
what becomes of the texts is what becomes of the list of them (`texts_resolve`).
-/

namespace LinkedTables.Text

variable {cls : Char → Bool} {p cs rest before : List Char}

/-- A text that begins with another is that text and its rest. -/
theorem eq_append_of_afterPrefix? (here : afterPrefix? p cs = some rest) : cs = p ++ rest := by
  induction p generalizing cs with
  | nil => exact Option.some.inj here
  | cons c p ih =>
    cases cs with
    | nil => cases here
    | cons d cs =>
      rw [afterPrefix?] at here
      split at here
      case isTrue same => rw [same, ih here, List.cons_append]
      case isFalse => cases here

/-- A text without a character of the class is not split. -/
theorem splitFirst?_eq_none (none : ∀ c ∈ cs, cls c = false) :
    splitFirst? cls cs = Option.none := by
  induction cs with
  | nil => rfl
  | cons c cs ih =>
    obtain ⟨here, none⟩ := List.forall_mem_cons.mp none
    rw [splitFirst?, here, ih none]
    rfl

/-- A text is split at the first character of the class. -/
theorem splitFirst?_append {c : Char} (none : ∀ b ∈ before, cls b = false) (here : cls c = true) :
    splitFirst? cls (before ++ c :: rest) = some (before, rest) := by
  induction before with
  | nil => rw [List.nil_append, splitFirst?, if_pos here]
  | cons b before ih =>
    obtain ⟨first, none⟩ := List.forall_mem_cons.mp none
    rw [List.cons_append, splitFirst?, first, ih none]
    rfl

/-- Either a text has no character of the class, or it has a first one. -/
theorem exists_first (cls : Char → Bool) (cs : List Char) :
    (∀ c ∈ cs, cls c = false) ∨ ∃ before c rest,
      cs = before ++ c :: rest ∧ (∀ b ∈ before, cls b = false) ∧ cls c = true := by
  induction cs with
  | nil => exact .inl nofun
  | cons c cs ih =>
    cases here : cls c with
    | true => exact .inr ⟨[], c, cs, rfl, nofun, here⟩
    | false =>
      refine ih.imp (fun none => List.forall_mem_cons.mpr ⟨here, none⟩) ?_
      rintro ⟨before, d, rest, rfl, none, there⟩
      exact ⟨c :: before, d, rest, rfl, List.forall_mem_cons.mpr ⟨here, none⟩, there⟩

end LinkedTables.Text

namespace LinkedTables.Configuration

variable {P : Providers}

/-! ### One text -/

namespace Reference

variable {s v : String} {fault : Fault}

/-- The reference with a text between its marks. -/
def enclose (body : String) : String := "$\x7b" ++ body ++ "\x7d"

/-- A text, and what stands in its place: itself if it is no reference, else what the provider has
under the key. The provider is named before the first colon. -/
inductive Replaced (P : Providers) : String → String → Prop where
  | plain {s : String} (plain : ∀ body, s ≠ enclose body) : Replaced P s s
  | found {provider key value : String} {value? : String → Option String}
      (name : ':' ∉ provider.toList) (known : P.value? provider = some value?)
      (here : value? key = some value) : Replaced P (enclose (provider ++ ":" ++ key)) value

/-- A reference that stands for nothing, and its fault: it has no colon, its provider is not known,
or the provider has nothing under the key. -/
inductive Broken (P : Providers) : String → Fault → Prop where
  | malformed {body : String} (colon : ':' ∉ body.toList) :
      Broken P (enclose body) (.badValue ("Invalid secret format '" ++ enclose body
        ++ "'. Expected '$\x7bprovider_id:key\x7d'."))
  | unknown {provider key : String} (name : ':' ∉ provider.toList)
      (unknown : P.value? provider = none) :
      Broken P (enclose (provider ++ ":" ++ key))
        (.badValue ("Unknown secret provider ID: '" ++ provider ++ "'"))
  | missing {provider key : String} {value? : String → Option String}
      (name : ':' ∉ provider.toList) (known : P.value? provider = some value?)
      (missing : value? key = none) :
      Broken P (enclose (provider ++ ":" ++ key))
        (.badValue ("Secret not found: " ++ enclose (provider ++ ":" ++ key)))

/-- The text between the marks of a reference. -/
theorem body?_enclose (body : String) : body? (enclose body) = some body.toList := by
  have chars : (enclose body).toList = opening ++ (body.toList ++ ['\x7d']) := by
    simp [enclose, opening]
  rw [body?, chars, Text.afterPrefix?_append]
  simp

/-- A text with a body is the reference with that body. -/
theorem eq_enclose_of_body? {body : List Char} (here : body? s = some body) :
    s = enclose (.ofList body) := by
  obtain ⟨rest, opened, here⟩ := Option.bind_eq_some_iff.mp here
  split at here
  case isFalse => cases here
  case isTrue closed =>
    obtain rfl := Option.some.inj here
    rw [← String.toList_inj, Text.eq_append_of_afterPrefix? opened,
      ← List.dropLast_append_getLast? _ closed]
    simp [enclose, opening]

/-- A text is a reference if it stands between the marks, and has a body only then. -/
theorem body?_eq_none_iff : body? s = none ↔ ∀ body, s ≠ enclose body := by
  refine ⟨fun none body same => ?_, fun plain => ?_⟩
  · rw [same, body?_enclose] at none
    cases none
  · cases here : body? s with
    | none => rfl
    | some body => exact absurd (eq_enclose_of_body? here) (plain _)

/-- The provider and the key of a reference. -/
theorem splitFirst?_key {provider key : String} (name : ':' ∉ provider.toList) :
    Text.splitFirst? (· == ':') (provider ++ ":" ++ key).toList
      = some (provider.toList, key.toList) := by
  have chars : (provider ++ ":" ++ key).toList = provider.toList ++ ':' :: key.toList := by simp
  rw [chars]
  exact Text.splitFirst?_append (fun b among => beq_eq_false_iff_ne.mpr fun same =>
    name (same ▸ among)) rfl

theorem Replaced.resolve (replaced : Replaced P s v) : resolve P s = .ok v := by
  cases replaced with
  | plain plain => rw [Reference.resolve, body?_eq_none_iff.mpr plain]
  | found name known here =>
    rw [Reference.resolve, body?_enclose]
    simp only [lookUp, splitFirst?_key name, String.ofList_toList, known, here]

theorem Broken.resolve (broken : Broken P s fault) : resolve P s = .error fault := by
  cases broken with
  | malformed colon =>
    have apart c (among : c ∈ _) : (c == ':') = false :=
      beq_eq_false_iff_ne.mpr fun same => colon (same ▸ among)
    have whole := Text.splitFirst?_eq_none apart
    rw [Reference.resolve, body?_enclose]
    simp only [lookUp, whole, Reference.malformed]
  | unknown name unknown =>
    rw [Reference.resolve, body?_enclose]
    simp only [lookUp, splitFirst?_key name, String.ofList_toList, unknown]
  | missing name known missing =>
    rw [Reference.resolve, body?_enclose]
    simp only [lookUp, splitFirst?_key name, String.ofList_toList, known, missing]

/-- A text is replaced, or is a reference that stands for nothing. -/
theorem replaced_or_broken (P : Providers) (s : String) :
    (∃ v, Replaced P s v) ∨ ∃ fault, Broken P s fault := by
  cases here : body? s with
  | none => exact .inl ⟨s, .plain (body?_eq_none_iff.mp here)⟩
  | some body =>
    obtain rfl := eq_enclose_of_body? here
    obtain none | ⟨provider, c, key, rfl, name, colon⟩ := Text.exists_first (· == ':') body
    · exact .inr ⟨_, .malformed fun among => absurd (none ':' (by simpa using among)) (by decide)⟩
    · obtain rfl : c = ':' := by simpa using colon
      have name' : ':' ∉ (String.ofList provider).toList := fun among =>
        absurd (name ':' (by simpa using among)) (by decide)
      have apart : String.ofList (provider ++ ':' :: key)
          = String.ofList provider ++ ":" ++ String.ofList key := by
        rw [← String.toList_inj]
        simp
      rw [apart]
      cases known : P.value? (String.ofList provider) with
      | none => exact .inr ⟨_, .unknown name' known⟩
      | some value? =>
        cases there : value? (String.ofList key) with
        | none => exact .inr ⟨_, .missing name' known there⟩
        | some value => exact .inl ⟨value, .found name' known there⟩

theorem resolve_eq_ok_iff : resolve P s = .ok v ↔ Replaced P s v := by
  refine ⟨fun ok => ?_, Replaced.resolve⟩
  obtain ⟨v', replaced⟩ | ⟨fault, broken⟩ := replaced_or_broken P s
  · cases replaced.resolve.symm.trans ok
    exact replaced
  · cases broken.resolve.symm.trans ok

theorem resolve_eq_error_iff : resolve P s = .error fault ↔ Broken P s fault := by
  refine ⟨fun failed => ?_, Broken.resolve⟩
  obtain ⟨v', replaced⟩ | ⟨fault', broken⟩ := replaced_or_broken P s
  · cases replaced.resolve.symm.trans failed
  · cases broken.resolve.symm.trans failed
    exact broken

/-- What is not broken is replaced, and the other way round. -/
theorem exists_replaced_iff : (∃ v, Replaced P s v) ↔ ∀ fault, ¬ Broken P s fault := by
  refine ⟨?_, fun sound => (replaced_or_broken P s).resolve_right fun ⟨fault, broken⟩ =>
    sound fault broken⟩
  rintro ⟨v, replaced⟩ fault broken
  cases replaced.resolve.symm.trans broken.resolve

end Reference

/-! ### Links -/

namespace LinkConfig

variable {c c' : LinkConfig}

/-- A text that may be there, erased. -/
def blank : Option String → Option String := Option.map fun _ => ""

/-- A link with all its texts erased: which of them there are, and what else it says. -/
def shape (c : LinkConfig) : LinkConfig :=
  { c with
    name := "", schema := "", url := "", remoteTable := ""
    description := blank c.description, driver := blank c.driver, user := blank c.user
    password := blank c.password, remoteSchema := blank c.remoteSchema }

theorem mapM_toList (f : String → Except Fault String) (o : Option String) :
    o.toList.mapM f = Option.toList <$> o.mapM f := by
  cases o with
  | none => rfl
  | some s => simp

theorem blank_of_mapM {f : String → Except Fault String} {o o' : Option String}
    (ok : o.mapM f = .ok o') : blank o' = blank o := by
  cases o with
  | none =>
    cases ok
    rfl
  | some s =>
    obtain ⟨v, -, ok⟩ := Success.exists_of_bind ok
    cases ok
    rfl

/-- The texts of an option that is known to be there or not are apart from what follows. -/
theorem eq_of_blank {o o' : Option String} {rest rest' : List String} (same : blank o = blank o')
    (texts : o.toList ++ rest = o'.toList ++ rest') : o = o' ∧ rest = rest' := by
  cases o <;> cases o' <;> simp_all [blank]

theorem texts_resolve (P : Providers) (c : LinkConfig) :
    texts <$> c.resolve P = c.texts.mapM (Reference.resolve P) := by
  simp [resolve, texts, List.mapM_append, mapM_toList]

theorem shape_of_resolve (ok : c.resolve P = .ok c') : c'.shape = c.shape := by
  obtain ⟨name, -, ok⟩ := Success.exists_of_bind ok
  obtain ⟨schema, -, ok⟩ := Success.exists_of_bind ok
  obtain ⟨description, described, ok⟩ := Success.exists_of_bind ok
  obtain ⟨driver, driven, ok⟩ := Success.exists_of_bind ok
  obtain ⟨url, -, ok⟩ := Success.exists_of_bind ok
  obtain ⟨user, used, ok⟩ := Success.exists_of_bind ok
  obtain ⟨password, guarded, ok⟩ := Success.exists_of_bind ok
  obtain ⟨remoteSchema, placed, ok⟩ := Success.exists_of_bind ok
  obtain ⟨remoteTable, -, ok⟩ := Success.exists_of_bind ok
  cases ok
  simp only [shape, blank_of_mapM described, blank_of_mapM driven, blank_of_mapM used,
    blank_of_mapM guarded, blank_of_mapM placed]

/-- Links of one shape are the same if their texts are, and the texts are apart from what
follows. -/
theorem eq_of_shape {rest rest' : List String} (same : c.shape = c'.shape)
    (texts : c.texts ++ rest = c'.texts ++ rest') : c = c' ∧ rest = rest' := by
  cases c
  cases c'
  simp only [shape, mk.injEq, true_and] at same
  obtain ⟨description, driver, user, password, remoteSchema, others⟩ := same
  simp only [LinkConfig.texts, List.append_assoc, List.cons_append, List.nil_append,
    List.cons.injEq] at texts
  obtain ⟨name, schema, texts⟩ := texts
  obtain ⟨description, texts⟩ := eq_of_blank description texts
  obtain ⟨driver, texts⟩ := eq_of_blank driver texts
  obtain ⟨url, texts⟩ := List.cons.inj texts
  obtain ⟨user, texts⟩ := eq_of_blank user texts
  obtain ⟨password, texts⟩ := eq_of_blank password texts
  obtain ⟨remoteSchema, texts⟩ := eq_of_blank remoteSchema texts
  obtain ⟨remoteTable, texts⟩ := List.cons.inj texts
  simp only [mk.injEq]
  exact ⟨⟨name, schema, description, driver, url, user, password, remoteSchema, remoteTable,
    others⟩, texts⟩

end LinkConfig

/-! ### Documents -/

namespace Document

variable {d d' : Document}

mutual

/-- The texts of a document, in the order of the pass. -/
def texts : Document → List String
  | text s | secret s => [s]
  | link c => c.texts
  | list items => textsOfItems items
  | dict entries => textsOfEntries entries
  | other _ => []

/-- The texts of the items of a list. -/
def textsOfItems : List Document → List String
  | [] => []
  | d :: ds => texts d ++ textsOfItems ds

/-- The texts of the entries of a dictionary. -/
def textsOfEntries : List (String × Document) → List String
  | [] => []
  | (_, d) :: es => texts d ++ textsOfEntries es

end

mutual

/-- A document with all its texts erased. -/
def shape : Document → Document
  | text _ => text ""
  | secret _ => secret ""
  | link c => link c.shape
  | list items => list (shapeOfItems items)
  | dict entries => dict (shapeOfEntries entries)
  | other v => other v

/-- The items of a list with their texts erased. -/
def shapeOfItems : List Document → List Document
  | [] => []
  | d :: ds => shape d :: shapeOfItems ds

/-- The entries of a dictionary with their texts erased. -/
def shapeOfEntries : List (String × Document) → List (String × Document)
  | [] => []
  | (k, d) :: es => (k, shape d) :: shapeOfEntries es

end

mutual

theorem texts_resolve (P : Providers) :
    ∀ d : Document, texts <$> d.resolve P = d.texts.mapM (Reference.resolve P)
  | text s | secret s => by simp [resolve, texts]
  | link c => by simp [resolve, texts, ← c.texts_resolve]
  | list items => by simp [resolve, texts, ← texts_resolveItems P items]
  | dict entries => by simp [resolve, texts, ← texts_resolveEntries P entries]
  | other _ => rfl

theorem texts_resolveItems (P : Providers) :
    ∀ ds, textsOfItems <$> resolveItems P ds = (textsOfItems ds).mapM (Reference.resolve P)
  | [] => rfl
  | d :: ds => by
    simp [resolveItems, textsOfItems, List.mapM_append, ← texts_resolve P d,
      ← texts_resolveItems P ds]

theorem texts_resolveEntries (P : Providers) :
    ∀ es, textsOfEntries <$> resolveEntries P es
      = (textsOfEntries es).mapM (Reference.resolve P)
  | [] => rfl
  | (k, d) :: es => by
    simp [resolveEntries, textsOfEntries, List.mapM_append, ← texts_resolve P d,
      ← texts_resolveEntries P es]

end

mutual

theorem shape_of_resolve : ∀ {d d' : Document}, d.resolve P = .ok d' → d'.shape = d.shape
  | text s, d', ok | secret s, d', ok => by
    rw [resolve] at ok
    obtain ⟨v, -, ok⟩ := Success.exists_of_bind ok
    cases ok
    rfl
  | link c, d', ok => by
    rw [resolve] at ok
    obtain ⟨c', resolved, ok⟩ := Success.exists_of_bind ok
    cases ok
    exact congrArg link (LinkConfig.shape_of_resolve resolved)
  | list items, d', ok => by
    rw [resolve] at ok
    obtain ⟨items', resolved, ok⟩ := Success.exists_of_bind ok
    cases ok
    exact congrArg list (shape_of_resolveItems resolved)
  | dict entries, d', ok => by
    rw [resolve] at ok
    obtain ⟨entries', resolved, ok⟩ := Success.exists_of_bind ok
    cases ok
    exact congrArg dict (shape_of_resolveEntries resolved)
  | other v, d', ok => by
    rw [resolve] at ok
    cases ok
    rfl

theorem shape_of_resolveItems :
    ∀ {ds ds' : List Document}, resolveItems P ds = .ok ds' → shapeOfItems ds' = shapeOfItems ds
  | [], ds', ok => by
    cases ok
    rfl
  | d :: ds, ds', ok => by
    rw [resolveItems] at ok
    obtain ⟨d', here, ok⟩ := Success.exists_of_bind ok
    obtain ⟨rest, later, ok⟩ := Success.exists_of_bind ok
    cases ok
    rw [shapeOfItems, shapeOfItems, shape_of_resolve here, shape_of_resolveItems later]

theorem shape_of_resolveEntries :
    ∀ {es es' : List (String × Document)}, resolveEntries P es = .ok es' →
      shapeOfEntries es' = shapeOfEntries es
  | [], es', ok => by
    cases ok
    rfl
  | (k, d) :: es, es', ok => by
    rw [resolveEntries] at ok
    obtain ⟨d', here, ok⟩ := Success.exists_of_bind ok
    obtain ⟨rest, later, ok⟩ := Success.exists_of_bind ok
    cases ok
    rw [shapeOfEntries, shapeOfEntries, shape_of_resolve here, shape_of_resolveEntries later]

end

mutual

/-- Documents of one shape are the same if their texts are, and the texts are apart from what
follows. -/
theorem eq_of_shape : ∀ {d d' : Document} {rest rest' : List String}, d.shape = d'.shape →
    d.texts ++ rest = d'.texts ++ rest' → d = d' ∧ rest = rest'
  | text s, d', _, _, same, texts => by
    cases d' with
    | text s' => exact (List.cons.inj texts).imp_left (congrArg text)
    | _ => cases same
  | secret s, d', _, _, same, texts => by
    cases d' with
    | secret s' => exact (List.cons.inj texts).imp_left (congrArg secret)
    | _ => cases same
  | link c, d', _, _, same, texts => by
    cases d' with
    | link c' => exact (LinkConfig.eq_of_shape (link.inj same) texts).imp_left (congrArg link)
    | _ => cases same
  | list items, d', _, _, same, texts => by
    cases d' with
    | list items' => exact (eq_of_shapeOfItems (list.inj same) texts).imp_left (congrArg list)
    | _ => cases same
  | dict entries, d', _, _, same, texts => by
    cases d' with
    | dict entries' => exact (eq_of_shapeOfEntries (dict.inj same) texts).imp_left (congrArg dict)
    | _ => cases same
  | other v, d', _, _, same, texts => by
    cases d' with
    | other v' => exact ⟨same, texts⟩
    | _ => cases same

theorem eq_of_shapeOfItems : ∀ {ds ds' : List Document} {rest rest' : List String},
    shapeOfItems ds = shapeOfItems ds' → textsOfItems ds ++ rest = textsOfItems ds' ++ rest' →
      ds = ds' ∧ rest = rest'
  | [], [], _, _, _, texts => ⟨rfl, texts⟩
  | d :: ds, d' :: ds', _, _, same, texts => by
    obtain ⟨here, later⟩ := List.cons.inj same
    rw [textsOfItems, textsOfItems, List.append_assoc, List.append_assoc] at texts
    obtain ⟨rfl, behind⟩ := eq_of_shape here texts
    exact (eq_of_shapeOfItems later behind).imp_left (congrArg (d :: ·))

theorem eq_of_shapeOfEntries : ∀ {es es' : List (String × Document)} {rest rest' : List String},
    shapeOfEntries es = shapeOfEntries es' →
    textsOfEntries es ++ rest = textsOfEntries es' ++ rest' → es = es' ∧ rest = rest'
  | [], [], _, _, _, texts => ⟨rfl, texts⟩
  | (k, d) :: es, (k', d') :: es', _, _, same, texts => by
    obtain ⟨entry, later⟩ := List.cons.inj same
    obtain ⟨rfl, here⟩ := Prod.mk.inj entry
    rw [textsOfEntries, textsOfEntries, List.append_assoc, List.append_assoc] at texts
    obtain ⟨rfl, behind⟩ := eq_of_shape here texts
    exact (eq_of_shapeOfEntries later behind).imp_left (congrArg ((k, d) :: ·))

end

/-! ### The pass -/

/-- A document is resolved to the document of the same shape in which each text is replaced. -/
theorem resolve_eq_ok_iff :
    d.resolve P = .ok d'
      ↔ d'.shape = d.shape ∧ List.Forall₂ (Reference.Replaced P) d.texts d'.texts := by
  have replaced : Reference.Replaced P = fun s v => Reference.resolve P s = .ok v := by
    funext s v
    exact propext Reference.resolve_eq_ok_iff.symm
  rw [replaced, ← Success.mapM_eq_ok_iff, ← texts_resolve]
  constructor
  · intro ok
    exact ⟨shape_of_resolve ok, by rw [ok]; rfl⟩
  · rintro ⟨same, texts⟩
    cases resolved : d.resolve P with
    | error fault =>
      rw [resolved] at texts
      cases texts
    | ok d'' =>
      rw [resolved] at texts
      have alike : d''.shape = d'.shape := (shape_of_resolve resolved).trans same.symm
      have texts : d''.texts ++ [] = d'.texts ++ [] := congrArg (· ++ []) (Except.ok.inj texts)
      rw [(eq_of_shape alike texts).1]

/-- A document has the fault of the first of its texts that is broken. -/
theorem resolve_eq_error_iff {fault : Fault} :
    d.resolve P = .error fault ↔ ∃ before s after, d.texts = before ++ s :: after
      ∧ (∀ b ∈ before, ∃ v, Reference.Replaced P b v) ∧ Reference.Broken P s fault := by
  simp only [← Reference.resolve_eq_ok_iff, ← Reference.resolve_eq_error_iff]
  rw [← Success.mapM_eq_error_iff, ← texts_resolve]
  cases d.resolve P with
  | error fault' => exact ⟨fun failed => failed ▸ rfl, fun failed => by cases failed; rfl⟩
  | ok d' => exact ⟨nofun, nofun⟩

/-- To resolve a document gives just the document of the same shape in which each text is replaced
once, or the fault of the first text that is broken, which there is unless none is. -/
theorem resolve_iff (P : Providers) (d : Document) :
    (∀ d', d.resolve P = .ok d'
      ↔ d'.shape = d.shape ∧ List.Forall₂ (Reference.Replaced P) d.texts d'.texts)
    ∧ (∀ fault, d.resolve P = .error fault ↔ ∃ before s after, d.texts = before ++ s :: after
      ∧ (∀ b ∈ before, ∀ cause, ¬ Reference.Broken P b cause) ∧ Reference.Broken P s fault)
    ∧ ((∃ fault, d.resolve P = .error fault)
      ↔ ∃ s ∈ d.texts, ∃ cause, Reference.Broken P s cause) := by
  refine ⟨fun d' => resolve_eq_ok_iff, fun fault => ?_, ?_, ?_⟩
  · rw [resolve_eq_error_iff]
    simp only [Reference.exists_replaced_iff]
  · rintro ⟨fault, failed⟩
    obtain ⟨before, s, after, split, -, broken⟩ := resolve_eq_error_iff.mp failed
    exact ⟨s, by simp [split], fault, broken⟩
  · rintro ⟨s, among, cause, broken⟩
    cases resolved : d.resolve P with
    | error fault => exact ⟨fault, rfl⟩
    | ok d' =>
      have texts := (texts_resolve P d).symm
      rw [resolved] at texts
      obtain ⟨v, -, here⟩ := Success.exists_mem_of_mapM texts s among
      cases broken.resolve.symm.trans here

/-- A value that looks like a reference is not resolved, and a secret stays one. -/
example :
    let P : Providers :=
      [("env", fun key => if key = "URL" then some "$\x7benv:NONE\x7d" else none)]
    (dict [("$\x7benv:KEY\x7d", list [secret "$\x7benv:URL\x7d", text "$\x7bopen"])]).resolve P
      = .ok (dict [("$\x7benv:KEY\x7d", list [secret "$\x7benv:NONE\x7d", text "$\x7bopen"])]) := by
  rfl

end Document

end LinkedTables.Configuration
