import LinkedTables.Dialect.Vendor

/-!
# Canonical identifiers

How a remote database folds the case of identifiers is told by four `Flags`. `canonical` maps an
identifier as the remote side reports it to the form under which the local engine knows it: upper
case wherever the remote side does not tell the cases apart, unchanged elsewhere
(`canonical_eq_upper_or_self`).
-/

namespace LinkedTables.Dialect

/-- How a remote database treats the case of identifiers. -/
structure Flags where
  /-- Unquoted identifiers are stored in lower case. -/
  storesLower : Bool
  /-- Unquoted identifiers are stored as written and compared without case. -/
  storesMixed : Bool
  /-- Quoted identifiers are stored as written and compared without case. -/
  storesMixedQuoted : Bool
  /-- Unquoted identifiers are told apart by case. -/
  supportsMixed : Bool
deriving DecidableEq, Repr

namespace Flags

/-- No flag is set. -/
def none : Flags := ⟨false, false, false, false⟩

instance : Inhabited Flags := ⟨none⟩

/-- The flags by name. -/
def toList (f : Flags) : List (String × Bool) :=
  [("stores_lower_case", f.storesLower), ("stores_mixed_case", f.storesMixed),
    ("stores_mixed_case_quoted", f.storesMixedQuoted),
    ("supports_mixed_case_identifiers", f.supportsMixed)]

/-- The flags that are set by name; a flag that is not named is not set. -/
def ofNames (isSet : String → Bool) : Flags :=
  ⟨isSet "stores_lower_case", isSet "stores_mixed_case", isSet "stores_mixed_case_quoted",
    isSet "supports_mixed_case_identifiers"⟩

/-- The dialects whose flags are known, by name. -/
def known : List (String × Flags) :=
  [("postgresql", ⟨true, false, false, false⟩),
    ("mysql", ⟨false, false, true, true⟩),
    ("mariadb", ⟨false, false, true, true⟩),
    ("mssql", ⟨false, true, true, false⟩),
    ("sqlite", ⟨false, true, false, true⟩),
    ("teradata", ⟨false, true, false, false⟩),
    ("h2", ⟨false, false, true, true⟩)]

/-- The flags of a dialect. One that is not known but reports its case-insensitive identifiers in
lower case counts as storing them so. -/
def ofDialect (name : String) (normalizesNames : Bool) : Flags :=
  match known.find? (·.1 == Text.lower name) with
  | some (_, flags) => flags
  | Option.none => if normalizesNames then ⟨true, false, false, false⟩ else none

end Flags

/-- Whether an identifier is folded to upper case. -/
def folds (name : String) (flags : Flags) (vendor : Vendor) : Bool :=
  vendor == .mysql
    || ((flags.storesMixed || flags.storesLower) && name == Text.lower name)
    || (flags.storesMixed && !flags.supportsMixed)
    || (flags.storesMixed && flags.storesMixedQuoted)

/-- The canonical form of an identifier. -/
def canonical (flags : Flags) (vendor : Vendor) (name : String) : String :=
  if folds name flags vendor then Text.upper name else name

theorem canonical_eq_upper_or_self (flags : Flags) (vendor : Vendor) (name : String) :
    canonical flags vendor name = Text.upper name ∨ canonical flags vendor name = name := by
  unfold canonical
  split <;> simp

end LinkedTables.Dialect
