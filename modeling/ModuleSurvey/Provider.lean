import ModuleSurvey.SortedMap
import ModuleSurvey.Text.Lines

/-! # Providers

* `ProviderRef` — a reference to a provider's configuration, `name` or `name.alias`;
  `ProviderRef.parse` reads it and `ProviderRef.text` writes it.
* `ProviderRequirement` — what a module needs of a provider.
* `ProviderAliases` — the aliases under which each provider is known, in the order in which they
  were first seen.
* `impliedProvider` — the provider that a resource type names.
-/

namespace ModuleSurvey

/-! ## References -/

/-- A provider's local name and an alias, empty if there is none. -/
structure ProviderRef where
  name : String
  aliasName : String
  deriving DecidableEq, Repr, Inhabited

namespace ProviderRef

def plain (name : String) : ProviderRef := ⟨name, ""⟩

def parse (s : String) : ProviderRef :=
  match Text.cutAtFirst? '.' s.toList with
  -- What follows the first dot is the alias.
  | some (name, aliasName) => ⟨String.ofList name, String.ofList aliasName⟩
  | none => plain s

def hasAlias (r : ProviderRef) : Bool := r.aliasName ≠ ""

def text (r : ProviderRef) : String :=
  if r.aliasName = "" then r.name else r.name ++ "." ++ r.aliasName

end ProviderRef

def impliedProvider (type : String) : String :=
  match Text.cutAtFirst? '_' type.toList with
  | some (name, _) => String.ofList name
  | none => type

/-! ## Requirements -/

/-- What a module needs of a provider: its source address, empty if not given, the constraints on
its version, and the aliased configurations that a caller has to pass in. -/
structure ProviderRequirement where
  source : String
  versionConstraints : List String
  configurationAliases : List ProviderRef
  deriving DecidableEq, Repr

def ProviderRequirement.empty : ProviderRequirement := ⟨"", [], []⟩

instance : Inhabited ProviderRequirement := ⟨.empty⟩

/-! ## Aliases -/

structure ProviderAliases where
  byName : SortedMap (List String)
  deriving DecidableEq

namespace ProviderAliases

def empty : ProviderAliases := ⟨∅⟩

instance : EmptyCollection ProviderAliases := ⟨empty⟩
instance : Inhabited ProviderAliases := ⟨empty⟩

def get? (a : ProviderAliases) (provider : String) : Option (List String) :=
  a.byName.get? provider

def add (a : ProviderAliases) (provider aliasName : String) : ProviderAliases :=
  match a.get? provider with
  | none => ⟨a.byName.insert provider [aliasName]⟩
  | some known =>
    -- A known alias is not recorded again.
    if known.contains aliasName then a else ⟨a.byName.insert provider (known ++ [aliasName])⟩

def contains (a : ProviderAliases) (provider : String) : Bool := a.byName.contains provider

def size (a : ProviderAliases) : Nat := a.byName.size

def isEmpty (a : ProviderAliases) : Bool := a.byName.isEmpty

def toList (a : ProviderAliases) : List (String × List String) := a.byName.entries

def ofMap (m : SortedMap (List String)) : ProviderAliases :=
  m.entries.foldl (fun a e => e.2.foldl (fun a aliasName => a.add e.1 aliasName) a) empty

end ProviderAliases

end ModuleSurvey
