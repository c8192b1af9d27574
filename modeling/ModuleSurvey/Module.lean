import ModuleSurvey.Declaration
import ModuleSurvey.Diagnostic

/-! # Modules

The model of one configuration directory.

* `Module` — everything the directory declares, each map in the order of its keys, and the
  problems found on the way.
* `Module.insertResource`, `Module.requireProvider`, `Module.report` — ways to add to it.
-/

namespace ModuleSurvey

structure Module where
  path : String
  inputs : SortedMap Variable
  outputs : SortedMap Output
  /-- The constraints on the version of the program that runs the module. -/
  requiredCore : List String
  requiredProviders : SortedMap ProviderRequirement
  providerAliases : ProviderAliases
  managedResources : SortedMap Resource
  dataResources : SortedMap Resource
  moduleCalls : SortedMap ModuleCall
  diagnostics : Diagnostics
  deriving DecidableEq

namespace Module

def new (path : String) : Module := ⟨path, ∅, ∅, [], ∅, ∅, ∅, ∅, ∅, []⟩

instance : Inhabited Module := ⟨new ""⟩

def report (m : Module) (d : Diagnostic) : Module :=
  { m with diagnostics := m.diagnostics ++ [d] }

def reportAll (m : Module) (ds : Diagnostics) : Module :=
  { m with diagnostics := m.diagnostics ++ ds }

def resourcesOf (m : Module) : ResourceMode → SortedMap Resource
  | .managed => m.managedResources
  | .data => m.dataResources

def setResourcesOf (m : Module) (mode : ResourceMode) (rs : SortedMap Resource) : Module :=
  match mode with
  | .managed => { m with managedResources := rs }
  | .data => { m with dataResources := rs }

def insertResource (m : Module) (r : Resource) : Module :=
  m.setResourcesOf r.mode ((m.resourcesOf r.mode).insert r.address r)

def requirement (m : Module) (provider : String) : ProviderRequirement :=
  (m.requiredProviders.get? provider).getD .empty

/-- Changes the requirement for a provider, which is empty before if there was none. -/
def updateRequirement (m : Module) (provider : String)
    (f : ProviderRequirement → ProviderRequirement) : Module :=
  { m with requiredProviders := m.requiredProviders.insert provider (f (m.requirement provider)) }

def requireProvider (m : Module) (provider : String) : Module :=
  m.updateRequirement provider id

def addAlias (m : Module) (provider aliasName : String) : Module :=
  { m with providerAliases := m.providerAliases.add provider aliasName }

def hasErrors (m : Module) : Bool := m.diagnostics.hasErrors

/-- All resources: the managed ones first, each group in the order of its addresses. -/
def resources (m : Module) : List Resource :=
  m.managedResources.values ++ m.dataResources.values

end Module

end ModuleSurvey
