import ModuleSurvey.Attribute
import ModuleSurvey.Module
import ModuleSurvey.Statement

/-! # Declaring into a module

What each statement of a file does to the module. A primary file declares: a later declaration of
a name takes the place of an earlier one, and is reported. An override file amends what is
declared already, attribute by attribute.

* `FileRole` — primary or override.
* `Problem` — what can be wrong with a statement, in words.
* `SortedMap.declare`, `Outcome` — bringing one entry into a map, in either role.
* `VariableBody`, `OutputBody`, `ResourceBody`, `CallBody` — what the body of a block says, as a
  fresh entry and as an amendment of an earlier one.
* `Module.declare`, `Module.decode` — one statement, and the body of a file.
-/

namespace ModuleSurvey

open Json (Value Members)

/-- Whether a file declares or amends. -/
inductive FileRole where
  | primary
  | override
  deriving DecidableEq, Repr, Inhabited

/-! ## Problems -/

inductive Problem where
  | noBody
  | malformedBlock (word detail : String)
  | invalidAttribute (context name : String) (fault : AttributeFault)
  | malformedRequirement (provider : String)
  | severalSources (provider existing other : String)
  | missingSource (call : String)
  | missingBase (kind name : String)
  | duplicate (kind name : String) (previous : SourcePos)
  deriving DecidableEq, Repr

namespace Problem

def summary : Problem → String
  | noBody => "Invalid configuration file"
  | malformedBlock word _ => "Invalid " ++ word ++ " block"
  | invalidAttribute .. => "Invalid attribute value"
  | malformedRequirement _ => "Invalid required_providers entry"
  | severalSources .. => "Multiple provider source attributes"
  | missingSource _ => "Missing source for module call"
  | missingBase kind _ => "Missing base " ++ kind ++ " declaration to override"
  | duplicate kind .. => "Duplicate " ++ kind ++ " declaration"

def detail : Problem → String
  | noBody => "The root of a configuration file must be an object."
  | malformedBlock _ detail => detail
  | invalidAttribute context name fault =>
    context ++ ": " ++ name ++ " " ++ fault.message ++ "."
  | malformedRequirement provider =>
    "Requirement for provider \"" ++ provider ++ "\" must be a version string or an object."
  | severalSources provider existing other =>
    "Found multiple source attributes for provider " ++ provider ++ ": \"" ++ existing
      ++ "\", \"" ++ other ++ "\""
  | missingSource call => "The module call \"" ++ call ++ "\" has no source argument."
  | missingBase kind name =>
    "There is no " ++ kind ++ " named \"" ++ name
      ++ "\". An override file can only override an existing declaration."
  | duplicate kind name previous =>
    "A " ++ kind ++ " named \"" ++ name ++ "\" was already declared at " ++ previous.text
      ++ ". Names must be unique within a module."

def diagnostic (p : Problem) (pos : SourcePos) : Diagnostic :=
  .errorAt pos p.summary p.detail

end Problem

def Module.complain (m : Module) (pos : SourcePos) (p : Problem) : Module :=
  m.report (p.diagnostic pos)

def Attribute.problems {α : Type} (a : Attribute α) (context name : String) : List Problem :=
  a.fault?.toList.map (.invalidAttribute context name)

def Module.complainAll (m : Module) (pos : SourcePos) (ps : List Problem) : Module :=
  m.reportAll (ps.map (·.diagnostic pos))

/-! ## Bringing an entry into a map -/

inductive Outcome (α : Type) where
  | added
  /-- The entry took the place of an earlier one. -/
  | replaced (previous : α)
  | amended
  /-- There is no entry to amend, and the fresh one was added. -/
  | orphaned

def SortedMap.declare {α : Type} (m : SortedMap α) (role : FileRole) (key : String) (fresh : α)
    (amend : α → α) : SortedMap α × Outcome α :=
  match role, m.get? key with
  | .override, some base => (m.insert key (amend base), .amended)
  | .override, none => (m.insert key fresh, .orphaned)
  | .primary, some previous => (m.insert key fresh, .replaced previous)
  | .primary, none => (m.insert key fresh, .added)

/-- The problem of an outcome for the entry of a kind and name. `place` is where an entry was
declared. -/
def Outcome.problems {α : Type} (kind name : String) (place : α → SourcePos) :
    Outcome α → List Problem
  | added | amended => []
  | replaced previous => [.duplicate kind name (place previous)]
  | orphaned => [.missingBase kind name]

/-! ## Bodies -/

structure VariableBody where
  type : Attribute String
  description : Attribute String
  sensitive : Attribute Bool
  default : Option Value

namespace VariableBody

def read (body : Members) : VariableBody where
  type := (Attribute.string body "type").map unwrapTemplate
  description := .string body "description"
  sensitive := .bool body "sensitive"
  default := body.get? "default"

def problems (b : VariableBody) (name : String) : List Problem :=
  let context := "variable \"" ++ name ++ "\""
  b.type.problems context "type" ++ b.description.problems context "description"
    ++ b.sensitive.problems context "sensitive"

def withDefault (b : VariableBody) (v : Variable) : Variable :=
  match b.default with
  | some d => v.setDefault d
  | none => v

def declare (b : VariableBody) (name : String) (pos : SourcePos) : Variable :=
  b.withDefault { Variable.new name pos with
    type := b.type.value?
    description := b.description.value?.getD ""
    sensitive := b.sensitive.value?.getD false }

def amend (b : VariableBody) (base : Variable) : Variable :=
  b.withDefault { base with
    type := if b.type.isNamed then b.type.value? else base.type
    description := b.description.onto "" base.description
    sensitive := b.sensitive.onto false base.sensitive }

end VariableBody

structure OutputBody where
  description : Attribute String
  sensitive : Attribute Bool

namespace OutputBody

def read (body : Members) : OutputBody where
  description := .string body "description"
  sensitive := .bool body "sensitive"

def problems (b : OutputBody) (name : String) : List Problem :=
  let context := "output \"" ++ name ++ "\""
  b.description.problems context "description" ++ b.sensitive.problems context "sensitive"

def declare (b : OutputBody) (name : String) (pos : SourcePos) : Output :=
  ⟨name, b.description.value?.getD "", b.sensitive.value?.getD false, pos⟩

def amend (b : OutputBody) (base : Output) : Output :=
  { base with
    description := b.description.onto "" base.description
    sensitive := b.sensitive.onto false base.sensitive }

end OutputBody

/-- What the body of a resource says: which provider it belongs to. -/
structure ResourceBody where
  provider : Attribute ProviderRef

namespace ResourceBody

def read (body : Members) : ResourceBody where
  provider := (Attribute.string body "provider").map fun s => .parse (unwrapTemplate s)

def problems (b : ResourceBody) (mode : ResourceMode) (type name : String) : List Problem :=
  b.provider.problems
    ((BlockType.resource mode).word ++ " \"" ++ type ++ "\" \"" ++ name ++ "\"") "provider"

def declare (b : ResourceBody) (mode : ResourceMode) (type name : String) (pos : SourcePos) :
    Resource :=
  { Resource.new mode type name pos with
    provider := b.provider.value?.getD (.plain (impliedProvider type)) }

/-- An earlier resource, amended by the body: a provider that does not do falls back to the one
the type implies. -/
def amend (b : ResourceBody) (type : String) (base : Resource) : Resource :=
  { base with provider := b.provider.onto (.plain (impliedProvider type)) base.provider }

end ResourceBody

structure CallBody where
  source : Attribute String
  version : Attribute String

namespace CallBody

def read (body : Members) : CallBody where
  source := .string body "source"
  version := .string body "version"

def problems (b : CallBody) (role : FileRole) (name : String) : List Problem :=
  let context := "module \"" ++ name ++ "\""
  let source :=
    match role, b.source with
    -- A primary file has to give the source.
    | .primary, .missing | .primary, .null => [.missingSource name]
    | _, source => source.problems context "source"
  source ++ b.version.problems context "version"

def declare (b : CallBody) (name : String) (pos : SourcePos) : ModuleCall :=
  ⟨name, b.source.value?.getD "", b.version.value?.getD "", pos⟩

def amend (b : CallBody) (base : ModuleCall) : ModuleCall :=
  { base with
    source := b.source.onto "" base.source
    version := b.version.onto "" base.version }

end CallBody

/-! ## Statements -/

namespace Module

def addVersion (m : Module) (role : FileRole) (provider constraint : String) : Module :=
  m.updateRequirement provider fun r =>
    match role with
    | .primary => { r with versionConstraints := r.versionConstraints ++ [constraint] }
    -- The constraints of an override file replace all earlier ones.
    | .override => { r with versionConstraints := [constraint] }

def setSource (m : Module) (role : FileRole) (pos : SourcePos) (provider source : String) :
    Module :=
  let existing := (m.requirement provider).source
  -- In a primary file the first source counts, and a different one is a problem.
  if existing = "" ∨ role = .override then
    m.updateRequirement provider fun r => { r with source := source }
  else
    let m := m.requireProvider provider
    if existing = source then m
    else m.complain pos (.severalSources provider existing source)

/-- A configuration that a caller has to pass in. -/
def addConfigurationAlias (m : Module) (provider aliasName : String) : Module :=
  let r := ProviderRef.parse (unwrapTemplate aliasName)
  let m := if r.hasAlias then m.addAlias r.name r.aliasName else m
  m.updateRequirement provider fun req =>
    if req.configurationAliases.contains r then req
    else { req with configurationAliases := req.configurationAliases ++ [r] }

def declareRequirement (m : Module) (role : FileRole) (pos : SourcePos) (provider : String) :
    Value → Module
  -- A string constrains the version, and an object says more.
  | .string constraint => m.addVersion role provider constraint
  | .object attrs =>
    let context := "required_providers." ++ provider
    let m :=
      match Attribute.string attrs "source" with
      | .given source => m.setSource role pos provider source
      | .rejected f => m.complain pos (.invalidAttribute context "source" f)
      | _ => m.requireProvider provider
    let m :=
      match Attribute.string attrs "version" with
      | .given constraint => m.addVersion role provider constraint
      | .rejected f => m.complain pos (.invalidAttribute context "version" f)
      | _ => m
    match Attribute.strings attrs "configuration_aliases" with
    | .given aliases => aliases.foldl (·.addConfigurationAlias provider ·) m
    | .rejected f => m.complain pos (.invalidAttribute context "configuration_aliases" f)
    | _ => m
  | _ => m.complain pos (.malformedRequirement provider)

def declareRequirements (m : Module) (role : FileRole) (pos : SourcePos) (required : Value) :
    Module :=
  match Block.collect [] 0 required with
  | .error f => m.complain pos (.malformedBlock "required_providers" f.message)
  | .ok blocks =>
    blocks.foldl (fun m block =>
      block.body.foldl (fun m e => m.declareRequirement role pos e.1 e.2) m) m

def declareTerraform (m : Module) (role : FileRole) (pos : SourcePos) (body : Members) : Module :=
  let m :=
    match Attribute.string body "required_version", role with
    | .given constraint, .primary => { m with requiredCore := m.requiredCore ++ [constraint] }
    -- The constraint of an override file replaces all earlier ones.
    | .given constraint, .override => { m with requiredCore := [constraint] }
    | .rejected f, _ => m.complain pos (.invalidAttribute "terraform" "required_version" f)
    | _, _ => m
  match body.get? "required_providers" with
  | none => m
  | some required => m.declareRequirements role pos required

def declareProvider (m : Module) (role : FileRole) (pos : SourcePos) (name : String)
    (body : Members) : Module :=
  let context := "provider \"" ++ name ++ "\""
  let m := m.requireProvider name
  let m :=
    match Attribute.string body "version" with
    | .given constraint => m.addVersion role name constraint
    | .rejected f => m.complain pos (.invalidAttribute context "version" f)
    | _ => m
  match Attribute.string body "alias" with
  | .given aliasName => m.addAlias name (unwrapTemplate aliasName)
  | .rejected f => m.complain pos (.invalidAttribute context "alias" f)
  | _ => m

def declareVariable (m : Module) (role : FileRole) (pos : SourcePos) (name : String)
    (body : Members) : Module :=
  let b := VariableBody.read body
  let (inputs, outcome) := m.inputs.declare role name (b.declare name pos) b.amend
  { m with inputs := inputs }.complainAll pos
    (b.problems name ++ outcome.problems "variable" name Variable.pos)

def declareOutput (m : Module) (role : FileRole) (pos : SourcePos) (name : String)
    (body : Members) : Module :=
  let b := OutputBody.read body
  let (outputs, outcome) := m.outputs.declare role name (b.declare name pos) b.amend
  { m with outputs := outputs }.complainAll pos
    (b.problems name ++ outcome.problems "output" name Output.pos)

def resourceKind : ResourceMode → String
  | .managed => "resource"
  | .data => "data resource"

def declareResource (m : Module) (role : FileRole) (pos : SourcePos) (mode : ResourceMode)
    (type name : String) (body : Members) : Module :=
  let b := ResourceBody.read body
  let fresh := b.declare mode type name pos
  let m :=
    if fresh.provider.hasAlias then m.addAlias fresh.provider.name fresh.provider.aliasName else m
  -- The provider is required in either role, whatever becomes of the resource.
  let m := m.requireProvider fresh.provider.name
  let (resources, outcome) := (m.resourcesOf mode).declare role fresh.address fresh (b.amend type)
  (m.setResourcesOf mode resources).complainAll pos
    (b.problems mode type name
      ++ outcome.problems (resourceKind mode) fresh.address Resource.pos)

def declareCall (m : Module) (role : FileRole) (pos : SourcePos) (name : String)
    (body : Members) : Module :=
  let b := CallBody.read body
  let fresh := b.declare name pos
  let (calls, outcome) := m.moduleCalls.declare role name fresh b.amend
  -- A call without source is reported also where an override file has no call to amend.
  let orphan :=
    match outcome with
    | .orphaned => if fresh.source = "" then [.missingSource name] else []
    | _ => []
  { m with moduleCalls := calls }.complainAll pos
    (b.problems role name ++ orphan ++ outcome.problems "module call" name ModuleCall.pos)

def declare (role : FileRole) (m : Module) : Statement → Module
  | .terraform pos body => m.declareTerraform role pos body
  | .provider pos name body => m.declareProvider role pos name body
  | .inputVariable pos name body => m.declareVariable role pos name body
  | .output pos name body => m.declareOutput role pos name body
  | .resource pos mode type name body => m.declareResource role pos mode type name body
  | .moduleCall pos name body => m.declareCall role pos name body
  | .malformed pos type fault => m.complain pos (.malformedBlock type.word fault.message)
  | .noBody pos => m.complain pos .noBody

def decode (m : Module) (role : FileRole) (index : BlockIndex) (body : Value) : Module :=
  (Statement.ofBody body index).1.foldl (declare role) m

end Module

end ModuleSurvey
