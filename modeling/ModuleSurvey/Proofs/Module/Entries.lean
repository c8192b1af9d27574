import ModuleSurvey.Proofs.EntryKind

/-! # The entries of a module

Each statement of a file touches the entries of one kind only, and what it does there depends on
no other part of the module. So the entries of a kind after a run of statements are those that the
blocks of the kind make, one after the other.

* `Module.entries` — the path and the entries of a module, without its bookkeeping of providers and
  problems.
* `EntryKind.inputVariable`, `output`, `resource`, `moduleCall` — the kinds of entries.
* `declare_inputs` and its companions — what one statement does to the entries of a kind.
* `ParsedFile`, `Module.decodeAll` — bringing one file after the other into a module.
-/

namespace ModuleSurvey

open Json (Value Members)

/-! ## The entries apart from the bookkeeping -/

structure Entries where
  path : String
  inputs : SortedMap Variable
  outputs : SortedMap Output
  managedResources : SortedMap Resource
  dataResources : SortedMap Resource
  moduleCalls : SortedMap ModuleCall

namespace Module

def entries (m : Module) : Entries where
  path := m.path
  inputs := m.inputs
  outputs := m.outputs
  managedResources := m.managedResources
  dataResources := m.dataResources
  moduleCalls := m.moduleCalls

@[simp] theorem entries_complain (m : Module) (pos : SourcePos) (problem : Problem) :
    (m.complain pos problem).entries = m.entries := rfl

@[simp] theorem entries_updateRequirement (m : Module) (provider : String)
    (f : ProviderRequirement → ProviderRequirement) :
    (m.updateRequirement provider f).entries = m.entries := rfl

@[simp] theorem entries_requireProvider (m : Module) (provider : String) :
    (m.requireProvider provider).entries = m.entries := rfl

@[simp] theorem entries_addAlias (m : Module) (provider aliasName : String) :
    (m.addAlias provider aliasName).entries = m.entries := rfl

@[simp] theorem entries_addVersion (m : Module) (role : FileRole) (provider constraint : String) :
    (m.addVersion role provider constraint).entries = m.entries := rfl

@[simp] theorem entries_setSource (m : Module) (role : FileRole) (pos : SourcePos)
    (provider source : String) : (m.setSource role pos provider source).entries = m.entries := by
  simp only [setSource]
  split
  · rfl
  · split <;> rfl

@[simp] theorem entries_addConfigurationAlias (m : Module) (provider aliasName : String) :
    (m.addConfigurationAlias provider aliasName).entries = m.entries := by
  simp only [addConfigurationAlias]
  split <;> rfl

theorem entries_foldl {γ : Type} {f : Module → γ → Module}
    (kept : ∀ m c, (f m c).entries = m.entries) (cs : List γ) (m : Module) :
    (cs.foldl f m).entries = m.entries :=
  List.foldlRecOn (motive := fun after => after.entries = m.entries) cs f rfl
    fun after same c _ => (kept after c).trans same

@[simp] theorem entries_declareRequirement (m : Module) (role : FileRole) (pos : SourcePos)
    (provider : String) (value : Value) :
    (m.declareRequirement role pos provider value).entries = m.entries := by
  cases value with
  | string constraint => rfl
  | object attrs =>
    -- Whether the source and the constraint are there, and whether the aliases are well formed,
    -- decides about the requirement and the problems alone.
    simp only [declareRequirement]
    split
    · rw [entries_foldl fun m aliasName => entries_addConfigurationAlias m provider aliasName]
      split <;> split <;> simp
    · split <;> split <;> simp
    · split <;> split <;> simp
  | null | bool | number | array => rfl

@[simp] theorem entries_declareRequirements (m : Module) (role : FileRole) (pos : SourcePos)
    (required : Value) : (m.declareRequirements role pos required).entries = m.entries := by
  unfold declareRequirements
  split
  · rfl
  · apply entries_foldl
    intro m block
    apply entries_foldl
    intro m entry
    exact entries_declareRequirement m role pos entry.1 entry.2

@[simp] theorem entries_declareTerraform (m : Module) (role : FileRole) (pos : SourcePos)
    (body : Members) : (m.declareTerraform role pos body).entries = m.entries := by
  unfold declareTerraform
  cases body.get? "required_providers" with
  | none => dsimp only; split <;> rfl
  | some required =>
    dsimp only
    rw [entries_declareRequirements]
    split <;> rfl

@[simp] theorem entries_declareProvider (m : Module) (role : FileRole) (pos : SourcePos)
    (name : String) (body : Members) :
    (m.declareProvider role pos name body).entries = m.entries := by
  simp only [declareProvider]
  split <;> split <;> simp

end Module

/-! ## The kinds -/

structure NamedBlock where
  pos : SourcePos
  name : String
  body : Members

structure ResourceBlock where
  pos : SourcePos
  type : String
  name : String
  body : Members

namespace EntryKind

def inputVariable : EntryKind NamedBlock Variable where
  key block := block.name
  fresh block := (VariableBody.read block.body).declare block.name block.pos
  amend block := (VariableBody.read block.body).amend

def output : EntryKind NamedBlock Output where
  key block := block.name
  fresh block := (OutputBody.read block.body).declare block.name block.pos
  amend block := (OutputBody.read block.body).amend

def resource (mode : ResourceMode) : EntryKind ResourceBlock Resource where
  key block := Resource.addressOf mode block.type block.name
  fresh block := (ResourceBody.read block.body).declare mode block.type block.name block.pos
  amend block := (ResourceBody.read block.body).amend block.type

def moduleCall : EntryKind NamedBlock ModuleCall where
  key block := block.name
  fresh block := (CallBody.read block.body).declare block.name block.pos
  amend block := (CallBody.read block.body).amend

end EntryKind

namespace Statement

def inputVariable? : Statement → Option NamedBlock
  | inputVariable pos name body => some ⟨pos, name, body⟩
  | _ => none

def output? : Statement → Option NamedBlock
  | output pos name body => some ⟨pos, name, body⟩
  | _ => none

def resource? (mode : ResourceMode) : Statement → Option ResourceBlock
  | resource pos blockMode type name body =>
    if blockMode = mode then some ⟨pos, type, name, body⟩ else none
  | _ => none

def moduleCall? : Statement → Option NamedBlock
  | moduleCall pos name body => some ⟨pos, name, body⟩
  | _ => none

end Statement

/-! ## One statement -/

namespace Module

/-- The entries after a statement: those of one kind change, if any, and by its block alone. -/
theorem entries_declare (role : FileRole) (m : Module) (statement : Statement) :
    (m.declare role statement).entries =
      { m.entries with
        inputs := statement.inputVariable?.elim m.inputs (EntryKind.inputVariable.bring role m.inputs)
        outputs := statement.output?.elim m.outputs (EntryKind.output.bring role m.outputs)
        managedResources := (statement.resource? .managed).elim m.managedResources
          ((EntryKind.resource .managed).bring role m.managedResources)
        dataResources := (statement.resource? .data).elim m.dataResources
          ((EntryKind.resource .data).bring role m.dataResources)
        moduleCalls := statement.moduleCall?.elim m.moduleCalls
          (EntryKind.moduleCall.bring role m.moduleCalls) } := by
  cases statement with
  | terraform pos body => exact entries_declareTerraform m role pos body
  | provider pos name body => exact entries_declareProvider m role pos name body
  | inputVariable pos name body => rfl
  | output pos name body => rfl
  | resource pos mode type name body =>
    cases mode with
    | managed =>
      simp only [declare, declareResource]
      split <;> rfl
    | data =>
      simp only [declare, declareResource]
      split <;> rfl
  | moduleCall pos name body => rfl
  | malformed pos type fault => rfl
  | noBody pos => rfl

theorem path_declare (role : FileRole) (m : Module) (statement : Statement) :
    (m.declare role statement).path = m.path :=
  congrArg Entries.path (entries_declare role m statement)

theorem inputs_declare (role : FileRole) (m : Module) (statement : Statement) :
    (m.declare role statement).inputs =
      statement.inputVariable?.elim m.inputs (EntryKind.inputVariable.bring role m.inputs) :=
  congrArg Entries.inputs (entries_declare role m statement)

theorem outputs_declare (role : FileRole) (m : Module) (statement : Statement) :
    (m.declare role statement).outputs =
      statement.output?.elim m.outputs (EntryKind.output.bring role m.outputs) :=
  congrArg Entries.outputs (entries_declare role m statement)

theorem resourcesOf_declare (mode : ResourceMode) (role : FileRole) (m : Module)
    (statement : Statement) :
    (m.declare role statement).resourcesOf mode =
      (statement.resource? mode).elim (m.resourcesOf mode)
        ((EntryKind.resource mode).bring role (m.resourcesOf mode)) := by
  cases mode with
  | managed => exact congrArg Entries.managedResources (entries_declare role m statement)
  | data => exact congrArg Entries.dataResources (entries_declare role m statement)

theorem moduleCalls_declare (role : FileRole) (m : Module) (statement : Statement) :
    (m.declare role statement).moduleCalls =
      statement.moduleCall?.elim m.moduleCalls (EntryKind.moduleCall.bring role m.moduleCalls) :=
  congrArg Entries.moduleCalls (entries_declare role m statement)

end Module

/-! ## Files -/

/-- A file that was read and parsed. The body and the text in which its blocks are looked up need
not belong together. -/
structure ParsedFile where
  filename : String
  format : FileFormat
  text : String
  body : Value

def ParsedFile.statements (file : ParsedFile) : List Statement :=
  (Statement.ofBody file.body (.scan file.filename file.format file.text)).1

namespace Module

def decodeFile (role : FileRole) (m : Module) (file : ParsedFile) : Module :=
  m.decode role (.scan file.filename file.format file.text) file.body

def decodeAll (m : Module) (files : List (FileRole × ParsedFile)) : Module :=
  files.foldl (fun m file => m.decodeFile file.1 file.2) m

/-- What holds of a module and is kept by every statement holds after any sequence of files. -/
theorem decodeAll_induction (Holds : Module → Prop)
    (step : ∀ role m statement, Holds m → Holds (m.declare role statement))
    (files : List (FileRole × ParsedFile)) {m : Module} (start : Holds m) :
    Holds (m.decodeAll files) := by
  -- One run over the files, and within each file one over its statements.
  refine List.foldlRecOn files _ start ?_
  intro m holds file _
  refine List.foldlRecOn file.2.statements (declare file.1) holds ?_
  intro m holds statement _
  exact step file.1 m statement holds

end Module

end ModuleSurvey
