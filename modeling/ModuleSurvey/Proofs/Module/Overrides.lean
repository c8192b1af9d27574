import ModuleSurvey.Proofs.Module.Amendment

/-! # Primary files, then override files

After any sequence of primary files and then of override files, each entry is settled by the
blocks that declare it, whatever stands between them:

* its place, and everything that no block amends, comes from the last block of the primary files;
* each attribute comes from the last block of the override files that names it, and where none
  does, from that block of the primary files alone.

Where the primary files do not declare the entry, the first block of the override files stands in
for theirs.

* `settledVariable`, `settledOutput`, `settledResource`, `settledCall` — the entry of a list of
  blocks, said attribute by attribute.
* `survey_settles` — the maps of a module hold these entries, and no others.
-/

namespace ModuleSurvey

open Json (Value Members)

attribute [ext] Variable Output Resource ModuleCall

/-! ## Settled entries -/

/-- The variable on which a block and the override blocks after it settle. -/
def settledVariable (base : NamedBlock) (later : List NamedBlock) : Variable :=
  let saying (key : String) : Members :=
    (EntryKind.deciding (fun block => block.body.has key) base later).body
  { name := base.name
    type := givenType (saying "type")
    description := givenText (saying "description") "description"
    default := (saying "default").get? "default"
    required := !(saying "default").has "default"
    sensitive := givenFlag (saying "sensitive") "sensitive"
    pos := base.pos }

def settledOutput (base : NamedBlock) (later : List NamedBlock) : Output :=
  let saying (key : String) : Members :=
    (EntryKind.deciding (fun block => block.body.has key) base later).body
  { name := base.name
    description := givenText (saying "description") "description"
    sensitive := givenFlag (saying "sensitive") "sensitive"
    pos := base.pos }

def settledResource (mode : ResourceMode) (base : ResourceBlock) (later : List ResourceBlock) :
    Resource :=
  let saying := EntryKind.deciding (fun block => block.body.has "provider") base later
  { mode := mode
    type := base.type
    name := base.name
    provider := givenProvider saying.type saying.body
    pos := base.pos }

def settledCall (base : NamedBlock) (later : List NamedBlock) : ModuleCall :=
  let saying (key : String) : Members :=
    (EntryKind.deciding (fun block => block.body.has key) base later).body
  { name := base.name
    source := givenText (saying "source") "source"
    version := givenText (saying "version") "version"
    pos := base.pos }

namespace EntryKind

theorem inputVariable_amendAll (base : NamedBlock) (later : List NamedBlock) :
    inputVariable.amendAll (inputVariable.fresh base) later = settledVariable base later := by
  have kept : ∀ block entry, (inputVariable.amend block entry).name = entry.name ∧
      (inputVariable.amend block entry).pos = entry.pos := by
    intro block entry
    simp [inputVariable_amend]
  apply Variable.ext
  case name =>
    rw [inputVariable.part_amendAll_of_kept (·.name) fun block entry => (kept block entry).1]
    simp [inputVariable_fresh, settledVariable]
  case type =>
    exact inputVariable.part_amendAll_fresh (·.type) (fun block => givenType block.body)
      (fun block => block.body.has "type") (by simp [inputVariable_fresh])
      (by simp [inputVariable_amend]) base later
  case description =>
    exact inputVariable.part_amendAll_fresh (·.description)
      (fun block => givenText block.body "description")
      (fun block => block.body.has "description") (by simp [inputVariable_fresh])
      (by simp [inputVariable_amend]) base later
  case default =>
    exact inputVariable.part_amendAll_fresh (·.default) (fun block => block.body.get? "default")
      (fun block => block.body.has "default") (by simp [inputVariable_fresh])
      (by simp [inputVariable_amend]) base later
  case required =>
    -- The block that decides about the default decides here too, whatever the default is.
    refine inputVariable.part_amendAll_fresh (·.required) (fun block => !block.body.has "default")
      (fun block => block.body.has "default") (by simp [inputVariable_fresh]) ?_ base later
    intro block entry
    cases named : block.body.has "default" <;> simp [inputVariable_amend, named]
  case sensitive =>
    exact inputVariable.part_amendAll_fresh (·.sensitive)
      (fun block => givenFlag block.body "sensitive")
      (fun block => block.body.has "sensitive") (by simp [inputVariable_fresh])
      (by simp [inputVariable_amend]) base later
  case pos =>
    rw [inputVariable.part_amendAll_of_kept (·.pos) fun block entry => (kept block entry).2]
    simp [inputVariable_fresh, settledVariable]

theorem output_amendAll (base : NamedBlock) (later : List NamedBlock) :
    output.amendAll (output.fresh base) later = settledOutput base later := by
  apply Output.ext
  case name => exact output.part_amendAll_of_kept (·.name) (fun _ _ => rfl) _ later
  case description =>
    exact output.part_amendAll_fresh (·.description)
      (fun block => givenText block.body "description")
      (fun block => block.body.has "description") (by simp [output_fresh])
      (by simp [output_amend]) base later
  case sensitive =>
    exact output.part_amendAll_fresh (·.sensitive) (fun block => givenFlag block.body "sensitive")
      (fun block => block.body.has "sensitive") (by simp [output_fresh])
      (by simp [output_amend]) base later
  case pos => exact output.part_amendAll_of_kept (·.pos) (fun _ _ => rfl) _ later

theorem resource_amendAll (mode : ResourceMode) (base : ResourceBlock)
    (later : List ResourceBlock) :
    (resource mode).amendAll ((resource mode).fresh base) later =
      settledResource mode base later := by
  apply Resource.ext
  case mode => exact (resource mode).part_amendAll_of_kept (·.mode) (fun _ _ => rfl) _ later
  case type => exact (resource mode).part_amendAll_of_kept (·.type) (fun _ _ => rfl) _ later
  case name => exact (resource mode).part_amendAll_of_kept (·.name) (fun _ _ => rfl) _ later
  case provider =>
    exact (resource mode).part_amendAll_fresh (·.provider)
      (fun block => givenProvider block.type block.body)
      (fun block => block.body.has "provider") (by simp [resource_fresh])
      (by simp [resource_amend]) base later
  case pos => exact (resource mode).part_amendAll_of_kept (·.pos) (fun _ _ => rfl) _ later

theorem moduleCall_amendAll (base : NamedBlock) (later : List NamedBlock) :
    moduleCall.amendAll (moduleCall.fresh base) later = settledCall base later := by
  apply ModuleCall.ext
  case name => exact moduleCall.part_amendAll_of_kept (·.name) (fun _ _ => rfl) _ later
  case source =>
    exact moduleCall.part_amendAll_fresh (·.source) (fun block => givenText block.body "source")
      (fun block => block.body.has "source") (by simp [moduleCall_fresh])
      (by simp [moduleCall_amend]) base later
  case version =>
    exact moduleCall.part_amendAll_fresh (·.version)
      (fun block => givenText block.body "version")
      (fun block => block.body.has "version") (by simp [moduleCall_fresh])
      (by simp [moduleCall_amend]) base later
  case pos => exact moduleCall.part_amendAll_of_kept (·.pos) (fun _ _ => rfl) _ later

end EntryKind

/-! ## Runs -/

namespace Module

theorem part_foldl_declare {β α : Type} {kind : EntryKind β α} {pick : Statement → Option β}
    {part : Module → SortedMap α} {role : FileRole}
    (step : ∀ m statement, part (declare role m statement) =
      (pick statement).elim (part m) (kind.bring role (part m)))
    (statements : List Statement) (m : Module) :
    part (statements.foldl (declare role) m) =
      (statements.filterMap pick).foldl (kind.bring role) (part m) := by
  induction statements generalizing m with
  | nil => rfl
  | cons statement statements inductionHypothesis =>
    rw [List.foldl_cons, inductionHypothesis, step]
    cases picked : pick statement with
    | none => rw [List.filterMap_cons_none picked]; rfl
    | some block => rw [List.filterMap_cons_some picked]; rfl

theorem decodeAll_of_role (role : FileRole) (files : List ParsedFile) (m : Module) :
    m.decodeAll (files.map fun file => (role, file)) =
      (files.flatMap ParsedFile.statements).foldl (declare role) m := by
  rw [decodeAll, List.foldl_map, List.foldl_flatMap]
  rfl

/-- A module after primary files and then override files. -/
def survey (path : String) (primaries overrides : List ParsedFile) : Module :=
  (new path).decodeAll
    (primaries.map (fun file => (.primary, file)) ++ overrides.map fun file => (.override, file))

theorem part_survey {β α : Type} {kind : EntryKind β α} {pick : Statement → Option β}
    (part : Module → SortedMap α)
    (step : ∀ role m statement, part (declare role m statement) =
      (pick statement).elim (part m) (kind.bring role (part m)))
    (path : String) (empty : part (new path) = ∅) (primaries overrides : List ParsedFile) :
    part (survey path primaries overrides) =
      ((overrides.flatMap ParsedFile.statements).filterMap pick).foldl (kind.bring .override)
        (((primaries.flatMap ParsedFile.statements).filterMap pick).foldl (kind.bring .primary)
          ∅) := by
  have split : survey path primaries overrides =
      ((new path).decodeAll (primaries.map fun file => (.primary, file))).decodeAll
        (overrides.map fun file => (.override, file)) := List.foldl_append
  rw [split, decodeAll_of_role, decodeAll_of_role, part_foldl_declare (step .override),
    part_foldl_declare (step .primary), empty]

end Module

/-- The blocks of a kind for a key in a list of files, in their order. -/
def blocksUnder {β α : Type} (kind : EntryKind β α) (pick : Statement → Option β) (key : String)
    (files : List ParsedFile) : List β :=
  kind.under key ((files.flatMap ParsedFile.statements).filterMap pick)

/-- A map has an entry under a key iff a block declares it, and the entry is the one on which the
blocks for the key settle: the last one of the primary files, or the first one of the override
files if the primary files have none, with the override blocks after it. -/
def Settles {β α : Type} (kind : EntryKind β α) (pick : Statement → Option β)
    (settled : β → List β → α) (primaries overrides : List ParsedFile) (map : SortedMap α) : Prop :=
  ∀ key,
    (map.contains key = true ↔
      blocksUnder kind pick key primaries ≠ [] ∨ blocksUnder kind pick key overrides ≠ []) ∧
    map.get? key =
      (EntryKind.base? (blocksUnder kind pick key primaries)
        (blocksUnder kind pick key overrides)).map fun base =>
          settled base (blocksUnder kind pick key overrides)

theorem settles_of_amendAll {β α : Type} {kind : EntryKind β α} {pick : Statement → Option β}
    {settled : β → List β → α} {primaries overrides : List ParsedFile} {map : SortedMap α}
    (own : ∀ block, kind.amend block (kind.fresh block) = kind.fresh block)
    (amended : ∀ base later, kind.amendAll (kind.fresh base) later = settled base later)
    (run : map =
      ((overrides.flatMap ParsedFile.statements).filterMap pick).foldl (kind.bring .override)
        (((primaries.flatMap ParsedFile.statements).filterMap pick).foldl (kind.bring .primary)
          ∅)) :
    Settles kind pick settled primaries overrides map := by
  intro key
  have found := kind.get?_primaries_then_overrides own
    ((primaries.flatMap ParsedFile.statements).filterMap pick)
    ((overrides.flatMap ParsedFile.statements).filterMap pick) key
  simp only [amended] at found
  rw [← run] at found
  refine ⟨?_, found⟩
  rw [SortedMap.contains, found, Option.isSome_map]
  exact EntryKind.isSome_base?

/-- Whatever the files hold, each map of the module has exactly the entries that its blocks
declare, settled by the last blocks that speak of each attribute. -/
theorem survey_settles (path : String) (primaries overrides : List ParsedFile) :
    let m := Module.survey path primaries overrides
    Settles .inputVariable Statement.inputVariable? settledVariable primaries overrides m.inputs ∧
    Settles .output Statement.output? settledOutput primaries overrides m.outputs ∧
    (∀ mode, Settles (.resource mode) (Statement.resource? mode) (settledResource mode)
      primaries overrides (m.resourcesOf mode)) ∧
    Settles .moduleCall Statement.moduleCall? settledCall primaries overrides m.moduleCalls := by
  refine ⟨?_, ?_, fun mode => ?_, ?_⟩
  · exact settles_of_amendAll EntryKind.inputVariable_settled EntryKind.inputVariable_amendAll
      (Module.part_survey Module.inputs Module.inputs_declare path rfl primaries overrides)
  · exact settles_of_amendAll EntryKind.output_settled EntryKind.output_amendAll
      (Module.part_survey Module.outputs Module.outputs_declare path rfl primaries overrides)
  · exact settles_of_amendAll (EntryKind.resource_settled mode) (EntryKind.resource_amendAll mode)
      (Module.part_survey (·.resourcesOf mode) (Module.resourcesOf_declare mode) path
        (by cases mode <;> rfl) primaries overrides)
  · exact settles_of_amendAll EntryKind.moduleCall_settled EntryKind.moduleCall_amendAll
      (Module.part_survey Module.moduleCalls Module.moduleCalls_declare path rfl primaries overrides)

end ModuleSurvey
