import ModuleSurvey.Proofs.Module.RequiredProviders

/-! # The keys of the maps

Where the bodies of the files are well formed, what the maps hold can be told from the grammar of
blocks, without the walk that reads the bodies. A key is held iff a leaf of a body declares it, and
the blocks on which its entry settles are these leaves, in the order in which they are written.

* `Module.holds_decodeAll_iff` — the keys after any files in any roles.
* `Module.holds_survey_iff` — the keys after primary files and then override files.
* `bodies_blocksUnder` — the blocks on which the entry of a key settles.
-/

namespace ModuleSurvey

open Json (Value Members)

/-! ## Held targets -/

namespace Module

variable {run : List (FileRole × Statement)} {m : Module} {target : Target}

theorem holds_declareAll_iff :
    (m.declareAll run).holds target = true ↔
      (∃ step ∈ run, step.2.target? = some target) ∨ m.holds target = true := by
  induction run generalizing m with
  | nil => simp [declareAll]
  | cons step run inductionHypothesis =>
    have next : m.declareAll (step :: run) = (m.declare step.1 step.2).declareAll run := rfl
    rw [next, inductionHypothesis, holds_eq_isSome_place? (m.declare step.1 step.2),
      isSome_place?_declare, ← holds_eq_isSome_place?]
    simp [or_assoc, or_left_comm]

theorem holds_new (path : String) (target : Target) : (new path).holds target = false := by
  cases target with
  | inputVariable | output | moduleCall => rfl
  | resource mode => cases mode <;> rfl

/-- After files with well-formed bodies a target is held iff one of their leaves declares it. -/
theorem holds_decodeAll_iff (path : String) {files : List (FileRole × ParsedFile)}
    (shaped : ∀ file ∈ files, Block.BodyShaped file.2.body) (target : Target) :
    ((new path).decodeAll files).holds target = true ↔
      ∃ file ∈ files, ∃ block ∈ Block.ofBody file.2.body, Target.ofBlock? block = some target := by
  rw [decodeAll_eq_declareAll, holds_declareAll_iff, holds_new]
  simp only [Bool.false_eq_true, or_false, Statement.target?_eq, Option.bind_eq_some_iff]
  exact exists_block?_runOf_iff shaped

/-- So it is after primary files and then override files: both kinds add the keys of their leaves. -/
theorem holds_survey_iff (path : String) {primaries overrides : List ParsedFile}
    (shaped : ∀ file ∈ primaries ++ overrides, Block.BodyShaped file.body) (target : Target) :
    (survey path primaries overrides).holds target = true ↔
      ∃ file ∈ primaries ++ overrides, ∃ block ∈ Block.ofBody file.body,
        Target.ofBlock? block = some target := by
  obtain ⟨primaryShaped, overrideShaped⟩ := List.forall_mem_append.1 shaped
  have shapedInRoles : ∀ file ∈ primaries.map (fun file => (FileRole.primary, file)) ++
      overrides.map fun file => (FileRole.override, file), Block.BodyShaped file.2.body :=
    List.forall_mem_append.2
      ⟨List.forall_mem_map.2 primaryShaped, List.forall_mem_map.2 overrideShaped⟩
  rw [survey, holds_decodeAll_iff path shapedInRoles]
  simp only [List.mem_append, List.mem_map, or_and_right, exists_or, exists_exists_and_eq_and]

end Module

/-! ## The blocks of a key -/

def Target.body? (target : Target) (block : BlockType × Block) : Option Members :=
  if ofBlock? block = some target then some block.2.body else none

/-- The bodies of the leaves with a target, in the order in which they are written. -/
def leafBodies (target : Target) (files : List ParsedFile) : List Members :=
  (files.flatMap fun file => Block.ofBody file.body).filterMap target.body?

theorem map_block?_statements {files : List ParsedFile}
    (shaped : ∀ file ∈ files, Block.BodyShaped file.body) :
    (files.flatMap ParsedFile.statements).map Statement.block? =
      (files.flatMap fun file => Block.ofBody file.body).map some := by
  rw [List.map_flatMap, List.map_flatMap]
  exact List.flatMap_congr fun file member => Statement.map_block?_ofBody (shaped file member) _

namespace Statement

/-! What is picked for a kind under a key is the block that has this target. -/

variable (s : Statement) (key : String)

theorem picked_inputVariable? :
    ((s.inputVariable?).filter (EntryKind.inputVariable.key · = key)).map (·.body) =
      s.block?.bind (Target.inputVariable key).body? := by
  cases s with
  | inputVariable pos name body =>
    by_cases same : name = key <;>
      simp [inputVariable?, block?, Target.body?, Target.ofBlock?, BlockType.target?,
        EntryKind.inputVariable, same]
  | terraform | provider | output | resource | moduleCall | malformed | noBody => rfl

theorem picked_output? :
    ((s.output?).filter (EntryKind.output.key · = key)).map (·.body) =
      s.block?.bind (Target.output key).body? := by
  cases s with
  | output pos name body =>
    by_cases same : name = key <;>
      simp [output?, block?, Target.body?, Target.ofBlock?, BlockType.target?, EntryKind.output, same]
  | terraform | provider | inputVariable | resource | moduleCall | malformed | noBody => rfl

theorem picked_resource? (mode : ResourceMode) :
    ((s.resource? mode).filter ((EntryKind.resource mode).key · = key)).map (·.body) =
      s.block?.bind (Target.resource mode key).body? := by
  cases s with
  | resource pos own type name body =>
    by_cases sameMode : own = mode
    · subst sameMode
      by_cases same : Resource.addressOf own type name = key <;>
        simp [resource?, block?, Target.body?, Target.ofBlock?, BlockType.target?,
          EntryKind.resource, same]
    · simp [resource?, block?, Target.body?, Target.ofBlock?, BlockType.target?, sameMode]
  | terraform | provider | inputVariable | output | moduleCall | malformed | noBody => rfl

theorem picked_moduleCall? :
    ((s.moduleCall?).filter (EntryKind.moduleCall.key · = key)).map (·.body) =
      s.block?.bind (Target.moduleCall key).body? := by
  cases s with
  | moduleCall pos name body =>
    by_cases same : name = key <;>
      simp [moduleCall?, block?, Target.body?, Target.ofBlock?, BlockType.target?,
        EntryKind.moduleCall, same]
  | terraform | provider | inputVariable | output | resource | malformed | noBody => rfl

end Statement

variable {files : List ParsedFile}

theorem map_body_blocksUnder {β α : Type} {kind : EntryKind β α} {pick : Statement → Option β}
    {body : β → Members} {target : Target} {key : String}
    (shaped : ∀ file ∈ files, Block.BodyShaped file.body)
    (picked : ∀ s, ((pick s).filter (kind.key · = key)).map body = s.block?.bind target.body?) :
    (blocksUnder kind pick key files).map body = leafBodies target files := by
  have leaves := congrArg (List.filterMap (·.bind target.body?)) (map_block?_statements shaped)
  rw [List.filterMap_map, List.filterMap_map] at leaves
  rw [blocksUnder, EntryKind.under, List.filter_filterMap, List.map_filterMap]
  exact (List.filterMap_congr fun s _ => picked s).trans leaves

/-- The blocks on which the entry of a key settles are the leaves that declare it. -/
theorem bodies_blocksUnder (shaped : ∀ file ∈ files, Block.BodyShaped file.body) (key : String) :
    (blocksUnder .inputVariable Statement.inputVariable? key files).map (·.body) =
      leafBodies (.inputVariable key) files ∧
    (blocksUnder .output Statement.output? key files).map (·.body) =
      leafBodies (.output key) files ∧
    (∀ mode, (blocksUnder (.resource mode) (Statement.resource? mode) key files).map (·.body) =
      leafBodies (.resource mode key) files) ∧
    (blocksUnder .moduleCall Statement.moduleCall? key files).map (·.body) =
      leafBodies (.moduleCall key) files :=
  ⟨map_body_blocksUnder shaped (·.picked_inputVariable? key),
    map_body_blocksUnder shaped (·.picked_output? key),
    fun mode => map_body_blocksUnder shaped (·.picked_resource? key mode),
    map_body_blocksUnder shaped (·.picked_moduleCall? key)⟩

end ModuleSurvey
