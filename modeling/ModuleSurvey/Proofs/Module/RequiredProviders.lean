import ModuleSurvey.Proofs.Module.CallSources
import ModuleSurvey.Proofs.Module.Duplicates

/-! # Which providers a module requires

A module requires the providers that its files mention: in the required providers of a `terraform`
block, by a `provider` block, and by a resource, which names its provider or implies it. One way to
mention a provider does not count. An object whose source is refused, and which gives neither a
version nor a configuration, lists nothing; what is left of it is the report on its source.

* `requirementEntries` — the entries of the required providers of a `terraform` block.
* `Mentions` — the ways in which a block mentions a provider.
* `Statement.exists_note_iff` — a statement writes about the providers that its block mentions.
* `required_providers_mentioned` — the law.
-/

namespace ModuleSurvey

open Json (Value Members)

/-! ## Entries of the required providers -/

/-- The entries of required providers, if they are well formed. -/
def Json.Value.requirements (required : Value) : Members :=
  if Block.Shaped 0 required then (Block.leaves 0 required).flatMap (·.body) else []

def requirementEntries (body : Members) : Members :=
  (body.get? "required_providers").elim [] Value.requirements

theorem requirementRemarks_subset {required : Value} {e : String × Value}
    (entry : e ∈ required.requirements) :
    requirementRemarks e.1 e.2 ⊆ requirementsRemarks required := by
  unfold Value.requirements at entry
  split at entry
  case isTrue shaped =>
    rw [requirementsRemarks, Block.collect_of_shaped shaped]
    obtain ⟨block, inside, entry⟩ := List.mem_flatMap.1 entry
    intro remark said
    exact List.mem_flatMap.2 ⟨block, inside, List.mem_flatMap.2 ⟨e, entry, said⟩⟩
  case isFalse => cases entry

theorem requirementsNotes_eq (required : Value) :
    requirementsNotes required =
      required.requirements.flatMap fun e => requirementNotes e.1 e.2 := by
  unfold requirementsNotes Value.requirements
  by_cases shaped : Block.Shaped 0 required
  · rw [Block.collect_of_shaped shaped, if_pos shaped, List.flatMap_assoc]
  · obtain ⟨fault, refused⟩ := (Block.exists_fault_iff [] 0 required).2 shaped
    rw [refused, if_neg shaped]
    rfl

theorem notes_terraform (pos : SourcePos) (body : Members) :
    (Statement.terraform pos body).notes =
      (requirementEntries body).flatMap fun e => requirementNotes e.1 e.2 := by
  rw [Statement.notes, requirementEntries]
  cases body.get? "required_providers" with
  | none => rfl
  | some required => exact requirementsNotes_eq required

def IsRequirement : Value → Prop
  | .string _ | .object _ => True
  | .null | .bool _ | .number _ | .array _ => False

/-- The requirements that are listed. An object whose source is refused is one of them only if it
gives a version or a configuration. -/
def IsListedRequirement : Value → Prop
  | .string _ => True
  | .object attrs =>
    (Attribute.string attrs "source").fault? = none ∨
      (Attribute.string attrs "version").value? ≠ none ∨
      (Attribute.strings attrs "configuration_aliases").value?.getD [] ≠ []
  | .null | .bool _ | .number _ | .array _ => False

section

variable {provider : String} {value : Value} {note : Note}

theorem provider_of_mem_requirementNotes (noted : note ∈ requirementNotes provider value) :
    note.provider = provider := by
  cases value with
  | string constraint =>
    obtain rfl := List.mem_singleton.1 noted
    rfl
  | object attrs =>
    simp only [requirementNotes, List.mem_append, List.mem_map] at noted
    rcases noted with (ofSource | ⟨constraint, -, rfl⟩) | ⟨aliasName, -, rfl⟩
    · cases sourced : Attribute.string attrs "source" with
      | rejected fault => simp [sourced] at ofSource
      | given source | missing | null =>
        rw [sourced, List.mem_singleton] at ofSource
        rw [ofSource]
        rfl
    · rfl
    · rfl
  | null | bool | number | array => cases noted

theorem requirementNotes_ne_nil_iff :
    requirementNotes provider value ≠ [] ↔ IsListedRequirement value := by
  cases value with
  | string constraint => simp [requirementNotes, IsListedRequirement]
  | object attrs =>
    simp only [requirementNotes, IsListedRequirement]
    cases Attribute.string attrs "source" <;> simp [Attribute.fault?, imp_iff_not_or]
  | null | bool | number | array => simp [requirementNotes, IsListedRequirement]

theorem exists_note_requirementNotes_iff {wanted : String} :
    (∃ note ∈ requirementNotes provider value, wanted = note.provider) ↔
      wanted = provider ∧ IsListedRequirement value := by
  constructor
  · rintro ⟨note, noted, rfl⟩
    exact ⟨provider_of_mem_requirementNotes noted,
      requirementNotes_ne_nil_iff.1 (List.ne_nil_of_mem noted)⟩
  · rintro ⟨rfl, listed⟩
    obtain ⟨note, noted⟩ := List.exists_mem_of_ne_nil _ (requirementNotes_ne_nil_iff.2 listed)
    exact ⟨note, noted, (provider_of_mem_requirementNotes noted).symm⟩

/-- Of a requirement that is not listed the source is refused, and that is reported. -/
theorem source_problem_of_not_listed (provider : String) (requirement : IsRequirement value)
    (unlisted : ¬ IsListedRequirement value) :
    ∃ fault, .problem (.invalidAttribute ("required_providers." ++ provider) "source" fault) ∈
      requirementRemarks provider value := by
  cases value with
  | string constraint => exact absurd trivial unlisted
  | object attrs =>
    cases sourced : Attribute.string attrs "source" with
    | rejected fault => exact ⟨fault, by simp [requirementRemarks, sourced]⟩
    | given source | missing | null =>
      refine absurd (.inl ?_) unlisted
      rw [sourced]
      rfl
  | null | bool | number | array => cases requirement

end

/-! ## Blocks that mention a provider -/

/-- The ways in which a block mentions a provider. Which entries of the required providers count is
told by their values. -/
inductive Mentions (Counts : Value → Prop) (provider : String) : BlockType × Block → Prop
  | requirement {labels : List String} {body : Members} {value : Value}
      (entry : (provider, value) ∈ requirementEntries body) (counts : Counts value) :
      Mentions Counts provider (.terraform, ⟨labels, body⟩)
  | configuration {body : Members} : Mentions Counts provider (.provider, ⟨[provider], body⟩)
  /-- A resource that refers to the provider. -/
  | reference {mode : ResourceMode} {type name text : String} {body : Members}
      (given : Attribute.string body "provider" = .given text)
      (refers : (ProviderRef.parse (unwrapTemplate text)).name = provider) :
      Mentions Counts provider (.resource mode, ⟨[type, name], body⟩)
  /-- A resource that refers to none, and whose type implies the provider. -/
  | implied {mode : ResourceMode} {type name : String} {body : Members}
      (ungiven : (Attribute.string body "provider").value? = none)
      (implies : impliedProvider type = provider) :
      Mentions Counts provider (.resource mode, ⟨[type, name], body⟩)

section

variable {Counts : Value → Prop} {provider : String} {mode : ResourceMode}
  {type name label : String} {labels : List String} {body : Members}

theorem mentions_terraform_iff :
    Mentions Counts provider (.terraform, ⟨labels, body⟩) ↔
      ∃ value, (provider, value) ∈ requirementEntries body ∧ Counts value := by
  constructor
  · rintro ⟨⟩
    exact ⟨_, ‹_›, ‹_›⟩
  · rintro ⟨value, entry, counts⟩
    exact .requirement entry counts

theorem mentions_provider_iff :
    Mentions Counts provider (.provider, ⟨[label], body⟩) ↔ provider = label := by
  constructor
  · rintro ⟨⟩
    rfl
  · rintro rfl
    exact .configuration

theorem mentions_resource_iff :
    Mentions Counts provider (.resource mode, ⟨[type, name], body⟩) ↔
      provider = (givenProvider type body).name := by
  constructor
  · rintro (_ | _ | ⟨given, rfl⟩ | ⟨ungiven, rfl⟩)
    · rw [givenProvider, given]
      rfl
    · rw [givenProvider, ungiven]
      rfl
  · rintro rfl
    cases given : Attribute.string body "provider" with
    | given text =>
      refine .reference given ?_
      rw [givenProvider, given]
      rfl
    | missing | null | rejected fault =>
      have ungiven : (Attribute.string body "provider").value? = none := by rw [given]; rfl
      refine .implied ungiven ?_
      rw [givenProvider, ungiven]
      rfl

end

theorem ProviderRef.provider_note (r : ProviderRef) : r.note.provider = r.name := by
  unfold note
  split <;> rfl

/-- A statement writes about the providers that its block mentions. -/
theorem Statement.exists_note_iff {s : Statement} {provider : String} :
    (∃ note ∈ s.notes, provider = note.provider) ↔
      ∃ block ∈ s.block?, Mentions IsListedRequirement provider block := by
  cases s with
  | terraform pos body =>
    simp only [notes_terraform, List.mem_flatMap, Statement.block?, Option.mem_some_iff,
      exists_eq_left', mentions_terraform_iff]
    constructor
    · rintro ⟨note, ⟨e, entry, noted⟩, about⟩
      obtain ⟨rfl, listed⟩ := exists_note_requirementNotes_iff.1 ⟨note, noted, about⟩
      exact ⟨e.2, entry, listed⟩
    · rintro ⟨value, entry, listed⟩
      obtain ⟨note, noted, about⟩ := exists_note_requirementNotes_iff.2 ⟨rfl, listed⟩
      exact ⟨note, ⟨_, entry, noted⟩, about⟩
  | provider pos name body =>
    simp only [Statement.block?, Option.mem_some_iff, exists_eq_left', mentions_provider_iff]
    constructor
    · rintro ⟨note, noted, rfl⟩
      simp only [Statement.notes, List.cons_append, List.mem_cons, List.mem_append,
        List.mem_map] at noted
      rcases noted with rfl | ⟨constraint, -, rfl⟩ | ⟨aliasName, -, rfl⟩ <;> rfl
    · rintro rfl
      exact ⟨_, List.mem_cons_self, rfl⟩
  | resource pos mode type name body =>
    simp only [Statement.notes, List.mem_singleton, exists_eq_left, ProviderRef.provider_note,
      Statement.block?, Option.mem_some_iff, exists_eq_left', mentions_resource_iff]
  | inputVariable | output | moduleCall =>
    -- Neither is there a note, nor a way to mention a provider.
    simp only [Statement.notes, Statement.block?, Option.mem_some_iff, exists_eq_left',
      List.not_mem_nil, false_and, exists_false, false_iff]
    rintro ⟨⟩
  | malformed | noBody => simp [Statement.notes, Statement.block?]

theorem Statement.mem_block?_ofBody_iff {body : Value} (shaped : Block.BodyShaped body)
    (x : BlockIndex) {block : BlockType × Block} :
    (∃ s ∈ (ofBody body x).1, s.block? = some block) ↔ block ∈ Block.ofBody body := by
  rw [← List.mem_map, map_block?_ofBody shaped x]
  simp

theorem Statement.source_problem_mem_remarks {s : Statement} {provider : String}
    {block : BlockType × Block} (role : FileRole) (is : s.block? = some block)
    (mentions : Mentions IsRequirement provider block)
    (unlisted : ¬ Mentions IsListedRequirement provider block) :
    ∃ fault, .problem (.invalidAttribute ("required_providers." ++ provider) "source" fault) ∈
      s.remarks role := by
  cases s with
  | terraform pos body =>
    cases is
    obtain ⟨value, entry, requirement⟩ := mentions_terraform_iff.1 mentions
    have notListed : ¬ IsListedRequirement value :=
      fun listed => unlisted (mentions_terraform_iff.2 ⟨value, entry, listed⟩)
    obtain ⟨fault, said⟩ := source_problem_of_not_listed provider requirement notListed
    refine ⟨fault, List.mem_append_right _ ?_⟩
    unfold requirementEntries at entry
    cases given : body.get? "required_providers" with
    | none => simp [given] at entry
    | some required =>
      rw [given] at entry
      exact requirementRemarks_subset entry said
  | provider pos name body =>
    cases is
    exact absurd (mentions_provider_iff.2 (mentions_provider_iff.1 mentions)) unlisted
  | resource pos mode type name body =>
    cases is
    exact absurd (mentions_resource_iff.2 (mentions_resource_iff.1 mentions)) unlisted
  | inputVariable | output | moduleCall =>
    cases is
    cases mentions
  | malformed | noBody => cases is

/-! ## Runs -/

theorem Books.mem_problems_of_mem_remarks {problem : Problem} {role : FileRole}
    {remarks : List Remark} (said : .problem problem ∈ remarks) {b : Books} :
    problem ∈ b.problems role remarks := by
  induction remarks generalizing b with
  | nil => cases said
  | cons remark remarks inductionHypothesis =>
    rcases List.mem_cons.1 said with rfl | later
    · exact List.mem_cons_self
    · cases remark with
      | note note => exact List.mem_append_right _ (inductionHypothesis later)
      | problem other => exact List.mem_cons_of_mem _ (inductionHypothesis later)

namespace Module

variable {run : List (FileRole × Statement)} {m : Module} {provider : String}

theorem requires_declareAll :
    (m.declareAll run).books.Requires provider ↔
      (∃ step ∈ run, ∃ note ∈ step.2.notes, provider = note.provider) ∨
        m.books.Requires provider := by
  induction run generalizing m with
  | nil => simp [declareAll]
  | cons step run inductionHypothesis =>
    have next : m.declareAll (step :: run) = (m.declare step.1 step.2).declareAll run := rfl
    rw [next, inductionHypothesis, books_declare, Books.requires_writeAll]
    simp [or_assoc, or_left_comm]

theorem diagnostics_declareAll_of_mem {d : Diagnostic} (found : d ∈ m.diagnostics) :
    d ∈ (m.declareAll run).diagnostics :=
  List.foldlRecOn (motive := fun after : Module => d ∈ after.diagnostics) run _ found
    fun after member step _ => by
      rw [diagnostics_declare]
      exact List.mem_append_left _ member

theorem diagnostic_mem_declareAll {step : FileRole × Statement} {problem : Problem}
    (member : step ∈ run) (said : .problem problem ∈ step.2.remarks step.1) :
    problem.diagnostic step.2.pos ∈ (m.declareAll run).diagnostics := by
  induction run generalizing m with
  | nil => cases member
  | cons first run inductionHypothesis =>
    rcases List.mem_cons.1 member with rfl | later
    · refine diagnostics_declareAll_of_mem (m := m.declare step.1 step.2) ?_
      rw [diagnostics_declare]
      refine List.mem_append_right _ (List.mem_map_of_mem ?_)
      exact List.mem_append_left _ (Books.mem_problems_of_mem_remarks said)
    · exact inductionHypothesis later

end Module

theorem mem_block?_runOf_iff {files : List (FileRole × ParsedFile)}
    (shaped : ∀ file ∈ files, Block.BodyShaped file.2.body) {block : BlockType × Block} :
    (∃ step ∈ runOf files, step.2.block? = some block) ↔
      ∃ file ∈ files, block ∈ Block.ofBody file.2.body := by
  simp only [runOf, List.mem_flatMap, List.mem_map]
  constructor
  · rintro ⟨_, ⟨file, member, s, isStatement, rfl⟩, is⟩
    exact ⟨file, member, (Statement.mem_block?_ofBody_iff (shaped file member) _).1
      ⟨s, isStatement, is⟩⟩
  · rintro ⟨file, member, inBody⟩
    obtain ⟨s, isStatement, is⟩ :=
      (Statement.mem_block?_ofBody_iff (shaped file member) _).2 inBody
    exact ⟨_, ⟨file, member, s, isStatement, rfl⟩, is⟩

theorem exists_block?_runOf_iff {files : List (FileRole × ParsedFile)}
    (shaped : ∀ file ∈ files, Block.BodyShaped file.2.body) {P : BlockType × Block → Prop} :
    (∃ step ∈ runOf files, ∃ block ∈ step.2.block?, P block) ↔
      ∃ file ∈ files, ∃ block ∈ Block.ofBody file.2.body, P block := by
  constructor
  · rintro ⟨step, member, block, is, satisfied⟩
    obtain ⟨file, isFile, inBody⟩ := (mem_block?_runOf_iff shaped).1 ⟨step, member, is⟩
    exact ⟨file, isFile, block, inBody, satisfied⟩
  · rintro ⟨file, isFile, block, inBody, satisfied⟩
    obtain ⟨step, member, is⟩ := (mem_block?_runOf_iff shaped).2 ⟨file, isFile, inBody⟩
    exact ⟨step, member, block, is, satisfied⟩

/-! ## The law -/

/-- After any sequence of files, in whatever roles, a provider is required if and only if one of
their blocks mentions it, where an entry of the required providers whose value is an object with a
refused source counts only if it gives a version or a configuration. Nothing of the others is lost
in silence: their sources are reported. -/
theorem required_providers_mentioned (path : String) (files : List (FileRole × ParsedFile))
    (shaped : ∀ file ∈ files, Block.BodyShaped file.2.body) (provider : String) :
    let m := (Module.new path).decodeAll files
    let mentioned (Counts : Value → Prop) :=
      ∃ file ∈ files, ∃ block ∈ Block.ofBody file.2.body, Mentions Counts provider block
    (m.requiredProviders.contains provider = true ↔ mentioned IsListedRequirement) ∧
    (mentioned IsRequirement → m.requiredProviders.contains provider = true ∨
      ∃ pos fault,
        (Problem.invalidAttribute ("required_providers." ++ provider) "source" fault).diagnostic pos ∈
          m.diagnostics) := by
  intro m mentioned
  have whole : m = (Module.new path).declareAll (runOf files) :=
    Module.decodeAll_eq_declareAll _ files
  have listed : m.requiredProviders.contains provider = true ↔ mentioned IsListedRequirement := by
    have written : m.books.Requires provider ↔
        ∃ step ∈ runOf files, ∃ note ∈ step.2.notes, provider = note.provider := by
      rw [whole, Module.requires_declareAll]
      exact or_iff_left (by rintro ⟨⟩)
    refine Iff.trans written ?_
    simp only [Statement.exists_note_iff]
    exact exists_block?_runOf_iff shaped
  refine ⟨listed, ?_⟩
  rintro ⟨file, isFile, block, inBody, mentions⟩
  by_cases counted : Mentions IsListedRequirement provider block
  · exact .inl (listed.2 ⟨file, isFile, block, inBody, counted⟩)
  · right
    obtain ⟨step, member, is⟩ := (mem_block?_runOf_iff shaped).2 ⟨file, isFile, inBody⟩
    obtain ⟨fault, said⟩ := step.2.source_problem_mem_remarks step.1 is mentions counted
    exact ⟨step.2.pos, fault, whole ▸ Module.diagnostic_mem_declareAll member said⟩

def refusedEntries : Members :=
  [("aws", .object [("source", .array []), ("version", .string "5.0")]),
    ("tls", .object [("source", .array [])])]

def refusedRequirements : List (FileRole × ParsedFile) :=
  [(.primary, ⟨"main.tf.json", .json, "", .object [
      ("terraform", .object [("required_providers", .object refusedEntries)])]⟩),
    (.override, ⟨"override.tf.json", .json, "", .object [
      ("resource", .object [("time_static", .object [
        ("now", .object [("provider", .string "$\x7brandom.west\x7d")])])])]⟩)]

theorem tls_not_required :
    ((Module.new "m").decodeAll refusedRequirements).requiredProviders.contains "tls" = false := by
  decide +kernel

theorem tls_mentioned :
    ∃ file ∈ refusedRequirements, ∃ block ∈ Block.ofBody file.2.body,
      Mentions IsRequirement "tls" block := by
  have entries : requirementEntries [("required_providers", .object refusedEntries)] =
      refusedEntries := by decide +kernel
  have entry : ("tls", .object [("source", .array [])]) ∈
      requirementEntries [("required_providers", .object refusedEntries)] := by
    rw [entries]
    exact List.mem_cons_of_mem _ List.mem_cons_self
  exact ⟨_, List.mem_cons_self, _, List.mem_cons_self, .requirement entry trivial⟩

theorem refusedRequirements_mentioned :
    let m := (Module.new "m").decodeAll refusedRequirements
    (∀ file ∈ refusedRequirements, Block.BodyShaped file.2.body) ∧
    m.requiredProviders.contains "random" = true ∧ m.requiredProviders.keys = ["aws", "random"] ∧
    ∃ pos fault, (Problem.invalidAttribute "required_providers.tls" "source" fault).diagnostic pos ∈
      m.diagnostics := by
  intro m
  have shaped : ∀ file ∈ refusedRequirements, Block.BodyShaped file.2.body := by decide
  have refers : Mentions IsListedRequirement "random" (.resource .managed,
      ⟨["time_static", "now"], [("provider", .string "$\x7brandom.west\x7d")]⟩) :=
    .reference rfl (by decide +kernel)
  obtain ⟨listed, -⟩ := required_providers_mentioned "m" refusedRequirements shaped "random"
  obtain ⟨-, reported⟩ := required_providers_mentioned "m" refusedRequirements shaped "tls"
  refine ⟨shaped, listed.2 ?_, by decide +kernel, (reported tls_mentioned).resolve_left ?_⟩
  · exact ⟨_, List.mem_cons_of_mem _ List.mem_cons_self, _, List.mem_cons_self, refers⟩
  · exact Bool.eq_false_iff.1 tls_not_required

/-- That every provider with an entry among the required providers is required is false: the object
of this one is refused for its source, and there is no requirement at all. -/
theorem refused_source_unlisted :
    ¬ ∀ (path : String) (files : List (FileRole × ParsedFile)),
      (∀ file ∈ files, Block.BodyShaped file.2.body) → ∀ provider,
      (((Module.new path).decodeAll files).requiredProviders.contains provider = true ↔
        ∃ file ∈ files, ∃ block ∈ Block.ofBody file.2.body,
          Mentions IsRequirement provider block) := by
  intro law
  have required := (law "m" refusedRequirements (by decide) "tls").2 tls_mentioned
  exact Bool.false_ne_true (tls_not_required.symm.trans required)

end ModuleSurvey
