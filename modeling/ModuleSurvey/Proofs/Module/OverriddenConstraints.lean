import ModuleSurvey.Proofs.Module.ProviderSources
import ModuleSurvey.Proofs.Json.Canonical

/-! # Constraints of override files

An override file replaces the constraints that it speaks of. Several places of a file may constrain
one provider, and each of them replaces what an earlier one said, so the last one in the order of
reading is what remains. In a body that order is the one of the names of its members: `provider`
blocks are read before `terraform` blocks.

* `Block.acceptedIn`, `Statement.filterMap_block?_ofBody` — the blocks of a type that are read.
* `Block.flatMap_acceptedOf` — two types of blocks in the order in which they are read.
* `coreGiven`, `versionsGiven`, `sourcesGiven` — what a body says of constraints and sources.
* `Module.requirement_decode_override` — the last of them remains.
* `override_constraints_replace` — the law.
-/

namespace ModuleSurvey

open Json (Value Members)

/-! ## Blocks that are read -/

namespace Block

/-- The blocks below a value, unless there is a fault in it. -/
def accepted (count : Nat) (v : Value) : List Block := if Shaped count v then leaves count v else []

def acceptedIn (type : BlockType) : Value → List Block
  | .object ms => (Members.get? ms type.word).elim [] (accepted type.labelCount)
  | _ => []

def acceptedOf : Value → List (BlockType × Block)
  | .object ms => ms.flatMap (ofMember accepted)
  | _ => []

end Block

namespace Statement

theorem filterMap_block?_eq (statements : List Statement) :
    statements.filterMap block? = (statements.map placed?).filterMap Prod.fst := by
  rw [List.filterMap_map]
  rfl

theorem filterMap_block?_ofMember (e : String × Value) (x : BlockIndex) :
    (ofMember e.1 e.2 x).1.filterMap block? = Block.ofMember Block.accepted e := by
  rw [Block.ofMember]
  cases opened : BlockType.ofWord? e.1 with
  | none =>
    rw [ofMember_of_unknown opened]
    rfl
  | some type =>
    rw [← BlockType.word_of_ofWord? opened, Option.elim, Block.accepted]
    by_cases shaped : Block.Shaped type.labelCount e.2
    · have blocks : AreBlocks (ofBlocks type (Block.leaves type.labelCount e.2) x)
          ((Block.leaves type.labelCount e.2).map (type, ·)) x :=
        areBlocks_ofBlocks (fun _ => Block.length_labels_of_mem_leaves) x
      have all (placed : List ((BlockType × Block) × SourcePos)) :
          (placed.map fun block => (some block.1, block.2)).filterMap Prod.fst =
            placed.map Prod.fst := by
        simp [List.filterMap_map]
      rw [ofMember_of_blocks (Block.collect_of_shaped shaped), if_pos shaped, filterMap_block?_eq,
        blocks.placed, all, x.map_fst_placed]
    · obtain ⟨fault, refused⟩ := (Block.exists_fault_iff [] type.labelCount e.2).2 shaped
      rw [ofMember_of_fault refused, if_neg shaped]
      rfl

theorem filterMap_block?_ofBody (body : Value) (x : BlockIndex) :
    (ofBody body x).1.filterMap block? = Block.acceptedOf body := by
  cases body with
  | object ms =>
    rw [ofBody, Block.acceptedOf]
    induction ms generalizing x with
    | nil => rfl
    | cons e ms inductionHypothesis =>
      rw [List.flatMap_cons, ← filterMap_block?_ofMember e x,
        ← inductionHypothesis (ofMember e.1 e.2 x).2, ← List.filterMap_append]
      rfl
  | null | bool | number | string | array => rfl

theorem flatMap_block?_ofBody {γ : Type} (read : BlockType × Block → List γ) (body : Value)
    (x : BlockIndex) :
    ((ofBody body x).1.flatMap fun s => s.block?.elim [] read) =
      (Block.acceptedOf body).flatMap read := by
  rw [← filterMap_block?_ofBody body x]
  induction (ofBody body x).1 with
  | nil => rfl
  | cons s statements inductionHypothesis =>
    rw [List.flatMap_cons, inductionHypothesis]
    cases found : s.block? with
    | none => rw [List.filterMap_cons_none found]; rfl
    | some block => rw [List.filterMap_cons_some found]; rfl

end Statement

/-! ## Two types of blocks -/

/-- Where two members of a sorted object count, they count in the order of their names. -/
theorem SortedMap.flatMap_pair_of_sorted {α γ : Type} {first second : String}
    (before : first < second) {entries : List (String × α)}
    (sorted : entries.Pairwise fun a b => a.1 < b.1) {read : String × α → List γ}
    (others : ∀ e, e.1 ≠ first → e.1 ≠ second → read e = []) :
    entries.flatMap read =
      ((lookupEntry first entries).elim [] fun a => read (first, a)) ++
        (lookupEntry second entries).elim [] fun a => read (second, a) := by
  induction entries with
  | nil => rfl
  | cons e entries inductionHypothesis =>
    obtain ⟨key, a⟩ := e
    obtain ⟨above, sortedRest⟩ := List.pairwise_cons.1 sorted
    have absent {sought : String} (notAbove : sought = key ∨ sought < key) :
        lookupEntry sought entries = none := by
      refine lookupEntry_of_lt fun other member => ?_
      rcases notAbove with rfl | below
      · exact above other member
      · exact String.lt_trans below (above other member)
    rw [List.flatMap_cons, inductionHypothesis sortedRest, lookupEntry, lookupEntry]
    by_cases isFirst : first = key
    · -- The second member may still come, and the first one does not come again.
      have notSecond : second ≠ key := by
        rintro rfl
        exact String.lt_irrefl first (isFirst ▸ before)
      rw [if_pos isFirst, if_neg notSecond, absent (.inl isFirst), isFirst]
      rfl
    · by_cases isSecond : second = key
      · rw [if_neg isFirst, if_pos isSecond, absent (.inl isSecond), absent (.inr (isSecond ▸ before)),
          isSecond]
        exact List.append_nil _
      · rw [if_neg isFirst, if_neg isSecond, others (key, a) (Ne.symm isFirst) (Ne.symm isSecond)]
        rfl

theorem Block.flatMap_ofMember_word {γ : Type} (read : BlockType × Block → List γ)
    (type : BlockType) (v : Value) :
    (ofMember accepted (type.word, v)).flatMap read =
      (accepted type.labelCount v).flatMap fun block => read (type, block) := by
  rw [ofMember, type.ofWord?_word, Option.elim, List.flatMap_map]

/-- Of a body `provider` blocks are read before `terraform` blocks. -/
theorem Block.flatMap_acceptedOf {γ : Type} {body : Value} (sorted : body.Sorted)
    {read : BlockType × Block → List γ}
    (others : ∀ block, block.1 ≠ .provider → block.1 ≠ .terraform → read block = []) :
    (acceptedOf body).flatMap read =
      ((acceptedIn .provider body).flatMap fun block => read (.provider, block)) ++
        (acceptedIn .terraform body).flatMap fun block => read (.terraform, block) := by
  cases sorted with
  | object ordered members =>
    rename_i ms
    have before : BlockType.provider.word < BlockType.terraform.word := by decide
    have unread (e : String × Value) (notProvider : e.1 ≠ BlockType.provider.word)
        (notTerraform : e.1 ≠ BlockType.terraform.word) :
        (ofMember accepted e).flatMap read = [] := by
      rw [ofMember]
      cases opened : BlockType.ofWord? e.1 with
      | none => rfl
      | some type =>
        obtain isWord := BlockType.word_of_ofWord? opened
        refine List.flatMap_eq_nil_iff.2 fun block member => ?_
        obtain ⟨leaf, -, rfl⟩ := List.mem_map.1 member
        exact others _ (fun same => notProvider (isWord ▸ congrArg BlockType.word same))
          fun same => notTerraform (isWord ▸ congrArg BlockType.word same)
    have ofType (type : BlockType) :
        ((SortedMap.lookupEntry type.word ms).elim [] fun v =>
          (ofMember accepted (type.word, v)).flatMap read) =
          (acceptedIn type (.object ms)).flatMap fun block => read (type, block) := by
      rw [acceptedIn, Members.get?]
      cases SortedMap.lookupEntry type.word ms with
      | none => rfl
      | some v => exact flatMap_ofMember_word read type v
    rw [acceptedOf, List.flatMap_assoc, SortedMap.flatMap_pair_of_sorted before ordered unread,
      ofType, ofType]
  | null | bool | number | string | array => rfl

/-! ## What a body says -/

/-- The constraint that an entry of the required providers gives: the text that it is, or the version
among its attributes. -/
def givenVersion? : Value → Option String
  | .string constraint => some constraint
  | .object attrs => (Attribute.string attrs "version").value?
  | .null | .bool _ | .number _ | .array _ => none

def givenFor {γ : Type} (provider : String) (give? : Value → Option γ) (block : Block) : List γ :=
  (requirementEntries block.body).filterMap fun e => if e.1 = provider then give? e.2 else none

/-- The constraints on the program that a body gives, in the order of reading. -/
def coreGiven (body : Value) : List String :=
  (Block.acceptedIn .terraform body).filterMap fun block =>
    (Attribute.string block.body "required_version").value?

def configuredVersion? (provider : String) (block : Block) : Option String :=
  if block.labels = [provider] then (Attribute.string block.body "version").value? else none

def versionsGiven (provider : String) (body : Value) : List String :=
  (Block.acceptedIn .provider body).filterMap (configuredVersion? provider)
    ++ (Block.acceptedIn .terraform body).flatMap (givenFor provider givenVersion?)

def sourcesGiven (provider : String) (body : Value) : List String :=
  (Block.acceptedIn .terraform body).flatMap (givenFor provider givenSource?)

/-! ## What its notes say -/

def constraintsIn (provider : String) (notes : List Note) : List String :=
  notes.filterMap (Note.about provider Note.constraint?)

theorem constraintsIn_eq_nil {provider : String} {notes : List Note}
    (free : ∀ note ∈ notes, note.constraint? = none) : constraintsIn provider notes = [] :=
  List.filterMap_eq_nil_iff.2 fun note noted => Note.about_of_none (free note noted)

theorem constraintsIn_append (provider : String) (first more : List Note) :
    constraintsIn provider (first ++ more) =
      constraintsIn provider first ++ constraintsIn provider more :=
  List.filterMap_append

theorem constraintsIn_flatMap {γ : Type} (provider : String) (notes : γ → List Note) (cs : List γ) :
    constraintsIn provider (cs.flatMap notes) = cs.flatMap fun c => constraintsIn provider (notes c) :=
  List.filterMap_flatMap

theorem constraintsIn_versions (wanted provider : String) (given : Option String) :
    constraintsIn wanted (given.toList.map (.version provider)) =
      (if provider = wanted then given else none).toList := by
  cases given with
  | none => simp [constraintsIn]
  | some constraint =>
    by_cases same : provider = wanted <;>
      simp [constraintsIn, Note.about, Note.provider, Note.constraint?, same]

theorem constraintsIn_requirementNotes (wanted provider : String) (value : Value) :
    constraintsIn wanted (requirementNotes provider value) =
      (if provider = wanted then givenVersion? value else none).toList := by
  cases value with
  | string constraint => exact constraintsIn_versions wanted provider (some constraint)
  | object attrs =>
    have configurations (given : List String) : constraintsIn wanted (given.map fun aliasName =>
        .configuration provider (.parse (unwrapTemplate aliasName))) = [] :=
      constraintsIn_eq_nil (by simp [Note.constraint?])
    rw [requirementNotes, constraintsIn_append, constraintsIn_append, configurations,
      constraintsIn_versions, List.append_nil]
    -- What the entry says of its source is no constraint.
    cases Attribute.string attrs "source" with
    | given source => rw [constraintsIn_eq_nil (by simp [Note.constraint?])]; rfl
    | missing | null => rw [constraintsIn_eq_nil (by simp [Note.constraint?])]; rfl
    | rejected => rfl
  | null | bool | number | array => simp [requirementNotes, givenVersion?, constraintsIn]

def Block.versions (provider : String) : BlockType × Block → List String
  | (.provider, block) => (configuredVersion? provider block).toList
  | (.terraform, block) => givenFor provider givenVersion? block
  | _ => []

def Block.sources (provider : String) : BlockType × Block → List String
  | (.terraform, block) => givenFor provider givenSource? block
  | _ => []

def Block.core : BlockType × Block → List String
  | (.terraform, block) => (Attribute.string block.body "required_version").value?.toList
  | _ => []

theorem constraintsIn_notes (provider : String) (s : Statement) :
    constraintsIn provider s.notes = s.block?.elim [] (Block.versions provider) := by
  cases s with
  | terraform pos body =>
    rw [notes_terraform, constraintsIn_flatMap]
    simp only [constraintsIn_requirementNotes]
    exact (List.filterMap_eq_flatMap_toList ..).symm
  | provider pos name body =>
    have named (more : List Note) :
        constraintsIn provider (.named name :: more) = constraintsIn provider more :=
      List.filterMap_cons_none (Note.about_of_none rfl)
    have aliases (given : Option String) : constraintsIn provider (given.toList.map fun aliasName =>
        .aliased name (unwrapTemplate aliasName)) = [] :=
      constraintsIn_eq_nil (by simp [Note.constraint?])
    rw [Statement.notes, List.cons_append, named, constraintsIn_append, constraintsIn_versions, aliases,
      List.append_nil]
    simp [Statement.block?, Block.versions, configuredVersion?]
  | resource pos mode type name body =>
    refine constraintsIn_eq_nil fun note noted => ?_
    obtain rfl := List.mem_singleton.1 noted
    unfold ProviderRef.note
    split <;> rfl
  | inputVariable | output | moduleCall | malformed | noBody => rfl

theorem Statement.sources_eq (provider : String) (s : Statement) :
    s.sources provider = s.block?.elim [] (Block.sources provider) := by
  cases s <;> rfl

theorem toList_coreConstraint? (s : Statement) :
    (Module.coreConstraint? s).toList = s.block?.elim [] Block.core := by
  cases s <;> rfl

/-! ## The last one remains -/

section

variable {α τ : Type}

theorem foldl_replace (give? : τ → Option α) (ts : List τ) (l : List α) :
    ts.foldl (fun l t => ((give? t).map ([·])).getD l) l =
      ((ts.filterMap give?).getLast?.map ([·])).getD l := by
  rw [foldl_getD, ← List.map_filterMap, List.getLast?_map]

end

theorem Note.about_map {γ δ : Type} (provider : String) (say? : Note → Option γ) (f : γ → δ)
    (note : Note) :
    (note.about provider fun note => (say? note).map f) = (note.about provider say?).map f := by
  unfold Note.about
  split <;> rfl

namespace Books

theorem versionConstraints_writeAll_override (b : Books) (notes : List Note) (provider : String) :
    ((b.writeAll .override notes).requirement provider).versionConstraints =
      ((constraintsIn provider notes).getLast?.map ([·])).getD
        (b.requirement provider).versionConstraints := by
  have step (b : Books) (note : Note) :
      ((b.write .override note).requirement provider).versionConstraints =
        ((note.about provider Note.constraint?).map ([·])).getD
          (b.requirement provider).versionConstraints := by
    rw [requirement_write_override, Note.about_map]
  rw [constraintsIn, ← foldl_replace]
  exact (List.foldl_hom (fun b : Books => (b.requirement provider).versionConstraints)
    fun b note => (step b note).symm).symm

theorem source_writeAll_override (b : Books) (notes : List Note) (provider : String) :
    ((b.writeAll .override notes).requirement provider).source =
      (sourcesIn provider notes).getLast?.getD (b.requirement provider).source := by
  rw [sourcesIn, ← foldl_getD]
  exact (List.foldl_hom (fun b : Books => (b.requirement provider).source)
    fun b note => (congrArg (·.source) (requirement_write_override b note provider)).symm).symm

/-- In an override file no source is a problem, so only what is refused is. -/
theorem mem_remarks_of_mem_problems_override {remarks : List Remark} {problem : Problem} {b : Books}
    (found : problem ∈ b.problems .override remarks) : .problem problem ∈ remarks := by
  induction remarks generalizing b with
  | nil => cases found
  | cons remark remarks inductionHypothesis =>
    cases remark with
    | problem own =>
      rcases List.mem_cons.1 found with rfl | later
      · exact List.mem_cons_self
      · exact List.mem_cons_of_mem _ (inductionHypothesis later)
    | note note =>
      have unopposed : b.conflict? .override note = none := by cases note <;> simp [conflict?]
      rw [problems, unopposed] at found
      exact List.mem_cons_of_mem _ (inductionHypothesis found)

end Books

namespace Module

theorem requiredCore_foldl_override (statements : List Statement) (m : Module) :
    (statements.foldl (declare .override) m).requiredCore =
      ((statements.filterMap coreConstraint?).getLast?.map ([·])).getD m.requiredCore := by
  rw [← foldl_replace]
  exact (List.foldl_hom requiredCore fun m s => (requiredCore_declare_override m s).symm).symm

variable {body : Value}

theorem filterMap_coreConstraint?_ofBody (sorted : body.Sorted) (x : BlockIndex) :
    (Statement.ofBody body x).1.filterMap coreConstraint? = coreGiven body := by
  rw [List.filterMap_eq_flatMap_toList]
  simp only [toList_coreConstraint?]
  rw [Statement.flatMap_block?_ofBody, Block.flatMap_acceptedOf sorted, coreGiven,
    List.filterMap_eq_flatMap_toList]
  · simp [Block.core]
  · rintro ⟨type, block⟩ - notTerraform
    cases type <;> first | rfl | exact absurd rfl notTerraform

theorem constraintsIn_ofBody (sorted : body.Sorted) (x : BlockIndex) (provider : String) :
    constraintsIn provider ((Statement.ofBody body x).1.flatMap Statement.notes) =
      versionsGiven provider body := by
  rw [constraintsIn_flatMap]
  simp only [constraintsIn_notes]
  rw [Statement.flatMap_block?_ofBody, Block.flatMap_acceptedOf sorted, versionsGiven,
    List.filterMap_eq_flatMap_toList]
  · rfl
  · rintro ⟨type, block⟩ notProvider notTerraform
    cases type <;> first | rfl | exact absurd rfl notProvider | exact absurd rfl notTerraform

theorem sourcesIn_ofBody (sorted : body.Sorted) (x : BlockIndex) (provider : String) :
    sourcesIn provider ((Statement.ofBody body x).1.flatMap Statement.notes) =
      sourcesGiven provider body := by
  rw [sourcesIn_flatMap]
  simp only [sourcesIn_notes, Statement.sources_eq]
  rw [Statement.flatMap_block?_ofBody, Block.flatMap_acceptedOf sorted, sourcesGiven]
  · simp [Block.sources]
  · rintro ⟨type, block⟩ - notTerraform
    cases type <;> first | rfl | exact absurd rfl notTerraform

theorem not_isConflictOf_of_mem_reports_override {m : Module} {s : Statement} {problem : Problem}
    (reported : problem ∈ m.reports .override s) (provider : String) :
    problem.isConflictOf provider = false := by
  rcases List.mem_append.1 reported with ofRemarks | ofEntry
  · have said := Books.mem_remarks_of_mem_problems_override ofRemarks
    exact problem.not_isConflictOf_of_isAboutBlock (isAboutBlock_of_mem_remarks said)
  · cases aimed : s.target? with
    | none => simp [aimed] at ofEntry
    | some target =>
      rw [aimed] at ofEntry
      rcases List.mem_append.1 ofEntry with ofBlock | ofTarget
      · exact problem.not_isConflictOf_of_isAboutBlock (isAboutBlock_of_mem_orphanProblems ofBlock)
      · exact problem.not_isConflictOf_of_isAboutEntry (isAboutEntry_of_mem_entryProblems ofTarget)

theorem summary_of_mem_reportsAll_override {statements : List Statement} {m : Module}
    {d : Diagnostic} (reported : d ∈ m.reportsAll .override statements) :
    d.summary ≠ "Multiple provider source attributes" := by
  induction statements generalizing m with
  | nil => cases reported
  | cons s statements inductionHypothesis =>
    rcases List.mem_append.1 reported with now | later
    · obtain ⟨problem, ofStatement, rfl⟩ := List.mem_map.1 now
      intro words
      obtain ⟨provider, isConflict⟩ := Problem.exists_isConflictOf_of_summary words
      rw [not_isConflictOf_of_mem_reports_override ofStatement provider] at isConflict
      cases isConflict
    · exact inductionHypothesis later

end Module

/-! ## The law -/

/-- What an override file makes of constraints and sources, whatever the module held before and
however many blocks of the file speak of them. The last constraint on the program that it gives is the
only one afterwards, and so is, for each provider, the last constraint on this provider; the last
source of a provider is its source. What the file says nothing of stays as it was. And no source is
reported for being another one. -/
theorem override_constraints_replace (m : Module) (index : BlockIndex) (body : Value)
    (sorted : body.Sorted) :
    let after := m.decode .override index body
    after.requiredCore = ((coreGiven body).getLast?.map ([·])).getD m.requiredCore ∧
    (∀ provider,
      (after.requirement provider).versionConstraints =
        ((versionsGiven provider body).getLast?.map ([·])).getD
          (m.requirement provider).versionConstraints ∧
      (after.requirement provider).source =
        (sourcesGiven provider body).getLast?.getD (m.requirement provider).source) ∧
    ∃ reported, after.diagnostics = m.diagnostics ++ reported ∧
      ∀ d ∈ reported, d.summary ≠ "Multiple provider source attributes" := by
  intro after
  have books : after.books =
      m.books.writeAll .override ((Statement.ofBody body index).1.flatMap Statement.notes) :=
    Module.books_foldl_declare .override _ m
  refine ⟨?_, fun provider => ⟨?_, ?_⟩, m.reportsAll .override (Statement.ofBody body index).1,
    Module.diagnostics_foldl_declare .override _ m,
    fun _ => Module.summary_of_mem_reportsAll_override⟩
  · rw [← Module.filterMap_coreConstraint?_ofBody sorted index]
    exact Module.requiredCore_foldl_override _ m
  · rw [← Module.constraintsIn_ofBody sorted index provider]
    exact (congrArg (fun b : Books => (b.requirement provider).versionConstraints) books).trans
      (m.books.versionConstraints_writeAll_override _ provider)
  · rw [← Module.sourcesIn_ofBody sorted index provider]
    exact (congrArg (fun b : Books => (b.requirement provider).source) books).trans
      (m.books.source_writeAll_override _ provider)

def constrainedModule : Module :=
  { Module.new "m" with
    requiredCore := [">= 0.12", "< 2.0"]
    requiredProviders := .ofList [
      ("aws", ⟨"hashicorp/aws", ["~> 4.0", "!= 4.9"], []⟩),
      ("google", ⟨"hashicorp/google", ["~> 3.0", "< 3.9"], []⟩)] }

def constrainingBody : Value :=
  .object [
    ("provider", .object [("aws", .object [("version", .string "5.9")])]),
    ("terraform", .array [
      .object [
        ("required_providers", .object [
          ("aws", .object [("source", .string "example/aws"), ("version", .string "5.1")])]),
        ("required_version", .string ">= 1.0")],
      .object [("required_providers", .object [("aws", .string "5.0")])]])]

theorem constrainingBody_replaces :
    let after := constrainedModule.decode .override (.scan "override.tf.json" .json "") constrainingBody
    constrainingBody.Sorted ∧
    versionsGiven "aws" constrainingBody = ["5.9", "5.1", "5.0"] ∧
    after.requiredCore = [">= 1.0"] ∧
    (after.requirement "aws").versionConstraints = ["5.0"] ∧
    (after.requirement "aws").source = "example/aws" ∧
    (after.requirement "google").versionConstraints = ["~> 3.0", "< 3.9"] ∧
    (after.requirement "google").source = "hashicorp/google" := by
  intro after
  have sorted := (Value.sorted_of_isCanonical constrainingBody (by decide)).1
  obtain ⟨core, replaced, -⟩ := override_constraints_replace constrainedModule
    (.scan "override.tf.json" .json "") constrainingBody sorted
  obtain ⟨awsVersions, awsSource⟩ := replaced "aws"
  obtain ⟨googleVersions, googleSource⟩ := replaced "google"
  exact ⟨sorted, by decide, core.trans (by decide), awsVersions.trans (by decide),
    awsSource.trans (by decide), googleVersions.trans (by decide), googleSource.trans (by decide)⟩

end ModuleSurvey
