import ModuleSurvey.Proofs.Module.BookOrder
import ModuleSurvey.Proofs.Module.Overrides
import ModuleSurvey.Proofs.Module.Places
import Mathlib.Data.List.Induction

/-! # Override files brought in twice

An override file that is brought in once more changes nothing but the list of problems. What its
statements say is of two sorts. Of what replaces something, such as an attribute, a constraint or
the source of a provider, the last word counts, and a run that is repeated ends with the same word.
What is added to a list is there already. And a block that has had to stand in for a missing entry
amends, the second time, the entry that it has left.

* `foldl_getD_again`, `foldl_addNew_again` — runs of replacements and of additions, repeated.
* `EntryKind.Overwrites`, `EntryKind.foldl_bring_again` — the entries of a kind.
* `Books.writeAll_again` — the books on providers.
* `override_file_twice` — the law, and what the second run reports.
-/

namespace ModuleSurvey

attribute [ext] ProviderRequirement Books

/-! ## Runs repeated -/

section

variable {α τ : Type}

theorem foldl_getD (give? : τ → Option α) (ts : List τ) (a : α) :
    ts.foldl (fun a t => (give? t).getD a) a = (ts.filterMap give?).getLast?.getD a := by
  induction ts generalizing a with
  | nil => rfl
  | cons t ts inductionHypothesis =>
    rw [List.foldl_cons, inductionHypothesis]
    cases given : give? t with
    | none => rw [List.filterMap_cons_none given]; rfl
    | some b =>
      rw [List.filterMap_cons_some given, List.getLast?_cons]
      rfl

theorem foldl_getD_again (give? : τ → Option α) (ts : List τ) (a : α) :
    ts.foldl (fun a t => (give? t).getD a) (ts.foldl (fun a t => (give? t).getD a) a) =
      ts.foldl (fun a t => (give? t).getD a) a := by
  simp only [foldl_getD]
  cases (ts.filterMap give?).getLast? <;> rfl

variable [DecidableEq α]

theorem addNew_of_subset {l : List α} {a : Option α} (held : ∀ b ∈ a, b ∈ l) : addNew l a = l := by
  cases a with
  | none => rfl
  | some b => exact if_pos (held b rfl)

theorem foldl_addNew_of_subset {item? : τ → Option α} {ts : List τ} {l : List α}
    (held : ∀ t ∈ ts, ∀ b ∈ item? t, b ∈ l) : ts.foldl (fun l t => addNew l (item? t)) l = l := by
  induction ts with
  | nil => rfl
  | cons t ts inductionHypothesis =>
    rw [List.foldl_cons, addNew_of_subset (held t List.mem_cons_self)]
    exact inductionHypothesis fun t member => held t (List.mem_cons_of_mem _ member)

theorem mem_foldl_addNew {item? : τ → Option α} {ts : List τ} {l : List α} {b : α} :
    b ∈ ts.foldl (fun l t => addNew l (item? t)) l ↔ (∃ t ∈ ts, item? t = some b) ∨ b ∈ l := by
  induction ts generalizing l with
  | nil => simp
  | cons t ts inductionHypothesis =>
    rw [List.foldl_cons, inductionHypothesis, mem_addNew]
    simp [or_assoc, or_left_comm]

theorem foldl_addNew_again (item? : τ → Option α) (ts : List τ) (l : List α) :
    ts.foldl (fun l t => addNew l (item? t)) (ts.foldl (fun l t => addNew l (item? t)) l) =
      ts.foldl (fun l t => addNew l (item? t)) l :=
  foldl_addNew_of_subset fun t member _ given => mem_foldl_addNew.2 (.inl ⟨t, member, given⟩)

end

/-! ## Entries -/

namespace EntryKind

variable {β α : Type} {kind : EntryKind β α}

/-- What a block makes of an entry is not seen behind what it makes of it later. -/
structure Overwrites (kind : EntryKind β α) : Prop where
  settled : ∀ block, kind.amend block (kind.fresh block) = kind.fresh block
  again : ∀ block entry, kind.amend block (kind.amend block entry) = kind.amend block entry
  later : ∀ block other entry, kind.amend block (kind.amend other (kind.amend block entry)) =
    kind.amend block (kind.amend other entry)

namespace Overwrites

theorem amend_amendAll (overwrites : kind.Overwrites) (block : β) (blocks : List β) (entry : α) :
    kind.amend block (kind.amendAll (kind.amend block entry) blocks) =
      kind.amend block (kind.amendAll entry blocks) := by
  induction blocks generalizing entry with
  | nil => exact overwrites.again block entry
  | cons other blocks inductionHypothesis =>
    -- The block may be put behind the first of the others as well, where it overwrites itself.
    calc kind.amend block (kind.amendAll (kind.amend other (kind.amend block entry)) blocks)
      _ = kind.amend block (kind.amendAll
            (kind.amend block (kind.amend other (kind.amend block entry))) blocks) :=
        (inductionHypothesis _).symm
      _ = kind.amend block (kind.amendAll (kind.amend block (kind.amend other entry)) blocks) := by
        rw [overwrites.later]
      _ = kind.amend block (kind.amendAll (kind.amend other entry) blocks) :=
        inductionHypothesis _

theorem amendAll_again (overwrites : kind.Overwrites) (entry : α) (blocks : List β) :
    kind.amendAll (kind.amendAll entry blocks) blocks = kind.amendAll entry blocks := by
  induction blocks using List.reverseRecOn with
  | nil => rfl
  | append_singleton blocks block inductionHypothesis =>
    have behind : ∀ e, kind.amendAll e (blocks ++ [block]) =
        kind.amend block (kind.amendAll e blocks) := fun e => by simp [amendAll]
    rw [behind, behind, overwrites.amend_amendAll, inductionHypothesis]

theorem foldl_bring_again (overwrites : kind.Overwrites) (blocks : List β) (map : SortedMap α) :
    blocks.foldl (kind.bring .override) (blocks.foldl (kind.bring .override) map) =
      blocks.foldl (kind.bring .override) map := by
  apply SortedMap.ext_get?
  intro key
  cases found : map.get? key with
  | some base =>
    have once := kind.get?_foldl_override_of_some blocks found
    rw [kind.get?_foldl_override_of_some blocks once, once, overwrites.amendAll_again]
  | none =>
    have once := kind.get?_foldl_override_of_none blocks found
    cases ofKey : kind.under key blocks with
    | nil =>
      rw [ofKey] at once
      rw [kind.get?_foldl_override_of_none blocks once, ofKey, once]
    | cons block more =>
      -- The first block stands in for the missing entry, which it would leave as it is.
      have amended : kind.amendAll (kind.fresh block) more =
          kind.amendAll (kind.fresh block) (block :: more) := by
        rw [amendAll, amendAll, List.foldl_cons, overwrites.settled]
      rw [ofKey] at once
      dsimp only at once
      rw [kind.get?_foldl_override_of_some blocks once, once, ofKey, amended,
        overwrites.amendAll_again]

end Overwrites

theorem named_later {γ : Type} (named other : Bool) (own others before : γ) :
    (if named then own else if other then others else if named then own else before) =
      if named then own else if other then others else before := by
  cases named <;> rfl

theorem named_again {γ : Type} (named : Bool) (own before : γ) :
    (if named then own else if named then own else before) = if named then own else before := by
  cases named <;> rfl

theorem inputVariable_overwrites : inputVariable.Overwrites where
  settled := inputVariable_settled
  again block entry := by simp only [inputVariable_amend, named_again]
  later block other entry := by simp only [inputVariable_amend, named_later]

theorem output_overwrites : output.Overwrites where
  settled := output_settled
  again block entry := by simp only [output_amend, named_again]
  later block other entry := by simp only [output_amend, named_later]

theorem resource_overwrites (mode : ResourceMode) : (resource mode).Overwrites where
  settled := resource_settled mode
  again block entry := by simp only [resource_amend, named_again]
  later block other entry := by simp only [resource_amend, named_later]

theorem moduleCall_overwrites : moduleCall.Overwrites where
  settled := moduleCall_settled
  again block entry := by simp only [moduleCall_amend, named_again]
  later block other entry := by simp only [moduleCall_amend, named_later]

end EntryKind

/-! ## Books -/

namespace Note

def about {γ : Type} (provider : String) (say? : Note → Option γ) (note : Note) : Option γ :=
  if note.provider = provider then say? note else none

theorem amend_override (note : Note) (r : ProviderRequirement) :
    note.amend .override r =
      { source := note.address?.getD r.source
        versionConstraints := (note.constraint?.map ([·])).getD r.versionConstraints
        configurationAliases := addNew r.configurationAliases note.configuration? } := by
  rw [← note.configurationAliases_amend .override]
  cases note with
  | source provider address => simp [amend, address?, constraint?]
  | version | named | aliased => rfl
  | configuration provider reference =>
    simp only [amend, address?, constraint?]
    split <;> rfl

end Note

namespace Books

variable {notes : List Note}

theorem requirement_write_override (b : Books) (note : Note) (provider : String) :
    (b.write .override note).requirement provider =
      { source := (note.about provider Note.address?).getD (b.requirement provider).source
        versionConstraints := (note.about provider fun note => note.constraint?.map ([·])).getD
          (b.requirement provider).versionConstraints
        configurationAliases := addNew (b.requirement provider).configurationAliases
          (note.about provider Note.configuration?) } := by
  rw [requirement_write]
  unfold Note.about
  split
  case isTrue about => exact note.amend_override _
  case isFalse other => rfl

/-- A part of the books that each note changes by itself, and a repeated run of notes as a single
one, is the same after the notes are written once more. -/
theorem part_writeAll_again {γ : Type} (part : Books → γ) (step : γ → Note → γ)
    (steps : ∀ b note, step (part b) note = part (b.write .override note))
    (again : ∀ c, notes.foldl step (notes.foldl step c) = notes.foldl step c) (b : Books) :
    part ((b.writeAll .override notes).writeAll .override notes) =
      part (b.writeAll .override notes) := by
  unfold writeAll
  rw [← List.foldl_hom part steps, ← List.foldl_hom part steps, again]

theorem iff_writeAll_again (Holds : Books → Prop) (Says : Note → Prop)
    (step : ∀ b note, Holds (b.write .override note) ↔ Says note ∨ Holds b) (b : Books) :
    Holds ((b.writeAll .override notes).writeAll .override notes) ↔
      Holds (b.writeAll .override notes) := by
  rw [writeAll_iff Holds Says step, writeAll_iff Holds Says step]
  exact or_iff_right_of_imp .inl

theorem requirement_writeAll_again (b : Books) (notes : List Note) (provider : String) :
    ((b.writeAll .override notes).writeAll .override notes).requirement provider =
      (b.writeAll .override notes).requirement provider := by
  apply ProviderRequirement.ext
  case source =>
    exact part_writeAll_again (fun b => (b.requirement provider).source) _
      (fun b note => congrArg (·.source) (requirement_write_override b note provider).symm)
      (foldl_getD_again (Note.about provider Note.address?) notes) b
  case versionConstraints =>
    exact part_writeAll_again (fun b => (b.requirement provider).versionConstraints) _
      (fun b note => congrArg (·.versionConstraints) (requirement_write_override b note provider).symm)
      (foldl_getD_again (Note.about provider fun note => note.constraint?.map ([·])) notes) b
  case configurationAliases =>
    exact part_writeAll_again (fun b => (b.requirement provider).configurationAliases) _
      (fun b note =>
        congrArg (·.configurationAliases) (requirement_write_override b note provider).symm)
      (foldl_addNew_again (Note.about provider Note.configuration?) notes) b

theorem known_writeAll_again (b : Books) (notes : List Note) (provider : String) :
    ((b.writeAll .override notes).writeAll .override notes).aliases.known provider =
      (b.writeAll .override notes).aliases.known provider :=
  part_writeAll_again (fun b => b.aliases.known provider) _
    (fun b note => (known_write b note provider).symm)
    (foldl_addNew_again (fun note => note.aliasOf? provider) notes) b

theorem writeAll_again (b : Books) (notes : List Note) :
    (b.writeAll .override notes).writeAll .override notes = b.writeAll .override notes := by
  apply Books.ext
  case required =>
    refine SortedMap.ext_getD ProviderRequirement.empty (fun provider => ?_) (requirement_writeAll_again b notes)
    exact iff_writeAll_again (fun b => b.Requires provider) (fun note => provider = note.provider)
      (fun _ _ => requires_write) b
  case aliases =>
    have sameNames : ∀ provider,
        ((b.writeAll .override notes).writeAll .override notes).aliases.contains provider = true ↔
          (b.writeAll .override notes).aliases.contains provider = true := fun provider =>
      iff_writeAll_again (fun b => b.aliases.contains provider = true) _
        (fun b note => aliased_write b note provider) b
    exact congrArg ProviderAliases.mk
      (SortedMap.ext_getD [] sameNames (known_writeAll_again b notes))

end Books

/-! ## Statements -/

namespace Module

theorem requiredCore_declare_override (m : Module) (s : Statement) :
    (m.declare .override s).requiredCore =
      ((coreConstraint? s).map ([·])).getD m.requiredCore := by
  rw [requiredCore_declare]
  cases s with
  | terraform pos body =>
    simp only [constrainCore, coreConstraint?]
    cases (Attribute.string body "required_version").value? <;> rfl
  | provider | inputVariable | output | resource | moduleCall | malformed | noBody => rfl

theorem books_foldl_declare (role : FileRole) (statements : List Statement) (m : Module) :
    (statements.foldl (declare role) m).books =
      m.books.writeAll role (statements.flatMap Statement.notes) := by
  induction statements generalizing m with
  | nil => rfl
  | cons s statements inductionHypothesis =>
    rw [List.foldl_cons, inductionHypothesis, books_declare, List.flatMap_cons,
      Books.writeAll_append]

variable (statements : List Statement) (m : Module)

theorem part_again {β α : Type} {kind : EntryKind β α} (overwrites : kind.Overwrites)
    {pick : Statement → Option β} {part : Module → SortedMap α}
    (step : ∀ role m s, part (declare role m s) =
      (pick s).elim (part m) (kind.bring role (part m))) :
    part (statements.foldl (declare .override) (statements.foldl (declare .override) m)) =
      part (statements.foldl (declare .override) m) := by
  rw [part_foldl_declare (step .override), part_foldl_declare (step .override),
    overwrites.foldl_bring_again]

theorem entries_again :
    (statements.foldl (declare .override) (statements.foldl (declare .override) m)).entries =
      (statements.foldl (declare .override) m).entries := by
  have samePath : ∀ m : Module, (statements.foldl (declare .override) m).path = m.path := fun m =>
    List.foldlRecOn (motive := fun after : Module => after.path = m.path) statements _ rfl
      fun after same s _ => (path_declare .override after s).trans same
  rw [entries, entries, Entries.mk.injEq]
  exact ⟨samePath _, part_again statements m EntryKind.inputVariable_overwrites inputs_declare,
    part_again statements m EntryKind.output_overwrites outputs_declare,
    part_again statements m (EntryKind.resource_overwrites .managed) (resourcesOf_declare .managed),
    part_again statements m (EntryKind.resource_overwrites .data) (resourcesOf_declare .data),
    part_again statements m EntryKind.moduleCall_overwrites moduleCalls_declare⟩

theorem requiredCore_again :
    (statements.foldl (declare .override) (statements.foldl (declare .override) m)).requiredCore =
      (statements.foldl (declare .override) m).requiredCore := by
  have run : ∀ m : Module, (statements.foldl (declare .override) m).requiredCore =
      statements.foldl (fun core s => ((coreConstraint? s).map ([·])).getD core) m.requiredCore :=
    fun m => (List.foldl_hom requiredCore fun m s => (requiredCore_declare_override m s).symm).symm
  rw [run, run]
  exact foldl_getD_again (fun s => (coreConstraint? s).map ([·])) statements m.requiredCore

end Module

/-! ## What is reported the second time -/

theorem Problem.summary_of_not_isAboutEntry {problem : Problem}
    (other : problem.isAboutEntry = false) (kind : String) :
    problem.summary ≠ "Missing base " ++ kind ++ " declaration to override" ∧
    problem.summary ≠ "Duplicate " ++ kind ++ " declaration" := by
  -- The first letters tell the summaries apart.
  cases problem with
  | missingBase | duplicate => cases other
  | noBody | malformedBlock | invalidAttribute | malformedRequirement | severalSources
  | missingSource =>
    constructor <;>
    · intro same
      have letters := congrArg String.toList same
      simp [summary] at letters

namespace Module

variable {role : FileRole}

/-- An override block whose target is there reports nothing about it. -/
theorem not_isAboutEntry_of_held {m : Module} {s : Statement}
    (held : ∀ target, s.target? = some target → (m.place? target).isSome = true)
    {problem : Problem} (reported : problem ∈ m.reports .override s) :
    problem.isAboutEntry = false := by
  have none : (m.reports .override s).filter Problem.isAboutEntry = [] := by
    rw [filter_isAboutEntry_reports]
    cases aimed : s.target? with
    | none => rfl
    | some target =>
      obtain ⟨place, found⟩ := Option.isSome_iff_exists.1 (held target aimed)
      simp only [Option.elim, found]
      rfl
  simpa using List.filter_eq_nil_iff.1 none problem reported

theorem reportsAll_of_held (statements : List Statement) (m : Module)
    (held : ∀ s ∈ statements, ∀ target, s.target? = some target →
      (m.place? target).isSome = true) :
    ∀ d ∈ m.reportsAll .override statements,
      ∃ (problem : Problem) (pos : SourcePos), problem.isAboutEntry = false ∧
        d = problem.diagnostic pos := by
  induction statements generalizing m with
  | nil => intro d reported; cases reported
  | cons s statements inductionHypothesis =>
    intro d reported
    rcases List.mem_append.1 reported with now | later
    · obtain ⟨problem, member, rfl⟩ := List.mem_map.1 now
      exact ⟨problem, s.pos, not_isAboutEntry_of_held (held s List.mem_cons_self) member, rfl⟩
    · -- The statement takes no target away from those after it.
      refine inductionHypothesis _ (fun other member target aimed => ?_) d later
      exact isSome_place?_declare.2 (.inr (held other (List.mem_cons_of_mem _ member) target aimed))

end Module

/-- An override file brought in twice leaves the module that it leaves when it is brought in once,
but for the problems, to which the second run adds no missing base and no duplicate. -/
theorem override_file_twice (m : Module) (file : ParsedFile) :
    let once := m.decodeFile .override file
    let twice := once.decodeFile .override file
    { twice with diagnostics := once.diagnostics } = once ∧
    ∃ reported : Diagnostics, twice.diagnostics = once.diagnostics ++ reported ∧
      ∀ d ∈ reported, ∀ kind,
        d.summary ≠ "Missing base " ++ kind ++ " declaration to override" ∧
        d.summary ≠ "Duplicate " ++ kind ++ " declaration" := by
  intro once twice
  refine ⟨?same, once.reportsAll .override file.statements, ?reports, ?about⟩
  case same =>
    refine Module.ext_parts ?_ ?_ ?_ rfl
    · exact Module.entries_again file.statements m
    · exact Module.requiredCore_again file.statements m
    · let notes := file.statements.flatMap Statement.notes
      have isOnce : once.books = m.books.writeAll .override notes :=
        Module.books_foldl_declare .override file.statements m
      have isTwice : twice.books = once.books.writeAll .override notes :=
        Module.books_foldl_declare .override file.statements once
      exact isTwice.trans (isOnce ▸ m.books.writeAll_again notes)
  case reports => exact Module.diagnostics_foldl_declare .override file.statements once
  case about =>
    intro d reported kind
    -- After the first run every target of the file is there.
    have held : ∀ s ∈ file.statements, ∀ target, s.target? = some target →
        (once.place? target).isSome = true := fun s member target aimed =>
      (Module.isSome_place?_foldl_declare .override file.statements m).2 (.inl ⟨s, member, aimed⟩)
    obtain ⟨problem, pos, other, rfl⟩ :=
      Module.reportsAll_of_held file.statements once held d reported
    exact problem.summary_of_not_isAboutEntry other kind

end ModuleSurvey
