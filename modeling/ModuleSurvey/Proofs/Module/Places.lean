import ModuleSurvey.Proofs.Module.Reports

/-! # Where targets were declared

A statement touches its own target and no other: after it its target was declared somewhere, and
every other one where it was before. Whether a target is there is also all that decides about the
two problems that an entry can have, that it is declared twice and that it is missing: a statement
has no other cause to report them.

* `Module.place?_declare_of_ne` — the places of the other targets after a statement.
* `Module.isSome_place?_declare`, `Module.isSome_place?_foldl_declare` — which targets are there
  after one statement, and after all of a file.
* `Problem.isAboutEntry`, `Problem.isAboutBlock` — problems with what is there already, and with what
  a block says.
* `Module.filter_isAboutEntry_reports` — what a statement reports about its target.
-/

namespace ModuleSurvey

open Json (Value Members)

/-! ## The block of a kind that a statement is -/

namespace Statement

variable {s : Statement}

theorem target?_of_inputVariable? {block : NamedBlock} (is : s.inputVariable? = some block) :
    s.target? = some (.inputVariable block.name) := by
  cases s with
  | inputVariable => cases is; rfl
  | terraform | provider | output | resource | moduleCall | malformed | noBody => cases is

theorem target?_of_output? {block : NamedBlock} (is : s.output? = some block) :
    s.target? = some (.output block.name) := by
  cases s with
  | output => cases is; rfl
  | terraform | provider | inputVariable | resource | moduleCall | malformed | noBody => cases is

theorem target?_of_resource? {mode : ResourceMode} {block : ResourceBlock}
    (is : s.resource? mode = some block) :
    s.target? = some (.resource mode ((EntryKind.resource mode).key block)) := by
  cases s with
  | resource pos own type name body =>
    by_cases same : own = mode
    · subst same
      simp only [resource?, if_pos, Option.some.injEq] at is
      cases is
      rfl
    · simp [resource?, same] at is
  | terraform | provider | inputVariable | output | moduleCall | malformed | noBody => cases is

theorem target?_of_moduleCall? {block : NamedBlock} (is : s.moduleCall? = some block) :
    s.target? = some (.moduleCall block.name) := by
  cases s with
  | moduleCall => cases is; rfl
  | terraform | provider | inputVariable | output | resource | malformed | noBody => cases is

end Statement

/-! ## Entries -/

namespace EntryKind

variable {β α : Type} (kind : EntryKind β α)

theorem isSome_get?_bring (role : FileRole) (map : SortedMap α) (block : β) :
    ((kind.bring role map block).get? (kind.key block)).isSome = true := by
  cases role with
  | primary => rw [get?_bring_primary]; rfl
  | override => rw [get?_bring_override]; rfl

variable (aim : String → Target) {block? : Statement → Option β}
  (aimed : ∀ {s block}, block? s = some block → s.target? = some (aim (kind.key block)))
  {s : Statement}

include aimed

theorem get?_elim_bring {role : FileRole} {map : SortedMap α} {key : String}
    (other : s.target? ≠ some (aim key)) :
    ((block? s).elim map (kind.bring role map)).get? key = map.get? key := by
  cases is : block? s with
  | none => rfl
  | some block =>
    refine kind.get?_bring_ne ?_
    rintro rfl
    exact other (aimed is)

end EntryKind

/-! ## Places -/

namespace Module

variable {m : Module} {role : FileRole} {s : Statement} {target : Target}

theorem holds_eq_isSome_place? (m : Module) (target : Target) :
    m.holds target = (m.place? target).isSome := by
  cases target <;> exact (Option.isSome_map ..).symm

/-- Where a target was declared is of no concern to a statement with another target. -/
theorem place?_declare_of_ne (other : s.target? ≠ some target) :
    (m.declare role s).place? target = m.place? target := by
  cases target with
  | inputVariable name =>
    simp only [place?, inputs_declare]
    rw [EntryKind.get?_elim_bring _ .inputVariable Statement.target?_of_inputVariable? other]
  | output name =>
    simp only [place?, outputs_declare]
    rw [EntryKind.get?_elim_bring _ .output Statement.target?_of_output? other]
  | resource mode address =>
    simp only [place?, resourcesOf_declare]
    rw [EntryKind.get?_elim_bring _ (.resource mode) Statement.target?_of_resource? other]
  | moduleCall name =>
    simp only [place?, moduleCalls_declare]
    rw [EntryKind.get?_elim_bring _ .moduleCall Statement.target?_of_moduleCall? other]

theorem isSome_place?_declare_self (role : FileRole) (m : Module) (aimed : s.target? = some target) :
    ((m.declare role s).place? target).isSome = true := by
  cases s with
  | inputVariable pos name body =>
    cases aimed
    simp only [place?, inputs_declare, Option.isSome_map]
    exact EntryKind.inputVariable.isSome_get?_bring role m.inputs ⟨pos, name, body⟩
  | output pos name body =>
    cases aimed
    simp only [place?, outputs_declare, Option.isSome_map]
    exact EntryKind.output.isSome_get?_bring role m.outputs ⟨pos, name, body⟩
  | resource pos mode type name body =>
    cases aimed
    simp only [place?, resourcesOf_declare, Option.isSome_map, Statement.resource?, if_pos]
    exact (EntryKind.resource mode).isSome_get?_bring role (m.resourcesOf mode) ⟨pos, type, name, body⟩
  | moduleCall pos name body =>
    cases aimed
    simp only [place?, moduleCalls_declare, Option.isSome_map]
    exact EntryKind.moduleCall.isSome_get?_bring role m.moduleCalls ⟨pos, name, body⟩
  | terraform | provider | malformed | noBody => cases aimed

theorem isSome_place?_declare :
    ((m.declare role s).place? target).isSome = true ↔
      s.target? = some target ∨ (m.place? target).isSome = true := by
  by_cases aimed : s.target? = some target
  · simp [aimed, isSome_place?_declare_self role m aimed]
  · simp [aimed, place?_declare_of_ne aimed]

theorem isSome_place?_foldl_declare (role : FileRole) (statements : List Statement) (m : Module) :
    ((statements.foldl (declare role) m).place? target).isSome = true ↔
      (∃ s ∈ statements, s.target? = some target) ∨ (m.place? target).isSome = true := by
  induction statements generalizing m with
  | nil => simp
  | cons s statements inductionHypothesis =>
    rw [List.foldl_cons, inductionHypothesis, isSome_place?_declare]
    simp [or_assoc, or_left_comm]

end Module

/-! ## Problems of entries and of blocks -/

namespace Problem

/-- Whether a problem is that an entry is declared twice, or missing. -/
def isAboutEntry : Problem → Bool
  | missingBase .. | duplicate .. => true
  | noBody | malformedBlock .. | invalidAttribute .. | malformedRequirement _ | severalSources ..
  | missingSource _ => false

/-- Whether a problem is with what a block says, or does not say, and not with what is known
already. -/
def isAboutBlock : Problem → Bool
  | noBody | malformedBlock .. | invalidAttribute .. | malformedRequirement _ | missingSource _ => true
  | severalSources .. | missingBase .. | duplicate .. => false

theorem not_isAboutEntry_of_isAboutBlock {problem : Problem}
    (aboutBlock : problem.isAboutBlock = true) : problem.isAboutEntry = false := by
  cases problem <;> first | rfl | cases aboutBlock

end Problem

theorem isAboutEntry_of_mem_entryProblems {role : FileRole} {kind name : String}
    {place? : Option SourcePos} {problem : Problem}
    (found : problem ∈ entryProblems role kind name place?) : problem.isAboutEntry = true := by
  unfold entryProblems at found
  split at found
  case h_1 | h_2 => rw [List.mem_singleton] at found; subst found; rfl
  case h_3 | h_4 => cases found

section

variable {problem : Problem}

theorem isAboutBlock_of_mem_attribute_problems {α : Type} {a : Attribute α}
    {context name : String} (found : problem ∈ a.problems context name) :
    problem.isAboutBlock = true := by
  simp only [Attribute.problems, List.mem_map] at found
  obtain ⟨fault, -, rfl⟩ := found
  rfl

theorem isAboutBlock_of_mem_attribute_remarks {α : Type} {a : Attribute α}
    {context name : String} {notes : α → List Note}
    (found : .problem problem ∈ a.remarks context name notes) : problem.isAboutBlock = true := by
  cases a with
  | given value => simp [Attribute.remarks] at found
  | rejected fault =>
    obtain rfl : problem = .invalidAttribute context name fault := by
      simpa [Attribute.remarks] using found
    rfl
  | missing | null => cases found

theorem isAboutBlock_of_mem_requirementRemarks {provider : String} {value : Value}
    (found : .problem problem ∈ requirementRemarks provider value) :
    problem.isAboutBlock = true := by
  cases value with
  | string constraint => simp [requirementRemarks] at found
  | object attrs =>
    simp only [requirementRemarks, List.mem_append] at found
    rcases found with (ofSource | ofVersion) | ofAliases
    · cases sourced : Attribute.string attrs "source" with
      | rejected fault =>
        obtain rfl : problem = .invalidAttribute ("required_providers." ++ provider) "source" fault := by
          simpa [sourced] using ofSource
        rfl
      | given source | missing | null => simp [sourced] at ofSource
    · exact isAboutBlock_of_mem_attribute_remarks ofVersion
    · exact isAboutBlock_of_mem_attribute_remarks ofAliases
  | null | bool | number | array =>
    obtain rfl : problem = .malformedRequirement provider := by
      simpa [requirementRemarks] using found
    rfl

theorem isAboutBlock_of_mem_requirementsRemarks {required : Value}
    (found : .problem problem ∈ requirementsRemarks required) : problem.isAboutBlock = true := by
  unfold requirementsRemarks at found
  cases collected : Block.collect [] 0 required with
  | error fault =>
    obtain rfl : problem = .malformedBlock "required_providers" fault.message := by
      simpa [collected] using found
    rfl
  | ok blocks =>
    simp only [collected, List.mem_flatMap] at found
    obtain ⟨block, -, e, -, found⟩ := found
    exact isAboutBlock_of_mem_requirementRemarks found

theorem isAboutBlock_of_mem_remarks {role : FileRole} {s : Statement}
    (found : .problem problem ∈ s.remarks role) : problem.isAboutBlock = true := by
  cases s with
  | terraform pos body =>
    simp only [Statement.remarks, List.mem_append] at found
    rcases found with ofVersion | ofProviders
    · exact isAboutBlock_of_mem_attribute_remarks ofVersion
    · cases given : body.get? "required_providers" with
      | none => simp [given] at ofProviders
      | some required =>
        rw [given] at ofProviders
        exact isAboutBlock_of_mem_requirementsRemarks ofProviders
  | provider pos name body =>
    simp only [Statement.remarks, List.cons_append, List.mem_cons, reduceCtorEq, false_or,
      List.mem_append] at found
    exact found.elim isAboutBlock_of_mem_attribute_remarks
      isAboutBlock_of_mem_attribute_remarks
  | inputVariable pos name body =>
    simp only [Statement.remarks, VariableBody.problems, List.mem_map, Remark.problem.injEq,
      exists_eq_right, List.mem_append] at found
    rcases found with (ofType | ofDescription) | ofSensitive <;>
      exact isAboutBlock_of_mem_attribute_problems ‹_›
  | output pos name body =>
    simp only [Statement.remarks, OutputBody.problems, List.mem_map, Remark.problem.injEq,
      exists_eq_right, List.mem_append] at found
    rcases found with ofDescription | ofSensitive <;>
      exact isAboutBlock_of_mem_attribute_problems ‹_›
  | resource pos mode type name body =>
    simp only [Statement.remarks, ResourceBody.problems, List.mem_cons, reduceCtorEq, false_or,
      List.mem_map, Remark.problem.injEq, exists_eq_right] at found
    exact isAboutBlock_of_mem_attribute_problems found
  | moduleCall pos name body =>
    simp only [Statement.remarks, CallBody.problems, List.mem_map, Remark.problem.injEq,
      exists_eq_right, List.mem_append] at found
    rcases found with ofSource | ofVersion
    · split at ofSource
      case h_1 | h_2 => rw [List.mem_singleton] at ofSource; subst ofSource; rfl
      case h_3 => exact isAboutBlock_of_mem_attribute_problems ofSource
    · exact isAboutBlock_of_mem_attribute_problems ofVersion
  | malformed pos type fault =>
    obtain rfl : problem = .malformedBlock type.word fault.message := by
      simpa [Statement.remarks] using found
    rfl
  | noBody pos =>
    obtain rfl : problem = .noBody := by simpa [Statement.remarks] using found
    rfl

/-- Besides the problems that the remarks have of their own, only sources are a problem. -/
theorem Books.isAboutBlock_or_of_mem_problems {role : FileRole} {remarks : List Remark}
    (own : ∀ problem, .problem problem ∈ remarks → problem.isAboutBlock = true) {b : Books}
    (found : problem ∈ b.problems role remarks) :
    problem.isAboutBlock = true ∨
      ∃ provider existing other, problem = .severalSources provider existing other := by
  induction remarks generalizing b with
  | nil => cases found
  | cons remark remarks inductionHypothesis =>
    have later := @inductionHypothesis fun problem member =>
      own problem (List.mem_cons_of_mem _ member)
    cases remark with
    | problem problem =>
      rcases List.mem_cons.1 found with rfl | found
      · exact .inl (own _ List.mem_cons_self)
      · exact later found
    | note note =>
      rcases List.mem_append.1 found with conflict | found
      · cases note with
        | source provider address =>
          simp only [Books.conflict?] at conflict
          split at conflict
          · cases conflict
          · exact .inr ⟨_, _, _, by simpa using conflict⟩
        | named | version | configuration | aliased => cases conflict
      · exact later found

theorem Books.not_isAboutEntry_of_mem_problems {role : FileRole} {s : Statement} {b : Books}
    (found : problem ∈ b.problems role (s.remarks role)) : problem.isAboutEntry = false := by
  rcases isAboutBlock_or_of_mem_problems (fun _ => isAboutBlock_of_mem_remarks) found with
    aboutBlock | ⟨provider, existing, other, rfl⟩
  · exact problem.not_isAboutEntry_of_isAboutBlock aboutBlock
  · rfl

end

theorem isAboutBlock_of_mem_orphanProblems {role : FileRole} {place? : Option SourcePos}
    {s : Statement} {problem : Problem} (found : problem ∈ s.orphanProblems role place?) :
    problem.isAboutBlock = true := by
  cases s with
  | moduleCall pos name body =>
    simp only [Statement.orphanProblems] at found
    split at found
    · rw [List.mem_singleton] at found
      subst found
      rfl
    · cases found
  | terraform | provider | inputVariable | output | resource | malformed | noBody => cases found

/-- Of the entry that a statement is about it reports what its being there or not calls for. -/
theorem Module.filter_isAboutEntry_reports (role : FileRole) (m : Module) (s : Statement) :
    (m.reports role s).filter Problem.isAboutEntry =
      s.target?.elim [] fun target =>
        entryProblems role target.kind target.name (m.place? target) := by
  have ownProblems : (m.books.problems role (s.remarks role)).filter Problem.isAboutEntry = [] := by
    refine List.filter_eq_nil_iff.2 fun problem found => ?_
    simp [Books.not_isAboutEntry_of_mem_problems found]
  rw [Module.reports, List.filter_append, ownProblems, List.nil_append]
  cases s.target? with
  | none => rfl
  | some target =>
    have orphaned : (s.orphanProblems role (m.place? target)).filter Problem.isAboutEntry = [] := by
      refine List.filter_eq_nil_iff.2 fun problem found => ?_
      simp [problem.not_isAboutEntry_of_isAboutBlock (isAboutBlock_of_mem_orphanProblems found)]
    simp only [Option.elim, List.filter_append, orphaned, List.nil_append]
    exact List.filter_eq_self.2 fun problem => isAboutEntry_of_mem_entryProblems

end ModuleSurvey
