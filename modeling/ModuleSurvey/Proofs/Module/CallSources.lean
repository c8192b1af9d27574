import ModuleSurvey.Proofs.Module.Reports

/-! # Module calls without a source

A module call without a source is reported: by the block that gives none, or whose source is
refused, or by the override block that has no call to amend. One way leads around the reports. An
override block whose source is `null` takes the source of a call away and says nothing.

* `runOf`, `decodeAll_eq_foldl` — bringing in files is one run over the blocks of all of them.
* `Module.ReportsSource`, `SilencedBy` — the source of a call was reported, or silently taken away.
* `Sourced.declare` — one block keeps the law.
* `sourceless_calls_accounted` — the law after any sequence of files.
-/

namespace ModuleSurvey

open Json (Value Members)

/-! ## Runs over the blocks of all files -/

def runOf (files : List (FileRole × ParsedFile)) : List (FileRole × Statement) :=
  files.flatMap fun file => file.2.statements.map fun statement => (file.1, statement)

theorem Module.decodeAll_eq_foldl (m : Module) (files : List (FileRole × ParsedFile)) :
    m.decodeAll files = (runOf files).foldl (fun m step => m.declare step.1 step.2) m := by
  rw [runOf, List.foldl_flatMap]
  simp only [List.foldl_map]
  rfl

def Module.declareAll (m : Module) (run : List (FileRole × Statement)) : Module :=
  run.foldl (fun m step => m.declare step.1 step.2) m

theorem Module.decodeAll_eq_declareAll (m : Module) (files : List (FileRole × ParsedFile)) :
    m.decodeAll files = m.declareAll (runOf files) :=
  m.decodeAll_eq_foldl files

def callBlocks (name : String) (run : List (FileRole × Statement)) : List (FileRole × NamedBlock) :=
  (run.filterMap fun step => step.2.moduleCall?.map fun block => (step.1, block)).filter
    fun block => block.2.name = name

/-- Whether the source of a call is the one of this block, whatever it was before: a primary block
declares the call anew, and an override block speaks of the source if it names it. -/
def speaksOfSource (block : FileRole × NamedBlock) : Bool :=
  block.1 = .primary || block.2.body.has "source"

/-- Whether the last block that speaks of the source of a call is an override block that says
`null`. -/
def SilencedBy (run : List (FileRole × Statement)) (name : String) : Prop :=
  ∃ block, ((callBlocks name run).filter speaksOfSource).getLast? = some (.override, block) ∧
    block.body.get? "source" = some .null

def Module.ReportsSource (m : Module) (name : String) : Prop :=
  ∃ pos, (Problem.missingSource name).diagnostic pos ∈ m.diagnostics ∨
    ∃ fault, (Problem.invalidAttribute ("module \"" ++ name ++ "\"") "source" fault).diagnostic pos ∈
      m.diagnostics

/-- A call without source was reported or silenced, and a silenced call has no source. -/
def Module.Sourced (m : Module) (run : List (FileRole × Statement)) (name : String) : Prop :=
  ∀ call, m.moduleCalls.get? name = some call →
    (call.source = "" → m.ReportsSource name ∨ SilencedBy run name) ∧
    (SilencedBy run name → call.source = "")

/-! ## What a body says of the source -/

theorem source_cases {body : Members} (notBlank : body.get? "source" ≠ some (.string "")) :
    (body.get? "source" = none ∧ Attribute.string body "source" = .missing) ∨
    (body.get? "source" = some .null ∧ Attribute.string body "source" = .null) ∨
    (body.get? "source" ≠ some .null ∧ ∃ text, text ≠ "" ∧
      Attribute.string body "source" = .given text) ∨
    (body.get? "source" ≠ some .null ∧ ∃ fault, Attribute.string body "source" = .rejected fault) := by
  unfold Attribute.string
  cases found : body.get? "source" with
  | none => simp
  | some value =>
    cases value with
    | null => simp
    | bool b => cases b <;> simp
    | number n => simp [Json.Number.text_ne_empty]
    | string s =>
      have nonempty : s ≠ "" := by
        rintro rfl
        exact notBlank found
      simp [nonempty]
    | array | object => simp

/-! ## One block -/

namespace Module

variable {m : Module} {role : FileRole} {pos : SourcePos} {name : String} {body : Members}
  {run : List (FileRole × Statement)}

theorem ReportsSource.declare (reported : m.ReportsSource name) (role : FileRole)
    (statement : Statement) : (m.declare role statement).ReportsSource name := by
  obtain ⟨pos, missing | ⟨fault, refused⟩⟩ := reported
  · exact ⟨pos, .inl (by rw [diagnostics_declare]; exact List.mem_append_left _ missing)⟩
  · exact ⟨pos, .inr ⟨fault, by rw [diagnostics_declare]; exact List.mem_append_left _ refused⟩⟩

theorem reportsSource_of_missing
    (reported : .missingSource name ∈ m.reports role (.moduleCall pos name body)) :
    (m.declare role (.moduleCall pos name body)).ReportsSource name := by
  refine ⟨pos, .inl ?_⟩
  rw [diagnostics_declare]
  exact List.mem_append_right _ (List.mem_map_of_mem reported)

theorem reportsSource_of_refused {fault : AttributeFault}
    (reported : .invalidAttribute ("module \"" ++ name ++ "\"") "source" fault ∈
      m.reports role (.moduleCall pos name body)) :
    (m.declare role (.moduleCall pos name body)).ReportsSource name := by
  refine ⟨pos, .inr ⟨fault, ?_⟩⟩
  rw [diagnostics_declare]
  exact List.mem_append_right _ (List.mem_map_of_mem reported)

theorem mem_reports_of_mem_problems {problem : Problem}
    (found : problem ∈ (CallBody.read body).problems role name) :
    problem ∈ m.reports role (.moduleCall pos name body) := by
  refine List.mem_append_left _ ?_
  rw [Statement.remarks, Books.problems_map_problem]
  exact found

theorem reportsSource_of_rejected {fault : AttributeFault}
    (refused : Attribute.string body "source" = .rejected fault) :
    (m.declare role (.moduleCall pos name body)).ReportsSource name := by
  have reported : Problem.invalidAttribute ("module \"" ++ name ++ "\"") "source" fault ∈
      (CallBody.read body).problems role name := by
    simp only [CallBody.problems, CallBody.read, refused]
    cases role <;> simp [Attribute.problems, Attribute.fault?]
  exact reportsSource_of_refused (mem_reports_of_mem_problems reported)

theorem reportsSource_of_primary
    (unsaid : Attribute.string body "source" = .missing ∨ Attribute.string body "source" = .null) :
    (m.declare .primary (.moduleCall pos name body)).ReportsSource name := by
  apply reportsSource_of_missing
  apply mem_reports_of_mem_problems
  rcases unsaid with unsaid | unsaid <;> simp [CallBody.problems, CallBody.read, unsaid]

theorem reportsSource_of_orphan (absent : m.moduleCalls.get? name = none)
    (sourceless : givenText body "source" = "") :
    (m.declare .override (.moduleCall pos name body)).ReportsSource name := by
  apply reportsSource_of_missing
  refine List.mem_append_right _ ?_
  simp [Statement.target?, Statement.orphanProblems, place?, absent, sourceless]

end Module

/-! ## The blocks of a call -/

section

variable {role : FileRole} {pos : SourcePos} {name : String} {body : Members}
  {run : List (FileRole × Statement)}

theorem filter_callBlocks_append (run : List (FileRole × Statement)) (step : FileRole × Statement) :
    ((callBlocks name (run ++ [step])).filter speaksOfSource).getLast? =
      ((callBlocks name [step]).filter speaksOfSource).getLast?.or
        ((callBlocks name run).filter speaksOfSource).getLast? := by
  simp [callBlocks, List.filterMap_append, List.filter_append]

theorem callBlocks_of_other {statement : Statement}
    (other : ∀ block, statement.moduleCall? = some block → block.name ≠ name) :
    callBlocks name [(role, statement)] = [] := by
  unfold callBlocks
  cases called : statement.moduleCall? with
  | none => simp [called]
  | some block => simp [called, other block called]

theorem callBlocks_moduleCall :
    callBlocks name [(role, .moduleCall pos name body)] = [(role, ⟨pos, name, body⟩)] := by
  simp [callBlocks, Statement.moduleCall?]

theorem silencedBy_append_of_other {statement : Statement}
    (other : ∀ block, statement.moduleCall? = some block → block.name ≠ name) :
    SilencedBy (run ++ [(role, statement)]) name ↔ SilencedBy run name := by
  unfold SilencedBy
  rw [filter_callBlocks_append, callBlocks_of_other other]
  simp

/-- An override block that does not name the source leaves the decision to the blocks before. -/
theorem silencedBy_append_of_unsaid (unsaid : body.get? "source" = none) :
    SilencedBy (run ++ [(.override, .moduleCall pos name body)]) name ↔ SilencedBy run name := by
  unfold SilencedBy
  rw [filter_callBlocks_append, callBlocks_moduleCall]
  simp [speaksOfSource, Json.Members.has, unsaid]

theorem silencedBy_append_of_said (said : role = .primary ∨ body.has "source" = true) :
    SilencedBy (run ++ [(role, .moduleCall pos name body)]) name ↔
      role = .override ∧ body.get? "source" = some .null := by
  have speaks : speaksOfSource (role, ⟨pos, name, body⟩) = true := by
    simpa [speaksOfSource] using said
  unfold SilencedBy
  rw [filter_callBlocks_append, callBlocks_moduleCall]
  simp only [List.filter_cons_of_pos speaks, List.filter_nil, List.getLast?_singleton,
    Option.some_or, Option.some.injEq, Prod.mk.injEq]
  constructor
  · rintro ⟨block, ⟨isOverride, rfl⟩, nulled⟩
    exact ⟨isOverride, nulled⟩
  · rintro ⟨isOverride, nulled⟩
    exact ⟨_, ⟨isOverride, rfl⟩, nulled⟩

end


/-! ## The law -/

namespace Module

variable {m : Module} {run : List (FileRole × Statement)} {name : String}

section

variable {role : FileRole} {pos : SourcePos} {body : Members} {call : ModuleCall}

theorem get?_declare_moduleCall :
    (m.declare role (.moduleCall pos name body)).moduleCalls.get? name =
      (EntryKind.moduleCall.bring role m.moduleCalls ⟨pos, name, body⟩).get? name :=
  congrArg (·.get? name) (moduleCalls_declare role m (.moduleCall pos name body))

theorem source_of_fresh (fresh : role = .primary ∨ m.moduleCalls.get? name = none)
    (found : (m.declare role (.moduleCall pos name body)).moduleCalls.get? name = some call) :
    call.source = givenText body "source" := by
  rw [get?_declare_moduleCall] at found
  have declared : (EntryKind.moduleCall.bring role m.moduleCalls ⟨pos, name, body⟩).get? name =
      some (EntryKind.moduleCall.fresh ⟨pos, name, body⟩) := by
    cases role with
    | primary => exact EntryKind.moduleCall.get?_bring_primary m.moduleCalls ⟨pos, name, body⟩
    | override =>
      have absent : m.moduleCalls.get? name = none := by simpa using fresh
      have brought := EntryKind.moduleCall.get?_bring_override m.moduleCalls ⟨pos, name, body⟩
      rw [show EntryKind.moduleCall.key ⟨pos, name, body⟩ = name from rfl, absent] at brought
      exact brought
  rw [declared] at found
  cases found
  rfl

theorem source_of_amended {base : ModuleCall} (held : m.moduleCalls.get? name = some base)
    (found : (m.declare .override (.moduleCall pos name body)).moduleCalls.get? name = some call) :
    call.source = if body.has "source" then givenText body "source" else base.source := by
  have brought := EntryKind.moduleCall.get?_bring_override m.moduleCalls ⟨pos, name, body⟩
  rw [show EntryKind.moduleCall.key ⟨pos, name, body⟩ = name from rfl, held] at brought
  rw [get?_declare_moduleCall, brought] at found
  cases found
  exact congrArg ModuleCall.source (EntryKind.moduleCall_amend ⟨pos, name, body⟩ base)

theorem source_of_said (said : body.has "source" = true)
    (found : (m.declare role (.moduleCall pos name body)).moduleCalls.get? name = some call) :
    call.source = givenText body "source" := by
  cases role with
  | primary => exact source_of_fresh (.inl rfl) found
  | override =>
    cases held : m.moduleCalls.get? name with
    | none => exact source_of_fresh (.inr held) found
    | some base => simpa [said] using source_of_amended held found

theorem Sourced.declare_unsaid (sourced : m.Sourced run name) (unsaid : body.get? "source" = none) :
    (m.declare role (.moduleCall pos name body)).Sourced
      (run ++ [(role, .moduleCall pos name body)]) name := by
  intro call found
  have missing : Attribute.string body "source" = .missing := by simp [Attribute.string, unsaid]
  have empty : givenText body "source" = "" := by simp [givenText, missing, Attribute.value?]
  cases role with
  | primary =>
    have sourceless := source_of_fresh (.inl rfl) found
    rw [empty] at sourceless
    exact ⟨fun _ => .inl (reportsSource_of_primary (.inl missing)), fun _ => sourceless⟩
  | override =>
    cases held : m.moduleCalls.get? name with
    | none =>
      have sourceless := source_of_fresh (.inr held) found
      rw [empty] at sourceless
      exact ⟨fun _ => .inl (reportsSource_of_orphan held empty), fun _ => sourceless⟩
    | some base =>
      -- The call keeps its source, and the block has no say in whether it is silenced.
      have kept : call.source = base.source := by
        simpa [Json.Members.has, unsaid] using source_of_amended held found
      obtain ⟨accounted, silenced⟩ := sourced base held
      rw [silencedBy_append_of_unsaid unsaid, kept]
      exact ⟨fun sourceless => (accounted sourceless).imp_left fun reported =>
        reported.declare .override _, silenced⟩

/-- A block that names the source of its call, and does not give it as the empty text. -/
theorem sourced_declare_said (said : body.has "source" = true)
    (notBlank : body.get? "source" ≠ some (.string "")) :
    (m.declare role (.moduleCall pos name body)).Sourced
      (run ++ [(role, .moduleCall pos name body)]) name := by
  intro call found
  rw [silencedBy_append_of_said (.inr said), source_of_said said found]
  rcases source_cases notBlank with ⟨unsaid, _⟩ | ⟨nulled, null⟩ | ⟨notNull, text, nonempty, given⟩ |
    ⟨_, fault, rejected⟩
  case inl => simp [Json.Members.has, unsaid] at said
  case inr.inl =>
    have empty : givenText body "source" = "" := by simp [givenText, null, Attribute.value?]
    refine ⟨fun _ => ?_, fun _ => empty⟩
    cases role with
    | primary => exact .inl (reportsSource_of_primary (.inr null))
    | override => exact .inr ⟨rfl, nulled⟩
  case inr.inr.inl =>
    have source : givenText body "source" = text := by simp [givenText, given, Attribute.value?]
    rw [source]
    exact ⟨fun empty => absurd empty nonempty, fun silenced => absurd silenced.2 notNull⟩
  case inr.inr.inr =>
    have empty : givenText body "source" = "" := by simp [givenText, rejected, Attribute.value?]
    exact ⟨fun _ => .inl (reportsSource_of_rejected rejected), fun _ => empty⟩

end

theorem Sourced.declare_other {role : FileRole} {statement : Statement}
    (sourced : m.Sourced run name)
    (other : ∀ block, statement.moduleCall? = some block → block.name ≠ name) :
    (m.declare role statement).Sourced (run ++ [(role, statement)]) name := by
  intro call found
  rw [moduleCalls_declare] at found
  have before : m.moduleCalls.get? name = some call := by
    cases called : statement.moduleCall? with
    | none => simpa [called] using found
    | some block =>
      rw [called] at found
      exact (EntryKind.moduleCall.get?_bring_ne (other block called).symm).symm.trans found
  rw [silencedBy_append_of_other other]
  obtain ⟨accounted, silenced⟩ := sourced call before
  exact ⟨fun sourceless => (accounted sourceless).imp_left fun reported =>
    reported.declare role statement, silenced⟩

theorem Sourced.declare (sourced : m.Sourced run name) (role : FileRole) (statement : Statement)
    (notBlank : ∀ block, statement.moduleCall? = some block →
      block.body.get? "source" ≠ some (.string "")) :
    (m.declare role statement).Sourced (run ++ [(role, statement)]) name := by
  cases statement with
  | moduleCall pos called body =>
    by_cases same : called = name
    · subst same
      cases unsaid : body.get? "source" with
      | none => exact sourced.declare_unsaid unsaid
      | some value =>
        exact sourced_declare_said (by simp [Json.Members.has, unsaid]) (notBlank _ rfl)
    · refine sourced.declare_other ?_
      rintro _ ⟨⟩
      exact same
  | terraform | provider | inputVariable | output | resource | malformed | noBody =>
    exact sourced.declare_other (by rintro _ ⟨⟩)

/-- The law is kept by a run that goes on from the blocks that led to the module. -/
theorem Sourced.foldl (sourced : m.Sourced run name) (later : List (FileRole × Statement))
    (notBlank : ∀ step ∈ later, ∀ block, step.2.moduleCall? = some block →
      block.body.get? "source" ≠ some (.string "")) :
    (later.foldl (fun m step => m.declare step.1 step.2) m).Sourced (run ++ later) name := by
  induction later generalizing m run with
  | nil => simpa using sourced
  | cons step later inductionHypothesis =>
    have next := sourced.declare step.1 step.2 (notBlank step (by simp))
    have rest := inductionHypothesis next fun step member =>
      notBlank step (List.mem_cons_of_mem _ member)
    simpa using rest

end Module

/-- After any sequence of files in which no body gives a call the empty text as its source, a call
without source was reported, unless the last block that speaks of its source is an override block
that says `null`; and then it has no source. -/
theorem sourceless_calls_accounted (path : String) (files : List (FileRole × ParsedFile))
    (notBlank : ∀ step ∈ runOf files, ∀ block, step.2.moduleCall? = some block →
      block.body.get? "source" ≠ some (.string "")) :
    let m := (Module.new path).decodeAll files
    ∀ name call, m.moduleCalls.get? name = some call →
      (call.source = "" → m.ReportsSource name ∨ SilencedBy (runOf files) name) ∧
      (SilencedBy (runOf files) name → call.source = "") := by
  intro m name call found
  have sourced : m.Sourced (runOf files) name := by
    unfold m
    rw [Module.decodeAll_eq_foldl]
    have start : (Module.new path).Sourced [] name := by rintro call ⟨⟩
    exact start.foldl (runOf files) notBlank
  exact sourced call found

/-- Two calls, one of them without source, and an override file that says `null` for the source of
the other one. -/
def nulledSource : List (FileRole × ParsedFile) :=
  [(.primary, ⟨"main.tf.json", .json, "", .object [
      ("module", .object [("dns", .object []), ("vpc", .object [("source", .string "./vpc")])])]⟩),
    (.override, ⟨"override.tf.json", .json, "", .object [
      ("module", .object [("vpc", .object [("source", .null)])])]⟩)]

theorem not_blank_nulledSource : ∀ step ∈ runOf nulledSource, ∀ block,
    step.2.moduleCall? = some block → block.body.get? "source" ≠ some (.string "") := by
  have run : runOf nulledSource =
      [(.primary, .moduleCall ⟨"main.tf.json", 1⟩ "dns" []),
        (.primary, .moduleCall ⟨"main.tf.json", 1⟩ "vpc" [("source", .string "./vpc")]),
        (.override, .moduleCall ⟨"override.tf.json", 1⟩ "vpc" [("source", .null)])] := rfl
  rw [run]
  simp [Statement.moduleCall?, Json.Members.get?, SortedMap.lookupEntry]

theorem nulledSource_accounted :
    (∀ step ∈ runOf nulledSource, ∀ block, step.2.moduleCall? = some block →
      block.body.get? "source" ≠ some (.string "")) ∧
    let m := (Module.new "m").decodeAll nulledSource
    m.moduleCalls.get? "dns" = some ⟨"dns", "", "", ⟨"main.tf.json", 1⟩⟩ ∧
    m.ReportsSource "dns" ∧
    m.moduleCalls.get? "vpc" = some ⟨"vpc", "", "", ⟨"main.tf.json", 1⟩⟩ ∧
    SilencedBy (runOf nulledSource) "vpc" ∧ m.diagnostics.length = 1 := by
  have law := sourceless_calls_accounted "m" nulledSource not_blank_nulledSource
  refine ⟨not_blank_nulledSource, rfl, ?_, rfl, ⟨_, rfl, rfl⟩, rfl⟩
  have silent : ¬ SilencedBy (runOf nulledSource) "dns" := by
    rintro ⟨block, last, -⟩
    cases last
  exact ((law "dns" _ rfl).1 rfl).resolve_right silent

/-- That every call without source is reported is false: the source of a call is lost to an override
block that says `null`, and nothing is reported at all. -/
theorem nulled_source_unreported :
    ¬ ∀ (path : String) (files : List (FileRole × ParsedFile)),
      (∀ step ∈ runOf files, ∀ block, step.2.moduleCall? = some block →
        block.body.get? "source" ≠ some (.string "")) →
      ∀ name call, ((Module.new path).decodeAll files).moduleCalls.get? name = some call →
        call.source = "" → ((Module.new path).decodeAll files).ReportsSource name := by
  intro reported
  have only : ((Module.new "m").decodeAll nulledSource).diagnostics =
      [(Problem.missingSource "dns").diagnostic ⟨"main.tf.json", 1⟩] := rfl
  obtain ⟨pos, missing | ⟨fault, refused⟩⟩ :=
    reported "m" nulledSource not_blank_nulledSource "vpc" _ rfl rfl
  · rw [only, List.mem_singleton] at missing
    have sameDetail : (Problem.missingSource "vpc").detail = (Problem.missingSource "dns").detail :=
      congrArg Diagnostic.detail missing
    exact absurd sameDetail (by decide)
  · rw [only, List.mem_singleton] at refused
    have sameSummary : "Invalid attribute value" = (Problem.missingSource "dns").summary :=
      congrArg Diagnostic.summary refused
    exact absurd sameSummary (by decide)

end ModuleSurvey
