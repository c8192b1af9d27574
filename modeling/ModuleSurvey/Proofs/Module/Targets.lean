import ModuleSurvey.Proofs.Module.Providers

/-! # Blocks and their targets

What a block of an override file does depends on whether the entry that it is about, its target, is
there already. A block without attributes leaves a target that is there as it is, and a block whose
target is missing does what it does in a primary file and reports that the target is missing. Each
law has one exception:

* a resource block without attributes still has the provider required that its type implies, though
  the resource may have another one;
* a module call whose target is missing and whose source is empty or refused is reported as a call
  without source as well, which a primary file does not do.

The main statements are `override_without_attributes` and `override_without_target`.
-/

namespace ModuleSurvey

open Json (Members)

/-- The entry that a block declares, or amends in an override file. -/
inductive Target where
  | inputVariable (name : String)
  | output (name : String)
  | resource (mode : ResourceMode) (address : String)
  | moduleCall (name : String)
  deriving DecidableEq

namespace Target

def kind : Target → String
  | inputVariable _ => "variable"
  | output _ => "output"
  | resource mode _ => Module.resourceKind mode
  | moduleCall _ => "module call"

def name : Target → String
  | inputVariable name | output name | resource _ name | moduleCall name => name

end Target

/-- The problem of a call whose source is named, but is empty or refused. -/
def CallBody.hollowSource? (b : CallBody) (name : String) : Option Problem :=
  match b.source with
  | .given source => if source = "" then some (.missingSource name) else none
  | .rejected _ => some (.missingSource name)
  | .missing | .null => none

namespace Statement

def target? : Statement → Option Target
  | inputVariable _ name _ => some (.inputVariable name)
  | output _ name _ => some (.output name)
  | resource _ mode type name _ => some (.resource mode (Resource.addressOf mode type name))
  | moduleCall _ name _ => some (.moduleCall name)
  | terraform .. | provider .. | malformed .. | noBody _ => none

def pos : Statement → SourcePos
  | terraform pos _ | provider pos _ _ | inputVariable pos _ _ | output pos _ _
  | resource pos _ _ _ _ | moduleCall pos _ _ | malformed pos _ _ | noBody pos => pos

def body? : Statement → Option Members
  | terraform _ body | provider _ _ body | inputVariable _ _ body | output _ _ body
  | resource _ _ _ _ body | moduleCall _ _ body => some body
  | malformed .. | noBody _ => none

def impliedProvider? : Statement → Option String
  | resource _ _ type _ _ => some (impliedProvider type)
  | _ => none

def hollowSource? : Statement → Option Problem
  | moduleCall _ name body => (CallBody.read body).hollowSource? name
  | _ => none

end Statement

def Module.holds (m : Module) : Target → Bool
  | .inputVariable name => m.inputs.contains name
  | .output name => m.outputs.contains name
  | .resource mode address => (m.resourcesOf mode).contains address
  | .moduleCall name => m.moduleCalls.contains name

variable {m : Module} {statement : Statement} {target : Target}

/-! ## Bringing an entry into a map -/

namespace SortedMap

variable {α : Type} {map : SortedMap α} {key : String}

theorem declare_override_of_kept {amend : α → α} (kept : ∀ entry, amend entry = entry)
    (held : map.contains key = true) (fresh : α) :
    map.declare .override key fresh amend = (map, .amended) := by
  obtain ⟨base, found⟩ := contains_iff.1 held
  simp only [declare, found, kept, insert_of_get? found]

theorem declare_of_absent (absent : map.contains key = false) (fresh : α) (amend : α → α) :
    map.declare .primary key fresh amend = (map.insert key fresh, .added) ∧
    map.declare .override key fresh amend = (map.insert key fresh, .orphaned) := by
  have missing : map.get? key = none := by simpa [contains] using absent
  simp [declare, missing]

end SortedMap

namespace Module

@[simp] theorem complainAll_nil (m : Module) (pos : SourcePos) : m.complainAll pos [] = m := by
  simp [complainAll, reportAll]

@[simp] theorem setResourcesOf_resourcesOf (m : Module) (mode : ResourceMode) :
    m.setResourcesOf mode (m.resourcesOf mode) = m := by
  cases mode <;> rfl

theorem requireProvider_eq_self_iff {provider : String} :
    m.requireProvider provider = m ↔ m.requiredProviders.contains provider = true := by
  constructor
  · intro same
    rw [← same]
    exact SortedMap.contains_insert.2 (.inl rfl)
  · intro required
    have sameRequired : m.requiredProviders.insert provider (m.requirement provider) =
        m.requiredProviders := m.books.insert_requirement required
    simp only [requireProvider, updateRequirement, id_eq, sameRequired]

def useProvider (m : Module) (r : ProviderRef) : Module :=
  (if r.hasAlias then m.addAlias r.name r.aliasName else m).requireProvider r.name

theorem resourcesOf_useProvider (m : Module) (r : ProviderRef) (mode : ResourceMode) :
    (m.useProvider r).resourcesOf mode = m.resourcesOf mode := by
  unfold useProvider
  cases mode <;> split <;> rfl

/-- A resource block has its provider required before it is brought among the resources, and that
does not change what it finds there. -/
theorem declareResource_eq (m : Module) (role : FileRole) (pos : SourcePos) (mode : ResourceMode)
    (type name : String) (body : Members) :
    m.declareResource role pos mode type name body =
      let b := ResourceBody.read body
      let key := Resource.addressOf mode type name
      let brought := (m.resourcesOf mode).declare role key (b.declare mode type name pos)
        (b.amend type)
      ((m.useProvider (b.declare mode type name pos).provider).setResourcesOf mode brought.1).complainAll
        pos (b.problems mode type name
          ++ brought.2.problems (resourceKind mode) key Resource.pos) := by
  rw [← resourcesOf_useProvider m ((ResourceBody.read body).declare mode type name pos).provider]
  rfl

end Module

/-! ## A block without attributes -/

theorem VariableBody.amend_read_nil (base : Variable) : (read []).amend base = base := rfl

theorem OutputBody.amend_read_nil (base : Output) : (read []).amend base = base := rfl

theorem ResourceBody.amend_read_nil (type : String) (base : Resource) :
    (read []).amend type base = base := rfl

theorem CallBody.amend_read_nil (base : ModuleCall) : (read []).amend base = base := rfl

namespace Module

/-- A block without attributes amends nothing, but a resource has its implied provider required. -/
theorem declare_override_of_empty (aimed : statement.target? = some target)
    (held : m.holds target = true) (empty : statement.body? = some []) :
    m.declare .override statement = statement.impliedProvider?.elim m m.requireProvider := by
  cases statement with
  | inputVariable pos name body =>
    cases aimed
    cases empty
    simp only [declare, declareVariable]
    rw [SortedMap.declare_override_of_kept VariableBody.amend_read_nil held]
    exact complainAll_nil m pos
  | output pos name body =>
    cases aimed
    cases empty
    simp only [declare, declareOutput]
    rw [SortedMap.declare_override_of_kept OutputBody.amend_read_nil held]
    exact complainAll_nil m pos
  | resource pos mode type name body =>
    cases aimed
    cases empty
    -- The body gives no provider, so the block uses the one that its type implies.
    have implied : m.useProvider ((ResourceBody.read []).declare mode type name pos).provider =
        m.requireProvider (impliedProvider type) := rfl
    simp only [declare, declareResource_eq]
    rw [SortedMap.declare_override_of_kept (ResourceBody.amend_read_nil type) held,
      ← resourcesOf_useProvider m, setResourcesOf_resourcesOf, implied]
    exact complainAll_nil _ pos
  | moduleCall pos name body =>
    cases aimed
    cases empty
    simp only [declare, declareCall]
    rw [SortedMap.declare_override_of_kept CallBody.amend_read_nil held]
    exact complainAll_nil m pos
  | terraform | provider | malformed | noBody => cases aimed

theorem declare_override_of_empty_eq_self_iff (aimed : statement.target? = some target)
    (held : m.holds target = true) (empty : statement.body? = some []) :
    m.declare .override statement = m ↔
      ∀ provider ∈ statement.impliedProvider?, m.requiredProviders.contains provider = true := by
  rw [declare_override_of_empty aimed held empty]
  cases statement.impliedProvider? with
  | none => simp
  | some provider => simp [requireProvider_eq_self_iff]

end Module

/-! ## A block whose target is missing -/

/-- What is reported about the source of a call without target. A primary file reports a source
that the body does not give, an override file one that the call does not have. -/
theorem CallBody.problems_of_absent (b : CallBody) (name : String) (pos : SourcePos) :
    (b.problems .override name
      ++ if (b.declare name pos).source = "" then [Problem.missingSource name] else []).Perm
    (b.problems .primary name ++ (b.hollowSource? name).toList) := by
  obtain ⟨source, version⟩ := b
  cases source with
  | missing | null =>
    simp [problems, declare, hollowSource?, Attribute.value?, Attribute.problems, Attribute.fault?]
  | given source =>
    by_cases blank : source = "" <;>
      simp [problems, declare, hollowSource?, Attribute.value?, blank]
  | rejected fault => simp [problems, declare, hollowSource?, Attribute.value?]

namespace Module

/-- A block whose target is missing does the same in either role, and reports the missing target in
an override file. -/
theorem declare_of_absent (aimed : statement.target? = some target)
    (absent : m.holds target = false) :
    ∃ (after : Module) (inPrimary inOverride : List Problem),
      m.declare .primary statement = after.complainAll statement.pos inPrimary ∧
      m.declare .override statement = after.complainAll statement.pos inOverride ∧
      inOverride.Perm (inPrimary ++
        .missingBase target.kind target.name :: statement.hollowSource?.toList) := by
  cases statement with
  | inputVariable | output | resource =>
    cases aimed
    simp only [declare, declareVariable, declareOutput, declareResource_eq]
    rw [(SortedMap.declare_of_absent absent _ _).1, (SortedMap.declare_of_absent absent _ _).2]
    refine ⟨_, _, _, rfl, rfl, ?_⟩
    simp [Outcome.problems, Statement.hollowSource?, Target.kind, Target.name]
  | moduleCall pos name body =>
    cases aimed
    simp only [declare, declareCall]
    rw [(SortedMap.declare_of_absent absent _ _).1, (SortedMap.declare_of_absent absent _ _).2]
    refine ⟨_, _, _, rfl, rfl, ?_⟩
    have sources := (CallBody.read body).problems_of_absent name pos
    -- The missing target is reported last, behind what is reported about the source.
    have missingLast := sources.append_right [Problem.missingBase "module call" name]
    have reported := missingLast.trans
      ((List.perm_append_singleton _ _).trans List.perm_middle.symm)
    simpa [Outcome.problems, Target.kind, Target.name, Statement.hollowSource?] using reported
  | terraform | provider | malformed | noBody => cases aimed

theorem diagnostics_complainAll (m : Module) (pos : SourcePos) (problems : List Problem) :
    (m.complainAll pos problems).diagnostics =
      m.diagnostics ++ problems.map fun problem => problem.diagnostic pos := rfl

end Module

/-! ## The two laws -/

/-- After any sequence of files, an override block without attributes whose target is there changes
nothing, but a resource block has the provider required that its type implies. So nothing at all
changes where that provider is required already, as it is where the resource uses it. -/
theorem override_without_attributes (path : String) (files : List (FileRole × ParsedFile))
    (statement : Statement) (target : Target) (aimed : statement.target? = some target)
    (held : ((Module.new path).decodeAll files).holds target = true)
    (empty : statement.body? = some []) :
    let m := (Module.new path).decodeAll files
    m.declare .override statement = statement.impliedProvider?.elim m m.requireProvider ∧
    (m.declare .override statement = m ↔
      ∀ provider ∈ statement.impliedProvider?, m.requiredProviders.contains provider = true) ∧
    (∀ mode key r, target = .resource mode key → (m.resourcesOf mode).get? key = some r →
      statement.impliedProvider? = some r.provider.name → m.declare .override statement = m) := by
  intro m
  have unchanged := Module.declare_override_of_empty_eq_self_iff aimed held empty
  refine ⟨Module.declare_override_of_empty aimed held empty, unchanged, ?_⟩
  intro mode key r _ found implied
  refine unchanged.2 fun provider isImplied => ?_
  rw [implied] at isImplied
  cases isImplied
  exact (Module.resourcesAccounted_decodeAll path files mode key r found).1

/-- A file with a resource of a provider that its type does not imply, one of a provider that its
type implies, and a variable. -/
def foreignResource : ParsedFile where
  filename := "main.tf.json"
  format := .json
  text := ""
  body := .object [
    ("resource", .object [
      ("aws_instance", .object [("web", .object [("provider", .string "google")])]),
      ("google_sql", .object [("db", .object [])])]),
    ("variable", .object [("region", .object [])])]

theorem foreignResource_after_empty_overrides :
    let m := (Module.new "m").decodeAll [(.primary, foreignResource)]
    let pos : SourcePos := ⟨"override.tf.json", 1⟩
    m.declare .override (.inputVariable pos "region" []) = m ∧
    m.declare .override (.resource pos .managed "google_sql" "db" []) = m ∧
    m.declare .override (.resource pos .managed "aws_instance" "web" []) =
      m.requireProvider "aws" ∧
    m.declare .override (.resource pos .managed "aws_instance" "web" []) ≠ m := by
  intro m pos
  have law := override_without_attributes "m" [(.primary, foreignResource)]
  have region := law (.inputVariable pos "region" []) (.inputVariable "region") rfl rfl rfl
  have db := law (.resource pos .managed "google_sql" "db" []) (.resource .managed "google_sql.db")
    rfl rfl rfl
  have web := law (.resource pos .managed "aws_instance" "web" [])
    (.resource .managed "aws_instance.web") rfl rfl rfl
  have notRequired : m.requiredProviders.contains "aws" = false := rfl
  refine ⟨region.1, db.2.2 .managed _ _ rfl rfl rfl, web.1, fun same => ?_⟩
  exact Bool.false_ne_true (notRequired.symm.trans (web.2.1.1 same "aws" rfl))

/-- That an override block without attributes changes nothing is false: a resource block has the
provider of its type required, although the resource uses another one. -/
theorem empty_override_requires_provider :
    ¬ ∀ (path : String) (files : List (FileRole × ParsedFile)) (statement : Statement)
      (target : Target), statement.target? = some target →
      ((Module.new path).decodeAll files).holds target = true → statement.body? = some [] →
      ((Module.new path).decodeAll files).declare .override statement =
        (Module.new path).decodeAll files := by
  intro unchanged
  have same := unchanged "m" [(.primary, foreignResource)]
    (.resource ⟨"override.tf.json", 1⟩ .managed "aws_instance" "web" [])
    (.resource .managed "aws_instance.web") rfl rfl rfl
  have required : ((Module.new "m").decodeAll [(.primary, foreignResource)]).requiredProviders.contains
      "aws" = true :=
    (Module.declare_override_of_empty_eq_self_iff rfl rfl rfl).1 same "aws" rfl
  exact absurd required (by decide)

/-- An override block whose target is missing leaves the module that a primary block leaves, with
one more problem, that the target is missing. Only a module call whose source is named, but is empty
or refused, has a second one. -/
theorem override_without_target (m : Module) (statement : Statement) (target : Target)
    (aimed : statement.target? = some target) (absent : m.holds target = false) :
    let declared := m.declare .primary statement
    let orphan := m.declare .override statement
    let missing := (Problem.missingBase target.kind target.name).diagnostic statement.pos
    let hollow := statement.hollowSource?.toList.map fun problem => problem.diagnostic statement.pos
    { orphan with diagnostics := declared.diagnostics } = declared ∧
    orphan.diagnostics.Perm (declared.diagnostics ++ missing :: hollow) ∧
    (orphan.diagnostics.Perm (declared.diagnostics ++ [missing]) ↔
      statement.hollowSource? = none) := by
  intro declared orphan missing hollow
  obtain ⟨after, inPrimary, inOverride, isDeclared, isOrphan, reported⟩ :=
    Module.declare_of_absent aimed absent
  have diagnostics : orphan.diagnostics.Perm (declared.diagnostics ++ missing :: hollow) := by
    have placed := (reported.map fun problem => problem.diagnostic statement.pos).append_left
      after.diagnostics
    simp only [declared, orphan, isDeclared, isOrphan, Module.diagnostics_complainAll]
    simpa [List.map_append] using placed
  refine ⟨?_, diagnostics, ?_⟩
  · simp only [declared, orphan, isDeclared, isOrphan]
    rfl
  · constructor
    · intro single
      -- Both lists are arranged from the same problems, so they have the same length.
      have sameLength := (diagnostics.symm.trans single).length_eq
      have noHollow : hollow = [] := by simpa using sameLength
      simpa [hollow] using noHollow
    · intro notHollow
      simpa [hollow, notHollow] using diagnostics

def refusedSource : Members := [("source", .array [])]

theorem refusedSource_of_orphan :
    let pos : SourcePos := ⟨"override.tf.json", 1⟩
    let call : Statement := .moduleCall pos "vpc" refusedSource
    let missing := (Problem.missingBase "module call" "vpc").diagnostic pos
    let declared := (Module.new "m").declare .primary call
    let orphan := (Module.new "m").declare .override call
    call.target? = some (.moduleCall "vpc") ∧ (Module.new "m").holds (.moduleCall "vpc") = false ∧
    { orphan with diagnostics := declared.diagnostics } = declared ∧
    orphan.diagnostics.Perm
      (declared.diagnostics ++ [missing, (Problem.missingSource "vpc").diagnostic pos]) ∧
    ¬ orphan.diagnostics.Perm (declared.diagnostics ++ [missing]) := by
  intro pos call missing declared orphan
  obtain ⟨sameModule, problems, single⟩ :=
    override_without_target (Module.new "m") call (.moduleCall "vpc") rfl rfl
  refine ⟨rfl, rfl, sameModule, problems, fun once => ?_⟩
  cases single.1 once

/-- That a missing target is the only further problem is false: the call below is also reported as
one without source. -/
theorem orphan_call_reported_twice :
    ¬ ∀ (m : Module) (statement : Statement) (target : Target),
      statement.target? = some target → m.holds target = false →
      (m.declare .override statement).diagnostics.Perm ((m.declare .primary statement).diagnostics
        ++ [(Problem.missingBase target.kind target.name).diagnostic statement.pos]) := by
  intro single
  have once := single (Module.new "m") (.moduleCall ⟨"override.tf.json", 1⟩ "vpc" refusedSource)
    (.moduleCall "vpc") rfl rfl
  exact absurd once.length_eq (by decide)

end ModuleSurvey
