import ModuleSurvey.Proofs.Module.Amendment

/-! # Attributes without a value

A body may name an attribute and still give it no value: the value is `null`, or it is of a wrong
kind and is refused. In an override file such an attribute is not passed over. It takes away what
the earlier blocks said and leaves what an entry has that never had the attribute.

* `Attribute.isVoid` — named, and without a value.
* `VoidRule` — what a void attribute leaves, and exactly when that is what stood there before.
* `override_void_attributes` — the rule holds of every attribute of every kind of entry.
-/

namespace ModuleSurvey

open Json (Value Members)

namespace Attribute

variable {α : Type}

/-- Whether a body names an attribute and gives no value for it. -/
def isVoid (a : Attribute α) : Bool := a.isNamed && a.value?.isNone

end Attribute

/-- What a void attribute makes of the value `before`: it leaves the value `absent`, so that the
value is kept iff it was `absent` all along. A refused attribute is reported in `m`. -/
def VoidRule {α β : Type} (m : Module) (pos : SourcePos) (context name : String)
    (a : Attribute α) (absent before after : β) : Prop :=
  (a.isVoid = true → after = absent ∧ (after = before ↔ before = absent)) ∧
  ∀ fault, a = .rejected fault →
    (Problem.invalidAttribute context name fault).diagnostic pos ∈ m.diagnostics

theorem voidRule_of {α β : Type} {m : Module} {pos : SourcePos} {context name : String}
    {a : Attribute α} {absent before after : β} (given : β)
    (amended : after = if a.isNamed then given else before)
    (void : a.value? = none → given = absent)
    (reported : ∀ problem ∈ a.problems context name, problem.diagnostic pos ∈ m.diagnostics) :
    VoidRule m pos context name a absent before after := by
  refine ⟨fun isVoid => ?_, ?_⟩
  · -- The attribute is named, so the new value is the given one, and there is none to give.
    simp only [Attribute.isVoid, Bool.and_eq_true, Option.isNone_iff_eq_none] at isVoid
    have wiped : after = absent := by rw [amended, if_pos isVoid.1, void isVoid.2]
    refine ⟨wiped, ?_⟩
    rw [wiped]
    exact eq_comm
  · rintro fault rfl
    exact reported _ (by simp [Attribute.problems, Attribute.fault?])

theorem Attribute.problems_map {α β : Type} (f : α → β) (a : Attribute α) (context name : String) :
    (a.map f).problems context name = a.problems context name := by
  cases a <;> rfl

/-! ## The entry after a block -/

namespace EntryKind

theorem get?_bring_override_of_some {β α : Type} {kind : EntryKind β α} {map : SortedMap α}
    {block : β} {base : α} (found : map.get? (kind.key block) = some base) :
    (kind.bring .override map block).get? (kind.key block) = some (kind.amend block base) := by
  rw [get?_bring_override, found]
  rfl

end EntryKind

theorem Module.mem_diagnostics_complainAll {m : Module} {pos : SourcePos} {problems : List Problem}
    {problem : Problem} (member : problem ∈ problems) :
    problem.diagnostic pos ∈ (m.complainAll pos problems).diagnostics :=
  List.mem_append_right _ (List.mem_map_of_mem member)

/-! ## The rule for each kind -/

namespace Module

variable {m : Module} {pos : SourcePos} {name : String} {body : Members}

def VoidRuleForVariable (m : Module) (pos : SourcePos) (name : String) (body : Members)
    (base : Variable) : Prop :=
  let after := m.declare .override (.inputVariable pos name body)
  let context := "variable \"" ++ name ++ "\""
  ∃ v, after.inputs.get? name = some v ∧
    VoidRule after pos context "type" (.string body "type") none base.type v.type ∧
    VoidRule after pos context "description" (.string body "description") ""
      base.description v.description ∧
    VoidRule after pos context "sensitive" (.bool body "sensitive") false
      base.sensitive v.sensitive

def VoidRuleForOutput (m : Module) (pos : SourcePos) (name : String) (body : Members)
    (base : Output) : Prop :=
  let after := m.declare .override (.output pos name body)
  let context := "output \"" ++ name ++ "\""
  ∃ o, after.outputs.get? name = some o ∧
    VoidRule after pos context "description" (.string body "description") ""
      base.description o.description ∧
    VoidRule after pos context "sensitive" (.bool body "sensitive") false
      base.sensitive o.sensitive

/-- The rule for a `resource` or `data` block of an override file and the resource that it
amends. A void provider leaves the one that the block's type implies. -/
def VoidRuleForResource (m : Module) (pos : SourcePos) (mode : ResourceMode) (type name : String)
    (body : Members) (base : Resource) : Prop :=
  let after := m.declare .override (.resource pos mode type name body)
  let context := (BlockType.resource mode).word ++ " \"" ++ type ++ "\" \"" ++ name ++ "\""
  ∃ r, (after.resourcesOf mode).get? (Resource.addressOf mode type name) = some r ∧
    VoidRule after pos context "provider" (.string body "provider")
      (.plain (impliedProvider type)) base.provider r.provider

def VoidRuleForCall (m : Module) (pos : SourcePos) (name : String) (body : Members)
    (base : ModuleCall) : Prop :=
  let after := m.declare .override (.moduleCall pos name body)
  let context := "module \"" ++ name ++ "\""
  ∃ c, after.moduleCalls.get? name = some c ∧
    VoidRule after pos context "source" (.string body "source") "" base.source c.source ∧
    VoidRule after pos context "version" (.string body "version") "" base.version c.version

theorem voidRule_inputVariable {base : Variable} (found : m.inputs.get? name = some base) :
    m.VoidRuleForVariable pos name body base := by
  unfold VoidRuleForVariable
  intro after context
  let block : NamedBlock := ⟨pos, name, body⟩
  have reported : ∀ problem ∈ (VariableBody.read body).problems name,
      problem.diagnostic pos ∈ after.diagnostics :=
    fun problem member => mem_diagnostics_complainAll (List.mem_append_left _ member)
  simp only [VariableBody.problems, VariableBody.read, Attribute.problems_map, List.mem_append]
    at reported
  refine ⟨EntryKind.inputVariable.amend block base, ?_, ?_, ?_, ?_⟩
  · rw [inputs_declare]
    exact EntryKind.get?_bring_override_of_some found
  · refine voidRule_of (givenType body) ?_ (fun void => by simp [givenType, void])
      fun problem member => reported problem (.inl (.inl member))
    rw [EntryKind.inputVariable_amend, Attribute.isNamed_string]
  · refine voidRule_of (givenText body "description") ?_
      (fun void => by simp [givenText, void])
      fun problem member => reported problem (.inl (.inr member))
    rw [EntryKind.inputVariable_amend, Attribute.isNamed_string]
  · refine voidRule_of (givenFlag body "sensitive") ?_
      (fun void => by simp [givenFlag, void]) fun problem member => reported problem (.inr member)
    rw [EntryKind.inputVariable_amend, Attribute.isNamed_bool]

theorem voidRule_output {base : Output} (found : m.outputs.get? name = some base) :
    m.VoidRuleForOutput pos name body base := by
  unfold VoidRuleForOutput
  intro after context
  let block : NamedBlock := ⟨pos, name, body⟩
  have reported : ∀ problem ∈ (OutputBody.read body).problems name,
      problem.diagnostic pos ∈ after.diagnostics :=
    fun problem member => mem_diagnostics_complainAll (List.mem_append_left _ member)
  simp only [OutputBody.problems, OutputBody.read, List.mem_append] at reported
  refine ⟨EntryKind.output.amend block base, ?_, ?_, ?_⟩
  · rw [outputs_declare]
    exact EntryKind.get?_bring_override_of_some found
  · refine voidRule_of (givenText body "description") ?_
      (fun void => by simp [givenText, void]) fun problem member => reported problem (.inl member)
    rw [EntryKind.output_amend, Attribute.isNamed_string]
  · refine voidRule_of (givenFlag body "sensitive") ?_
      (fun void => by simp [givenFlag, void]) fun problem member => reported problem (.inr member)
    rw [EntryKind.output_amend, Attribute.isNamed_bool]

theorem voidRule_resource {mode : ResourceMode} {type : String} {base : Resource}
    (found : (m.resourcesOf mode).get? (Resource.addressOf mode type name) = some base) :
    m.VoidRuleForResource pos mode type name body base := by
  unfold VoidRuleForResource
  intro after context
  let block : ResourceBlock := ⟨pos, type, name, body⟩
  have reported : ∀ problem ∈ (ResourceBody.read body).problems mode type name,
      problem.diagnostic pos ∈ after.diagnostics :=
    fun problem member => mem_diagnostics_complainAll (List.mem_append_left _ member)
  simp only [ResourceBody.problems, ResourceBody.read, Attribute.problems_map] at reported
  refine ⟨(EntryKind.resource mode).amend block base, ?_, ?_⟩
  · rw [resourcesOf_declare, Statement.resource?, if_pos rfl]
    exact EntryKind.get?_bring_override_of_some found
  · refine voidRule_of (givenProvider type body) ?_
      (fun void => by simp [givenProvider, void]) reported
    rw [EntryKind.resource_amend, Attribute.isNamed_string]

theorem voidRule_moduleCall {base : ModuleCall} (found : m.moduleCalls.get? name = some base) :
    m.VoidRuleForCall pos name body base := by
  unfold VoidRuleForCall
  intro after context
  let block : NamedBlock := ⟨pos, name, body⟩
  have reported : ∀ problem ∈ (CallBody.read body).problems .override name,
      problem.diagnostic pos ∈ after.diagnostics := fun problem member =>
    mem_diagnostics_complainAll (List.mem_append_left _ (List.mem_append_left _ member))
  simp only [CallBody.problems, CallBody.read, List.mem_append] at reported
  refine ⟨EntryKind.moduleCall.amend block base, ?_, ?_, ?_⟩
  · rw [moduleCalls_declare]
    exact EntryKind.get?_bring_override_of_some found
  · refine voidRule_of (givenText body "source") ?_
      (fun void => by simp [givenText, void]) fun problem member => reported problem (.inl member)
    rw [EntryKind.moduleCall_amend, Attribute.isNamed_string]
  · refine voidRule_of (givenText body "version") ?_
      (fun void => by simp [givenText, void]) fun problem member => reported problem (.inr member)
    rw [EntryKind.moduleCall_amend, Attribute.isNamed_string]

end Module

/-- An override block whose target is there follows the rule in every attribute, whatever files
were brought into the module before. -/
theorem override_void_attributes (m : Module) (pos : SourcePos) (name : String) (body : Members) :
    (∀ base, m.inputs.get? name = some base → m.VoidRuleForVariable pos name body base) ∧
    (∀ base, m.outputs.get? name = some base → m.VoidRuleForOutput pos name body base) ∧
    (∀ mode type base, (m.resourcesOf mode).get? (Resource.addressOf mode type name) = some base →
      m.VoidRuleForResource pos mode type name body base) ∧
    (∀ base, m.moduleCalls.get? name = some base → m.VoidRuleForCall pos name body base) :=
  ⟨fun _ found => Module.voidRule_inputVariable found, fun _ found => Module.voidRule_output found,
    fun _ _ _ found => Module.voidRule_resource found,
    fun _ found => Module.voidRule_moduleCall found⟩

def fullyDeclared : Module :=
  let body : Value := .object [
    ("module", .object [("n", .object [("source", .string "./n"), ("version", .string "1.0")])]),
    ("output", .object [("n", .object [("description", .string "d"), ("sensitive", .bool true)])]),
    ("resource", .object [("aws_vpc", .object [("n", .object [("provider", .string "aws.west")])])]),
    ("variable", .object [("n", .object [("description", .string "d"), ("sensitive", .bool true),
      ("type", .string "string")])])]
  (Module.new "m").decodeAll [(.primary, ⟨"main.tf.json", .json, "", body⟩)]

def voidBody : Members :=
  [("description", .null), ("provider", .array []), ("sensitive", .string "maybe"),
    ("source", .null), ("type", .object []), ("version", .array [])]

theorem voidBody_wipes_fullyDeclared :
    let pos : SourcePos := ⟨"override.tf.json", 1⟩
    let place : SourcePos := ⟨"main.tf.json", 1⟩
    (fullyDeclared.inputs.get? "n" = some ⟨"n", some "string", "d", none, true, true, place⟩ ∧
      ∃ v, (fullyDeclared.declare .override (.inputVariable pos "n" voidBody)).inputs.get? "n" =
        some v ∧ v.type = none ∧ v.description = "" ∧ v.sensitive = false) ∧
    (fullyDeclared.outputs.get? "n" = some ⟨"n", "d", true, place⟩ ∧
      ∃ o, (fullyDeclared.declare .override (.output pos "n" voidBody)).outputs.get? "n" =
        some o ∧ o.description = "" ∧ o.sensitive = false) ∧
    (fullyDeclared.managedResources.get? "aws_vpc.n" =
        some ⟨.managed, "aws_vpc", "n", ⟨"aws", "west"⟩, place⟩ ∧
      ∃ r, (fullyDeclared.declare .override
        (.resource pos .managed "aws_vpc" "n" voidBody)).managedResources.get? "aws_vpc.n" =
        some r ∧ r.provider = ⟨"aws", ""⟩) ∧
    (fullyDeclared.moduleCalls.get? "n" = some ⟨"n", "./n", "1.0", place⟩ ∧
      ∃ c, (fullyDeclared.declare .override (.moduleCall pos "n" voidBody)).moduleCalls.get? "n" =
        some c ∧ c.source = "" ∧ c.version = "") := by
  intro pos place
  have rules := override_void_attributes fullyDeclared pos "n" voidBody
  refine ⟨⟨rfl, ?_⟩, ⟨rfl, ?_⟩, ⟨rfl, ?_⟩, ⟨rfl, ?_⟩⟩
  · obtain ⟨v, found, type, description, sensitive⟩ := rules.1 _ rfl
    exact ⟨v, found, (type.1 rfl).1, (description.1 rfl).1, (sensitive.1 rfl).1⟩
  · obtain ⟨o, found, description, sensitive⟩ := rules.2.1 _ rfl
    exact ⟨o, found, (description.1 rfl).1, (sensitive.1 rfl).1⟩
  · obtain ⟨r, found, provider⟩ := rules.2.2.1 .managed "aws_vpc" _ rfl
    exact ⟨r, found, (provider.1 rfl).1⟩
  · obtain ⟨c, found, source, version⟩ := rules.2.2.2 _ rfl
    exact ⟨c, found, (source.1 rfl).1, (version.1 rfl).1⟩

/-- That a void attribute keeps what stood before is false: the description of a variable that a
primary file declares is lost to an override block with the description `null`. -/
theorem void_description_not_kept :
    ¬ ∀ (path : String) (files : List (FileRole × ParsedFile)) (pos : SourcePos) (name : String)
      (body : Members) (base : Variable),
      ((Module.new path).decodeAll files).inputs.get? name = some base →
      (Attribute.string body "description").isVoid = true →
      ∃ v, (((Module.new path).decodeAll files).declare .override
        (.inputVariable pos name body)).inputs.get? name = some v ∧
        v.description = base.description := by
  intro kept
  let declared : Value := .object [
    ("variable", .object [("region", .object [("description", .string "where")])])]
  obtain ⟨v, found, same⟩ := kept "m" [(.primary, ⟨"main.tf.json", .json, "", declared⟩)]
    ⟨"override.tf.json", 1⟩ "region" [("description", .null)]
    ⟨"region", none, "where", none, true, false, ⟨"main.tf.json", 1⟩⟩ rfl rfl
  cases found
  exact absurd same (by decide)

end ModuleSurvey
