import ModuleSurvey.Native.Body
import ModuleSurvey.Proofs.Module.BlockForms
import ModuleSurvey.Proofs.Template

/-! # Expressions with and without braces

Native files give every expression as an interpolation, and JSON files may give it bare. Where a
module has a type, a provider, an alias or a truth value from an expression, it has the same from
either form: each reader takes the braces off before it does anything else.

* `Json.Members.Revalued` — one step in the value of a member.
* `Block.Below` — one step in one body, below the labels that lead to it.
* `BlockType.Interpolates` — an expression of a block put in braces.
* `BodyInterpolates`, `expressions_with_or_without_braces` — one expression of a file, and the law.
-/

namespace ModuleSurvey

open Json (Value Members)

/-! ## One member, one body -/

namespace Attribute

variable {name : String} {body other : Members}

theorem string_congr (same : body.get? name = other.get? name) :
    string body name = string other name := by
  simp only [string, same]

theorem bool_congr (same : body.get? name = other.get? name) :
    bool body name = bool other name := by
  simp only [bool, same]

end Attribute

inductive Json.Members.Revalued (name : String) (step : Value → Value → Prop) :
    Members → Members → Prop
  | member {v w : Value} (before after : Members) (changed : step v w) :
      Revalued name step (before ++ (name, v) :: after) (before ++ (name, w) :: after)

open Json.Members (Revalued)

namespace Json.Members.Revalued

variable {name : String} {step : Value → Value → Prop} {body other : Members}

theorem get?_of_ne (revalued : Revalued name step body other) (key : String)
    (different : key ≠ name) :
    body.get? key = other.get? key := by
  obtain ⟨before, after, -⟩ := revalued
  rw [get?_middle, get?_middle, if_neg different.symm, if_neg different.symm]

theorem get?_self (revalued : Revalued name step body other) :
    body.get? name = other.get? name ∨
      ∃ v w, step v w ∧ body.get? name = some v ∧ other.get? name = some w := by
  obtain ⟨before, after, changed⟩ := revalued
  simp only [get?_middle, if_pos]
  cases before.get? name with
  | some first => exact .inl rfl
  | none => exact .inr ⟨_, _, changed, rfl, rfl⟩

theorem string_of_ne (revalued : Revalued name step body other) (key : String)
    (different : key ≠ name) : Attribute.string body key = Attribute.string other key :=
  Attribute.string_congr (revalued.get?_of_ne key different)

theorem bool_of_ne (revalued : Revalued name step body other) (key : String)
    (different : key ≠ name) : Attribute.bool body key = Attribute.bool other key :=
  Attribute.bool_congr (revalued.get?_of_ne key different)

end Json.Members.Revalued

namespace Block

inductive Below (step : Members → Members → Prop) : Nat → Value → Value → Prop
  | body {ms ns : Members} (changed : step ms ns) : Below step 0 (.object ms) (.object ns)
  | label {count : Nat} {v w : Value} (before after : Members) (name : String)
      (below : Below step count v w) :
      Below step (count + 1) (.object (before ++ (name, v) :: after))
        (.object (before ++ (name, w) :: after))
  | item {count : Nat} {v w : Value} (before after : List Value) (below : Below step count v w) :
      Below step count (.array (before ++ v :: after)) (.array (before ++ w :: after))

theorem Below.map_collect {δ : Type} {f : Block → δ} {step : Members → Members → Prop}
    (unchanged : ∀ labels {ms ns : Members}, step ms ns → f ⟨labels, ms⟩ = f ⟨labels, ns⟩)
    {count : Nat} {v w : Value} (below : Below step count v w) (labels : List String) :
    (collect labels count v).map (·.map f) = (collect labels count w).map (·.map f) := by
  induction below generalizing labels with
  | body changed => simp only [collect_object_zero, Except.map, List.map_cons, unchanged labels changed]
  | label before after name _ inductionHypothesis =>
    simp only [collect_object_succ, List.map_eq_flatMap, gather_flatMap] at inductionHypothesis ⊢
    refine gather_middle ?_ before after
    exact inductionHypothesis (labels ++ [name])
  | item before after _ inductionHypothesis =>
    exact ((readsLists_collect labels _).map f).item (inductionHypothesis labels) before after

end Block

/-! ## Reading an expression -/

inductive PutsInBraces : Value → Value → Prop
  | string {s : String} (bare : IsBare s) : PutsInBraces (.string s) (.string (interpolate s))

/-- An expression of a native file stands for its text put in braces. -/
theorem PutsInBraces.interpolated {e : Native.Expr}
    (bare : IsBare (String.ofList (e.chars false 0))) :
    PutsInBraces (.string (String.ofList (e.chars false 0))) (Native.interpolated e) := by
  have written : Native.interpolated e = .string (interpolate (String.ofList (e.chars false 0))) := by
    simp only [Native.interpolated, interpolate, templateOpening, String.toList_ofList,
      List.cons_append, List.nil_append]
  exact written ▸ .string bare

inductive PutsFlagInBraces : Value → Value → Prop
  | string {s : String} (flag : s = "true" ∨ s = "false") :
      PutsFlagInBraces (.string s) (.string (interpolate s))

inductive PutsItemInBraces : Value → Value → Prop
  | item {v w : Value} (before after : List Value) (changed : PutsInBraces v w) :
      PutsItemInBraces (.array (before ++ v :: after)) (.array (before ++ w :: after))

namespace Attribute

variable {name : String} {body other : Members}

theorem map_unwrapTemplate_string (revalued : Revalued name PutsInBraces body other) :
    (string body name).map unwrapTemplate = (string other name).map unwrapTemplate := by
  rcases revalued.get?_self with same | ⟨_, _, ⟨bare⟩, found, foundOther⟩
  · rw [string_congr same]
  · simp only [string, found, foundOther, map, unwrapTemplate_of_bare bare,
      unwrapTemplate_interpolate bare]

theorem bool_eq_of_revalued (revalued : Revalued name PutsFlagInBraces body other) :
    bool body name = bool other name := by
  rcases revalued.get?_self with same | ⟨_, _, ⟨flag⟩, found, foundOther⟩
  · exact bool_congr same
  · simp only [bool, found, foundOther]
    rcases flag with rfl | rfl <;> rfl

theorem map_itemStrings_cons (s : String) (vs : List Value) :
    (itemStrings (.string s :: vs)).map (·.map unwrapTemplate) =
      ((itemStrings vs).map (·.map unwrapTemplate)).map (unwrapTemplate s :: ·) := by
  rw [itemStrings]
  cases itemStrings vs <;> rfl

theorem map_itemStrings_middle {v w : Value} (changed : PutsInBraces v w)
    (before after : List Value) :
    (itemStrings (before ++ v :: after)).map (·.map unwrapTemplate) =
      (itemStrings (before ++ w :: after)).map (·.map unwrapTemplate) := by
  obtain ⟨bare⟩ := changed
  induction before with
  | nil =>
    rw [List.nil_append, List.nil_append, map_itemStrings_cons, map_itemStrings_cons,
      unwrapTemplate_of_bare bare, unwrapTemplate_interpolate bare]
  | cons u before inductionHypothesis =>
    cases u with
    | string t =>
      rw [List.cons_append, List.cons_append, map_itemStrings_cons, map_itemStrings_cons,
        inductionHypothesis]
    | null | bool | number | array | object => rfl

theorem map_unwrapTemplate_strings_of_list {items : List Value}
    (isList : body.get? name = some (.array items)) :
    (strings body name).map (·.map unwrapTemplate) =
      match (itemStrings items).map (·.map unwrapTemplate) with
      | .ok l => given l
      | .error fault => rejected fault := by
  simp only [strings, isList]
  cases itemStrings items <;> rfl

theorem map_unwrapTemplate_strings (revalued : Revalued name PutsItemInBraces body other) :
    (strings body name).map (·.map unwrapTemplate) =
      (strings other name).map (·.map unwrapTemplate) := by
  rcases revalued.get?_self with same | ⟨_, _, ⟨before, after, changed⟩, found, foundOther⟩
  · simp only [strings, same]
  · rw [map_unwrapTemplate_strings_of_list found, map_unwrapTemplate_strings_of_list foundOther,
      map_itemStrings_middle changed]

end Attribute

/-! ## Blocks that have expressions -/

variable {body other : Members}

theorem VariableBody.read_eq_of_type (revalued : Revalued "type" PutsInBraces body other) :
    VariableBody.read body = VariableBody.read other := by
  have description := revalued.string_of_ne "description" (by decide)
  have sensitive := revalued.bool_of_ne "sensitive" (by decide)
  have default := revalued.get?_of_ne "default" (by decide)
  simp only [read, Attribute.map_unwrapTemplate_string revalued, description, sensitive, default]

theorem VariableBody.read_eq_of_sensitive
    (revalued : Revalued "sensitive" PutsFlagInBraces body other) :
    VariableBody.read body = VariableBody.read other := by
  have type := revalued.string_of_ne "type" (by decide)
  have description := revalued.string_of_ne "description" (by decide)
  have default := revalued.get?_of_ne "default" (by decide)
  simp only [read, type, description, Attribute.bool_eq_of_revalued revalued, default]

theorem OutputBody.read_eq_of_sensitive
    (revalued : Revalued "sensitive" PutsFlagInBraces body other) :
    OutputBody.read body = OutputBody.read other := by
  have description := revalued.string_of_ne "description" (by decide)
  simp only [read, description, Attribute.bool_eq_of_revalued revalued]

theorem ResourceBody.read_eq_of_provider
    (revalued : Revalued "provider" PutsInBraces body other) :
    ResourceBody.read body = ResourceBody.read other := by
  have parsed (a : Attribute String) :
      a.map (fun s => ProviderRef.parse (unwrapTemplate s)) =
        (a.map unwrapTemplate).map ProviderRef.parse := by
    cases a <;> simp only [Attribute.map]
  simp only [read, parsed, Attribute.map_unwrapTemplate_string revalued]

namespace Module

variable (m : Module) (role : FileRole) (pos : SourcePos)

theorem declareProvider_eq_of_alias (name : String)
    (revalued : Revalued "alias" PutsInBraces body other) :
    m.declareProvider role pos name body = m.declareProvider role pos name other := by
  have version := revalued.string_of_ne "version" (by decide)
  have unwrapped := Attribute.map_unwrapTemplate_string revalued
  simp only [declareProvider, version]
  -- The alias is there, missing or refused in both bodies alike.
  revert unwrapped
  cases Attribute.string body "alias" <;> cases Attribute.string other "alias" <;>
    simp +contextual [Attribute.map]

theorem addConfigurationAlias_unwrapTemplate (provider aliasName : String) :
    m.addConfigurationAlias provider (unwrapTemplate aliasName) =
      m.addConfigurationAlias provider aliasName := by
  simp only [addConfigurationAlias, unwrapTemplate_unwrapTemplate]

theorem foldl_addConfigurationAlias_congr (provider : String) {aliases others : List String}
    (same : aliases.map unwrapTemplate = others.map unwrapTemplate) :
    aliases.foldl (·.addConfigurationAlias provider ·) m =
      others.foldl (·.addConfigurationAlias provider ·) m := by
  have unwrapped (aliases : List String) :
      (aliases.map unwrapTemplate).foldl (·.addConfigurationAlias provider ·) m =
        aliases.foldl (·.addConfigurationAlias provider ·) m := by
    simp only [List.foldl_map, addConfigurationAlias_unwrapTemplate]
  rw [← unwrapped aliases, same, unwrapped others]

theorem declareRequirement_eq_of_configuration (provider : String)
    (revalued : Revalued "configuration_aliases" PutsItemInBraces body other) :
    m.declareRequirement role pos provider (.object body) =
      m.declareRequirement role pos provider (.object other) := by
  have source := revalued.string_of_ne "source" (by decide)
  have version := revalued.string_of_ne "version" (by decide)
  have unwrapped := Attribute.map_unwrapTemplate_strings revalued
  simp only [declareRequirement, source, version]
  revert unwrapped
  cases Attribute.strings body "configuration_aliases" with
  | given aliases =>
    cases Attribute.strings other "configuration_aliases" with
    | given others =>
      intro unwrapped
      exact foldl_addConfigurationAlias_congr _ provider (Attribute.given.inj unwrapped)
    | missing | null | rejected => simp [Attribute.map]
  | missing | null | rejected =>
    cases Attribute.strings other "configuration_aliases" <;> simp +contextual [Attribute.map]

def requirementsEffect (block : Block) (m : Module) : Module :=
  block.body.foldl (fun m e => m.declareRequirement role pos e.1 e.2) m

theorem declareRequirements_eq_foldl (required : Value) :
    m.declareRequirements role pos required =
      match (Block.collect [] 0 required).map (·.map (requirementsEffect role pos)) with
      | .error fault => m.complain pos (.malformedBlock "required_providers" fault.message)
      | .ok effects => effects.foldl (fun m effect => effect m) m := by
  unfold declareRequirements
  cases Block.collect [] 0 required with
  | error fault => rfl
  | ok blocks => simp only [Except.map, List.foldl_map, requirementsEffect]

end Module

inductive PutsConfigurationInBraces : Value → Value → Prop
  | object {ms ns : Members}
      (changed : Revalued "configuration_aliases" PutsItemInBraces ms ns) :
      PutsConfigurationInBraces (.object ms) (.object ns)

def PutsRequirementInBraces (ms ns : Members) : Prop :=
  ∃ provider, Revalued provider PutsConfigurationInBraces ms ns

/-- One expression of a block of a type put in braces: the type of a variable, the provider of a
resource, the alias of a provider, a configuration of a required provider, or a truth value. -/
inductive BlockType.Interpolates : BlockType → Members → Members → Prop
  | inputType {ms ns : Members} (changed : Revalued "type" PutsInBraces ms ns) :
      Interpolates .inputVariable ms ns
  | inputFlag {ms ns : Members} (changed : Revalued "sensitive" PutsFlagInBraces ms ns) :
      Interpolates .inputVariable ms ns
  | outputFlag {ms ns : Members} (changed : Revalued "sensitive" PutsFlagInBraces ms ns) :
      Interpolates .output ms ns
  | provider {ms ns : Members} (mode : ResourceMode)
      (changed : Revalued "provider" PutsInBraces ms ns) : Interpolates (.resource mode) ms ns
  | aliasName {ms ns : Members} (changed : Revalued "alias" PutsInBraces ms ns) :
      Interpolates .provider ms ns
  | configuration {ms ns : Members}
      (changed : Revalued "required_providers" (Block.Below PutsRequirementInBraces 0) ms ns) :
      Interpolates .terraform ms ns

theorem Module.declareTerraform_eq_of_configuration (m : Module) (role : FileRole) (pos : SourcePos)
    (revalued : Revalued "required_providers" (Block.Below PutsRequirementInBraces 0) body other) :
    m.declareTerraform role pos body = m.declareTerraform role pos other := by
  have core := revalued.string_of_ne "required_version" (by decide)
  unfold declareTerraform
  rw [core]
  -- The step may be behind the member that is found, and is of no concern then.
  rcases revalued.get?_self with same | ⟨v, w, below, found, foundOther⟩
  · rw [same]
  · have sameEffects := below.map_collect (f := requirementsEffect role pos) ?_ []
    · simp only [found, foundOther, declareRequirements_eq_foldl, sameEffects]
    · rintro labels ms ns ⟨provider, before, after, ⟨changed⟩⟩
      funext m
      simp only [requirementsEffect, List.foldl_append, List.foldl_cons,
        declareRequirement_eq_of_configuration _ role pos provider changed]

/-- A block does the same with and without braces around an expression. -/
theorem BlockType.Interpolates.effectAs_eq {type : BlockType} {ms ns : Members}
    (step : type.Interpolates ms ns) (labels : List String) :
    Block.effectAs type ⟨labels, ms⟩ = Block.effectAs type ⟨labels, ns⟩ := by
  refine Prod.ext rfl (funext fun m => funext fun role => funext fun pos => ?_)
  -- With more or fewer labels than its type has, a block does nothing at all.
  cases step with
  | inputType changed =>
    have sameBody := VariableBody.read_eq_of_type changed
    rcases labels with _ | ⟨name, _ | _⟩ <;>
      simp [Block.effectAs, Statement.ofBlock?, Module.declare, Module.declareVariable, sameBody]
  | inputFlag changed =>
    have sameBody := VariableBody.read_eq_of_sensitive changed
    rcases labels with _ | ⟨name, _ | _⟩ <;>
      simp [Block.effectAs, Statement.ofBlock?, Module.declare, Module.declareVariable, sameBody]
  | outputFlag changed =>
    have sameBody := OutputBody.read_eq_of_sensitive changed
    rcases labels with _ | ⟨name, _ | _⟩ <;>
      simp [Block.effectAs, Statement.ofBlock?, Module.declare, Module.declareOutput, sameBody]
  | provider mode changed =>
    have sameBody := ResourceBody.read_eq_of_provider changed
    rcases labels with _ | ⟨type, _ | ⟨name, _ | _⟩⟩ <;>
      simp [Block.effectAs, Statement.ofBlock?, Module.declare, Module.declareResource, sameBody]
  | aliasName changed =>
    rcases labels with _ | ⟨name, _ | _⟩ <;>
      simp [Block.effectAs, Statement.ofBlock?, Module.declare,
        Module.declareProvider_eq_of_alias m role pos _ changed]
  | configuration changed =>
    rcases labels with _ | _ <;>
      simp [Block.effectAs, Statement.ofBlock?, Module.declare,
        Module.declareTerraform_eq_of_configuration m role pos changed]

/-! ## Files -/

inductive BodyInterpolates : Value → Value → Prop
  | block {ms ns : Members} (type : BlockType)
      (changed : Revalued type.word (Block.Below type.Interpolates type.labelCount) ms ns) :
      BodyInterpolates (.object ms) (.object ns)

theorem Module.decode_eq_of_interpolates {body other : Value} (step : BodyInterpolates body other)
    (m : Module) (role : FileRole) (index : BlockIndex) :
    m.decode role index body = m.decode role index other := by
  obtain ⟨type, before, after, below⟩ := step
  have sameEffects := below.map_collect (f := Block.effectAs type)
    (fun labels _ _ changed => changed.effectAs_eq labels) []
  exact decode_eq_of_interchangeable (Statement.interchangeable_of_effects sameEffects) before after
    m role index

/-- However many expressions of a body are put in braces, or taken out of them, it does the same to
every module, in either role, with the same look-ups. -/
theorem expressions_with_or_without_braces (m : Module) (role : FileRole) (index : BlockIndex)
    (body other : Value) (rewritten : Relation.EqvGen BodyInterpolates body other) :
    m.decode role index body = m.decode role index other :=
  Module.decode_eq_of_eqvGen (fun _ _ step => Module.decode_eq_of_interpolates step m role index)
    rewritten

/-- A file with all kinds of expressions: `braced` says how a word is written. -/
def expressionFile (braced : String → String) : Value :=
  .object [
    ("terraform", .object [("required_providers", .object [("aws", .object [
      ("source", .string "hashicorp/aws"),
      ("configuration_aliases", .array [.string (braced "aws.east")])])])]),
    ("provider", .array [.object [("aws", .object [("alias", .string (braced "west"))])]]),
    ("variable", .object [("region", .object [
      ("type", .string (braced "string")), ("sensitive", .string (braced "true"))])]),
    ("output", .object [("id", .object [("sensitive", .string (braced "false"))])]),
    ("data", .object [("aws_ami", .object [("web", .object [
      ("provider", .string (braced "aws.west"))])])])]

theorem expressionFile_interpolated :
    Relation.EqvGen BodyInterpolates (expressionFile id) (expressionFile interpolate) ∧
    let index := BlockIndex.scan "main.tf.json" .json ""
    let m := (Module.new "m").decode .primary index (expressionFile id)
    (Module.new "m").decode .primary index (expressionFile interpolate) = m ∧
    m.providerAliases.toList = [("aws", ["east", "west"])] ∧
    m.inputs.entries.map (fun e => (e.2.type, e.2.sensitive)) = [(some "string", true)] ∧
    m.outputs.entries.map (·.2.sensitive) = [false] ∧
    m.dataResources.entries.map (·.2.provider) = [⟨"aws", "west"⟩] ∧ m.diagnostics = [] := by
  have rewritten : Relation.EqvGen BodyInterpolates
      (expressionFile id) (expressionFile interpolate) := by
    have configuration : PutsInBraces (.string "aws.east") (.string (interpolate "aws.east")) :=
      .string ⟨by decide, by decide⟩
    have aliasName : PutsInBraces (.string "west") (.string (interpolate "west")) :=
      .string ⟨by decide, by decide⟩
    have type : PutsInBraces (.string "string") (.string (interpolate "string")) :=
      .string ⟨by decide, by decide⟩
    -- As a native file has it.
    have provider : PutsInBraces (.string "aws.west") (.string (interpolate "aws.west")) :=
      .interpolated (e := .access (.name "aws") (.attribute "west")) ⟨by decide, by decide⟩
    refine .trans _ _ _ (.rel _ _ (.block .terraform (.member [] _ (.body (.configuration
      (.member [] [] (.body ⟨"aws", .member [] [] (.object (.member [_] []
        (.item [] [] configuration)))⟩))))))) ?_
    refine .trans _ _ _ (.rel _ _ (.block .provider (.member [_] _ (.item [] [] (.label [] [] "aws"
      (.body (.aliasName (.member [] [] aliasName)))))))) ?_
    refine .trans _ _ _ (.rel _ _ (.block .inputVariable (.member [_, _] _ (.label [] [] "region"
      (.body (.inputType (.member [] [_] type))))))) ?_
    refine .trans _ _ _ (.rel _ _ (.block .inputVariable (.member [_, _] _ (.label [] [] "region"
      (.body (.inputFlag (.member [_] [] (.string (.inl rfl))))))))) ?_
    refine .trans _ _ _ (.rel _ _ (.block .output (.member [_, _, _] _ (.label [] [] "id"
      (.body (.outputFlag (.member [] [] (.string (.inr rfl))))))))) ?_
    exact .rel _ _ (.block (.resource .data) (.member [_, _, _, _] [] (.label [] [] "aws_ami"
      (.label [] [] "web" (.body (.provider .data (.member [] [] provider)))))))
  have same := expressions_with_or_without_braces (Module.new "m") .primary
    (BlockIndex.scan "main.tf.json" .json "") _ _ rewritten
  refine ⟨rewritten, same.symm, ?_⟩
  decide +kernel

end ModuleSurvey
