import ModuleSurvey.Module.Json
import ModuleSurvey.Proofs.Json.Canonical
import ModuleSurvey.Proofs.Json.Record
import ModuleSurvey.Proofs.ProviderAliases

/-! # Modules read back from their texts

* `Module.Encodable` — the modules that a text can hold.
* `Module.dropNullDefaults` — what a text does not tell from the module: a default of `null` is
  written like none.
* `Module.ofJson_toJson` — a module is read back from its text, but for the defaults of `null`.
-/

namespace ModuleSurvey

open Json (Value Reader Members Fills ReadsAs)

variable {α β σ : Type}

/-! ## Members that may be left out -/

section Optional

variable {fields : List (Json.Field σ)} {ms : Members} {start final : σ}

theorem fills_text {name s : String} {set : String → σ → σ} (unset : set "" start = start)
    (more : Fills fields ms (set s start) final) :
    Fills (.free name Json.string set :: fields) (textMember name s ++ ms) start final := by
  unfold textMember
  split
  case isTrue empty =>
    subst empty
    exact .absent unset more
  case isFalse given => exact .free (Json.readsAs_string s) more

theorem fills_flag {name : String} {b : Bool} {set : Bool → σ → σ} (unset : set false start = start)
    (more : Fills fields ms (set b start) final) :
    Fills (.free name Json.bool set :: fields) (flagMember name b ++ ms) start final := by
  cases b with
  | true => exact .free (Json.readsAs_bool true) more
  | false => exact .absent unset more

theorem fills_list {name : String} {vs : List Value} {as : List α} {item : Reader α}
    {set : List α → σ → σ} (reads : List.Forall₂ (ReadsAs item) vs as)
    (unset : set [] start = start) (more : Fills fields ms (set as start) final) :
    Fills (.free name (Json.listOf item) set :: fields) (listMember name vs ++ ms) start final := by
  cases reads with
  | nil => exact .absent unset more
  | cons read reads => exact .free (Json.readsAs_listOf (.cons read reads)) more

theorem fills_option {name : String} {f : α → Value} {a? : Option α} {item : Reader α}
    {set : Option α → σ → σ} (reads : ∀ a ∈ a?, ReadsAs item (f a) a ∧ f a ≠ .null)
    (unset : set none start = start) (more : Fills fields ms (set a? start) final) :
    Fills (.free name (Json.nullable item) set :: fields)
      ((a?.map fun a => (name, f a)).toList ++ ms) start final := by
  cases a? with
  | none => exact .absent unset more
  | some a =>
    obtain ⟨read, given⟩ := reads a rfl
    exact .free (Json.readsAs_nullable read given) more

end Optional

/-! ## Lists and maps -/

theorem forall₂_map {f : α → Value} {item : Reader α} {as : List α}
    (reads : ∀ a ∈ as, ReadsAs item (f a) a) : List.Forall₂ (ReadsAs item) (as.map f) as :=
  List.forall₂_map_left_iff.2 (List.forall₂_same.2 reads)

theorem forall₂_strings (l : List String) :
    List.Forall₂ (ReadsAs Json.string) (l.map .string) l :=
  forall₂_map fun s _ => Json.readsAs_string s

/-- A map is read back if its values are, whatever becomes of them. -/
theorem readsAs_sortedMap {f : α → Value} {g : α → β} {item : Reader β} (m : SortedMap α)
    (reads : ∀ a ∈ m.values, ReadsAs item (f a) (g a)) :
    ReadsAs (sortedMap item) (mapValue f m) (m.map g) := by
  have entrywise : List.Forall₂ (fun m e => m.1 = e.1 ∧ ReadsAs item m.2 e.2)
      (m.entries.map fun e => (e.1, f e.2)) (m.map g).entries := by
    rw [SortedMap.entries_map, List.forall₂_map_left_iff, List.forall₂_map_right_iff,
      List.forall₂_same]
    exact fun e member => ⟨rfl, reads e.2 (List.mem_map.2 ⟨e, member, rfl⟩)⟩
  have read := (Json.readsAs_mapOf entrywise).map SortedMap.ofList
  rw [SortedMap.ofList_entries] at read
  exact read

theorem readsAs_sortedMap_self {f : α → Value} {item : Reader α} {m : SortedMap α}
    (reads : ∀ a ∈ m.values, ReadsAs item (f a) a) :
    ReadsAs (sortedMap item) (mapValue f m) m := by
  have read := readsAs_sortedMap (g := id) m reads
  have unchanged : m.map id = m := SortedMap.map_eq_self_iff.2 fun _ _ => rfl
  rw [unchanged] at read
  exact read

/-! ## Parts of a module -/

theorem readsAs_sourcePos {p : SourcePos} (small : p.line < Nat.pow 2 64) :
    ReadsAs SourcePos.reader p.toValue p := by
  refine Json.readsAs_record ?_ (by decide)
  exact .required (Json.readsAs_string p.filename) (.required (Json.readsAs_natural small) (.done _))

theorem readsAs_severity : ∀ s : Severity, ReadsAs Severity.reader s.toValue s
  | .error => Json.readsAs_variant rfl
  | .warning => Json.readsAs_variant rfl

theorem readsAs_diagnostic {d : Diagnostic} (small : ∀ p ∈ d.pos, p.line < Nat.pow 2 64) :
    ReadsAs Diagnostic.reader d.toValue d := by
  have position : ∀ p ∈ d.pos, ReadsAs SourcePos.reader p.toValue p ∧ p.toValue ≠ .null :=
    fun p given => ⟨readsAs_sourcePos (small p given), nofun⟩
  rw [Diagnostic.toValue, List.append_assoc, ← List.append_nil (Option.toList _)]
  refine Json.readsAs_record ?_ (by decide)
  refine .required (readsAs_severity d.severity) (.required (Json.readsAs_string d.summary) ?_)
  exact fills_text rfl (fills_option position rfl (.done _))

theorem readsAs_providerRef (r : ProviderRef) : ReadsAs ProviderRef.reader r.toValue r := by
  rw [ProviderRef.toValue, ← List.append_nil (textMember _ _)]
  refine Json.readsAs_record ?_ (by decide)
  exact .required (Json.readsAs_string r.name) (fills_text rfl (.done _))

theorem readsAs_providerRequirement (r : ProviderRequirement) :
    ReadsAs ProviderRequirement.reader r.toValue r := by
  have constraints := forall₂_strings r.versionConstraints
  have aliases := forall₂_map fun a (_ : a ∈ r.configurationAliases) => readsAs_providerRef a
  rw [ProviderRequirement.toValue, List.append_assoc, ← List.append_nil (listMember "aliases" _)]
  refine Json.readsAs_record ?_ (by decide)
  exact fills_text rfl (fills_list constraints rfl (fills_list aliases rfl (.done _)))

theorem readsAs_output {o : Output} (small : o.pos.line < Nat.pow 2 64) :
    ReadsAs Output.reader o.toValue o := by
  rw [Output.toValue, List.append_assoc, List.append_assoc]
  refine Json.readsAs_record ?_ (by decide)
  refine .required (Json.readsAs_string o.name) (fills_text rfl (fills_flag rfl ?_))
  exact .required (readsAs_sourcePos small) (.done _)

theorem readsAs_resourceMode : ∀ mode : ResourceMode,
    ReadsAs ResourceMode.reader (.string mode.text) mode
  | .managed => Json.readsAs_variant rfl
  | .data => Json.readsAs_variant rfl

theorem readsAs_resource {r : Resource} (small : r.pos.line < Nat.pow 2 64) :
    ReadsAs Resource.reader r.toValue r := by
  refine Json.readsAs_record ?_ (by decide)
  refine .required (readsAs_resourceMode r.mode) (.required (Json.readsAs_string r.type) ?_)
  refine .required (Json.readsAs_string r.name) (.required (readsAs_providerRef r.provider) ?_)
  exact .required (readsAs_sourcePos small) (.done _)

theorem readsAs_moduleCall {c : ModuleCall} (small : c.pos.line < Nat.pow 2 64) :
    ReadsAs ModuleCall.reader c.toValue c := by
  rw [ModuleCall.toValue, List.append_assoc]
  refine Json.readsAs_record ?_ (by decide)
  refine .required (Json.readsAs_string c.name) (.required (Json.readsAs_string c.source) ?_)
  exact fills_text rfl (.required (readsAs_sourcePos small) (.done _))

theorem readsAs_providerAliases {a : ProviderAliases} (built : a.Built) :
    ReadsAs ProviderAliases.reader a.toValue a := by
  have lists : ∀ l ∈ a.byName.values, ReadsAs (Json.listOf Json.string) (stringsValue l) l :=
    fun l _ => Json.readsAs_listOf (forall₂_strings l)
  have read := (readsAs_sortedMap_self lists).map ProviderAliases.ofMap
  rw [ProviderAliases.ofMap_byName built] at read
  exact read

/-! ## Variables -/

/-- The variable with no default in place of a default of `null`, everything else unchanged. -/
def Variable.dropNullDefault (v : Variable) : Variable :=
  { v with default := v.default.filter (· ≠ .null) }

theorem Variable.dropNullDefault_eq_self_iff {v : Variable} :
    v.dropNullDefault = v ↔ v.default ≠ some .null := by
  obtain ⟨name, type, description, default, required, sensitive, pos⟩ := v
  cases default with
  | none => simp [dropNullDefault]
  | some d => by_cases null : d = .null <;> simp [dropNullDefault, null, Option.filter]

theorem Variable.toValue_dropNullDefault (v : Variable) : v.dropNullDefault.toValue = v.toValue := by
  obtain ⟨name, type, description, default, required, sensitive, pos⟩ := v
  cases default with
  | none => rfl
  | some d => by_cases null : d = .null <;> simp [dropNullDefault, null, Option.filter, toValue]

theorem readsAs_default {default : Option Value} (reads : ∀ d ∈ default, ReadsAs Json.value d d) :
    ReadsAs (Json.nullable Json.value) (default.getD .null) (default.filter (· ≠ .null)) := by
  cases default with
  | none => exact Json.readsAs_nullable_null
  | some d =>
    by_cases null : d = .null
    · rw [null]
      exact Json.readsAs_nullable_null
    · have given : (some d).filter (· ≠ .null) = some d := by simp [Option.filter, null]
      rw [given]
      exact Json.readsAs_nullable (reads d rfl) null

theorem readsAs_variable {v : Variable} (small : v.pos.line < Nat.pow 2 64)
    (defaults : ∀ d ∈ v.default, ReadsAs Json.value d d) :
    ReadsAs Variable.reader v.toValue v.dropNullDefault := by
  have typeText : ∀ t ∈ v.type, ReadsAs Json.string (.string t) t ∧ Value.string t ≠ .null :=
    fun t _ => ⟨Json.readsAs_string t, nofun⟩
  simp only [Variable.toValue, List.append_assoc]
  refine Json.readsAs_record ?_ (by decide)
  refine .required (Json.readsAs_string v.name) (fills_option typeText rfl (fills_text rfl ?_))
  -- The default is always written, and `null` stands for none.
  refine .free (readsAs_default defaults) (.required (Json.readsAs_bool v.required) ?_)
  exact fills_flag rfl (.required (readsAs_sourcePos small) (.done _))

/-! ## Modules -/

namespace Module

def dropNullDefaults (m : Module) : Module :=
  { m with inputs := m.inputs.map Variable.dropNullDefault }

theorem dropNullDefaults_eq_self_iff {m : Module} :
    m.dropNullDefaults = m ↔ ∀ v ∈ m.inputs.values, v.default ≠ some .null := by
  have onlyInputs : m.dropNullDefaults = m ↔ m.inputs.map Variable.dropNullDefault = m.inputs := by
    constructor
    · intro same
      exact congrArg inputs same
    · intro same
      rw [dropNullDefaults, same]
  rw [onlyInputs, SortedMap.map_eq_self_iff]
  simp only [Variable.dropNullDefault_eq_self_iff]

theorem toValue_dropNullDefaults (m : Module) : m.dropNullDefaults.toValue = m.toValue := by
  have sameVariables : mapValue Variable.toValue (m.inputs.map Variable.dropNullDefault) =
      mapValue Variable.toValue m.inputs := by
    simp [mapValue, Variable.toValue_dropNullDefault]
  simp only [toValue, dropNullDefaults, sameVariables]
  rfl

def positions (m : Module) : List SourcePos :=
  m.inputs.values.map (·.pos) ++ m.outputs.values.map (·.pos)
    ++ m.managedResources.values.map (·.pos) ++ m.dataResources.values.map (·.pos)
    ++ m.moduleCalls.values.map (·.pos) ++ m.diagnostics.filterMap (·.pos)

/-- The modules that a text can hold. -/
structure Encodable (m : Module) : Prop where
  built : m.providerAliases.Built
  /-- The members of an object are always kept in the order of their names, and a number is a whole
  one of 64 bits, signed or unsigned. -/
  canonical : ∀ v ∈ m.inputs.values, ∀ d ∈ v.default, d.isCanonical = true
  /-- Lines are counted in 64 bits. -/
  lines : ∀ p ∈ m.positions, p.line < Nat.pow 2 64
  nesting : m.toValue.depth < Json.maxDepth

theorem fills_providerAliases {fields : List (Json.Field Module)} {ms : Members} {start final : Module}
    {a : ProviderAliases} (built : a.Built)
    (unset : { start with providerAliases := ∅ } = start)
    (more : Fills fields ms { start with providerAliases := a } final) :
    Fills (.free "provider_aliases" ProviderAliases.reader
        (fun x m => { m with providerAliases := x }) :: fields)
      ((if a.isEmpty then [] else [("provider_aliases", a.toValue)]) ++ ms) start final := by
  split
  case isTrue none =>
    have isNone : a = ∅ :=
      congrArg ProviderAliases.mk (SortedMap.ext_entries (List.isEmpty_iff.1 none))
    subst isNone
    exact .absent unset more
  case isFalse given => exact .free (readsAs_providerAliases built) more

theorem readsAs_module_of_defaults {m : Module} (built : m.providerAliases.Built)
    (defaults : ∀ v ∈ m.inputs.values, ∀ d ∈ v.default, ReadsAs Json.value d d)
    (lines : ∀ p ∈ m.positions, p.line < Nat.pow 2 64) :
    ReadsAs Module.reader m.toValue m.dropNullDefaults := by
  simp only [positions, List.mem_append, List.mem_map, List.mem_filterMap] at lines
  have inputs := readsAs_sortedMap (f := Variable.toValue) (g := Variable.dropNullDefault) m.inputs
    fun v member => readsAs_variable (lines v.pos (by grind)) (defaults v member)
  have outputs := readsAs_sortedMap_self (f := Output.toValue) (m := m.outputs)
    fun o member => readsAs_output (lines o.pos (by grind))
  have core := forall₂_strings m.requiredCore
  have providers := readsAs_sortedMap_self (f := ProviderRequirement.toValue)
    (m := m.requiredProviders) fun r _ => readsAs_providerRequirement r
  have managed := readsAs_sortedMap_self (f := Resource.toValue) (m := m.managedResources)
    fun r member => readsAs_resource (lines r.pos (by grind))
  have data := readsAs_sortedMap_self (f := Resource.toValue) (m := m.dataResources)
    fun r member => readsAs_resource (lines r.pos (by grind))
  have calls := readsAs_sortedMap_self (f := ModuleCall.toValue) (m := m.moduleCalls)
    fun c member => readsAs_moduleCall (lines c.pos (by grind))
  have diagnostics : List.Forall₂ (ReadsAs Diagnostic.reader)
      (m.diagnostics.map Diagnostic.toValue) m.diagnostics :=
    forall₂_map fun d member =>
      readsAs_diagnostic fun p place => lines p (by grind [Option.mem_def])
  -- The members stand in the order of the fields, and what is left out a new module does not have.
  simp only [toValue, List.append_assoc]
  rw [← List.append_nil (listMember "diagnostics" _)]
  refine Json.readsAs_record ?_ (by decide)
  refine .required (Json.readsAs_string m.path) (.free inputs (.free outputs ?_))
  refine fills_list core rfl (.free providers (fills_providerAliases built rfl ?_))
  exact .free managed (.free data (.free calls (fills_list diagnostics rfl (.done _))))

theorem readsAs_module {m : Module} (encodable : m.Encodable) :
    ReadsAs Module.reader m.toValue m.dropNullDefaults :=
  readsAs_module_of_defaults encodable.built
    (fun v member d given => Json.readsAs_value (encodable.canonical v member d given))
    encodable.lines

/-- A module is read back from its text, indented or not, as it is but for the defaults of `null`,
which are read as none. So it is read back as itself where there is no such default, both texts are
read as one module, and what is read is written as the text that it was read from. -/
theorem ofJson_toJson {m : Module} (encodable : m.Encodable) :
    (∀ pretty, ofJson (m.toJson pretty) = .ok m.dropNullDefaults) ∧
      (∀ pretty, ofJson (m.toJson pretty) = .ok m ↔
        ∀ v ∈ m.inputs.values, v.default ≠ some .null) ∧
      ofJson (m.toJson true) = ofJson (m.toJson false) ∧
      ∀ pretty d, ofJson (m.toJson pretty) = .ok d → d.toJson pretty = m.toJson pretty := by
  have reads := readsAs_module encodable
  have nesting := encodable.nesting
  -- The two ways of writing are two layouts of one value, and a layout does not matter.
  have readBack : ∀ pretty, ofJson (m.toJson pretty) = .ok m.dropNullDefaults := by
    intro pretty
    cases pretty with
    | false =>
      have text : (m.toJson false).toList = m.toValue.chars .compact 0 :=
        (String.toList_ofList).trans (Value.compactChars_eq 0 m.toValue)
      rw [ofJson, Json.decode, text]
      exact Json.decodeChars_chars reads nesting .compact
    | true =>
      have text : (m.toJson true).toList = m.toValue.chars .pretty 0 :=
        (String.toList_ofList).trans (Value.prettyChars_eq 0 m.toValue)
      rw [ofJson, Json.decode, text]
      exact Json.decodeChars_chars reads nesting .pretty
  refine ⟨readBack, ?_, ?_, ?_⟩
  · intro pretty
    rw [readBack pretty, Except.ok.injEq, dropNullDefaults_eq_self_iff]
  · rw [readBack true, readBack false]
  · intro pretty d read
    obtain rfl : m.dropNullDefaults = d := by simpa [readBack pretty] using read
    simp only [toJson, toValue_dropNullDefaults]

/-- A module with two aliases, a requirement, and two variables: the default of the one is nested
and holds the least and the greatest whole number, that of the other is `null`. -/
def withNullDefault : Module :=
  { new "größe \"1\"\n\x01" with
    inputs := .ofList [
      ("ids", (Variable.new "ids" ⟨"main.tf", 3⟩).setDefault (.object [
        ("all", .array [.number (.int (-9223372036854775808)), .number (.int 18446744073709551615)]),
        ("none", .null)])),
      ("name", (Variable.new "name" ⟨"main.tf", 9⟩).setDefault .null)]
    requiredProviders := .ofList [("aws", ⟨"hashicorp/aws", [">= 5"], [⟨"aws", "west"⟩]⟩)]
    providerAliases := (ProviderAliases.empty.add "aws" "west").add "aws" "east"
    diagnostics := [.errorAt ⟨"main.tf", 4⟩ "tab\there" ""] }

theorem withNullDefault_readBack :
    withNullDefault.Encodable ∧
      (∀ pretty, ofJson (withNullDefault.toJson pretty) = .ok withNullDefault.dropNullDefaults) ∧
      ∀ pretty, ofJson (withNullDefault.toJson pretty) ≠ .ok withNullDefault := by
  have encodable : withNullDefault.Encodable :=
    { built := (ProviderAliases.Built.empty.add "aws" "west").add "aws" "east"
      canonical := by decide
      lines := by decide
      nesting := by decide }
  obtain ⟨readBack, unchanged, _, _⟩ := ofJson_toJson encodable
  have hasNull : ¬ ∀ v ∈ withNullDefault.inputs.values, v.default ≠ some .null := by decide
  exact ⟨encodable, readBack, fun pretty same => hasNull ((unchanged pretty).1 same)⟩

end Module

end ModuleSurvey
