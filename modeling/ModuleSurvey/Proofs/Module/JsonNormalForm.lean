import ModuleSurvey.Proofs.AliasHistory
import ModuleSurvey.Proofs.Json.Yields
import ModuleSurvey.Proofs.Module.JsonRoundTrip

/-! # Texts in normal form

There are many texts for a module: members may be left out, come twice, in any order or with others
that are not known, and a record may be written as a list. Whatever the text is, the module that is
read has no list of aliases that is empty or holds one twice and no default of `null`, and writing it
gives a text that is read as the same module and written as the same text again.

* `Module.IsRead`, `gives_module` — what is known of a module that was read.
* `Module.depth_toValue_le` — how deep its text is nested.
* `decoded_module_normal` — reading and writing once is enough.
-/

namespace ModuleSurvey

open Json (Value Reader Gives Yields Number gives_record gives_true keeps_required keeps_free)

variable {α : Type}

/-! ## Parts of a module -/

theorem gives_sortedMap {item : Reader α} {P : Nat → α → Prop} (gives : Gives item P) :
    Gives (sortedMap item) fun depth m => ∀ a ∈ m.values, P (depth - 1) a := by
  refine (Json.gives_mapOf gives).map fun depth entries holds a member => ?_
  obtain ⟨entry, isEntry, rfl⟩ := List.mem_map.1 member
  exact holds entry (SortedMap.mem_of_mem_ofList isEntry)

def SourcePos.IsRead (p : SourcePos) : Prop := p.line < Nat.pow 2 64

theorem SourcePos.isRead_start : (⟨"", 0⟩ : SourcePos).IsRead := Nat.two_pow_pos 64

theorem gives_sourcePos : Gives SourcePos.reader fun _ p => p.IsRead := by
  refine gives_record (fun _ => SourcePos.IsRead) ?_ (fun _ => SourcePos.isRead_start)
  simp only [List.forall_mem_cons]
  exact ⟨keeps_required (gives_true _) fun _ _ _ _ small => small,
    keeps_required Json.gives_natural fun _ _ _ small _ => small, nofun⟩

theorem gives_diagnostic : Gives Diagnostic.reader fun _ d => ∀ p ∈ d.pos, p.IsRead := by
  refine gives_record (fun _ (d : Diagnostic) => ∀ p ∈ d.pos, p.IsRead) ?_ (fun _ => nofun)
  simp only [List.forall_mem_cons]
  exact ⟨keeps_required (gives_true _) fun _ _ _ _ small => small,
    keeps_required (gives_true _) fun _ _ _ _ small => small,
    keeps_free (gives_true _) fun _ _ _ _ small => small,
    keeps_free (Json.gives_nullable gives_sourcePos) fun _ _ _ small _ => small, nofun⟩

theorem gives_output : Gives Output.reader fun _ o => o.pos.IsRead := by
  refine gives_record (fun _ (o : Output) => o.pos.IsRead) ?_ (fun _ => SourcePos.isRead_start)
  simp only [List.forall_mem_cons]
  exact ⟨keeps_required (gives_true _) fun _ _ _ _ small => small,
    keeps_free (gives_true _) fun _ _ _ _ small => small,
    keeps_free (gives_true _) fun _ _ _ _ small => small,
    keeps_required gives_sourcePos fun _ _ _ small _ => small, nofun⟩

theorem gives_resource : Gives Resource.reader fun _ r => r.pos.IsRead := by
  refine gives_record (fun _ (r : Resource) => r.pos.IsRead) ?_ (fun _ => SourcePos.isRead_start)
  simp only [List.forall_mem_cons]
  exact ⟨keeps_required (gives_true _) fun _ _ _ _ small => small,
    keeps_required (gives_true _) fun _ _ _ _ small => small,
    keeps_required (gives_true _) fun _ _ _ _ small => small,
    keeps_required (gives_true _) fun _ _ _ _ small => small,
    keeps_required gives_sourcePos fun _ _ _ small _ => small, nofun⟩

theorem gives_moduleCall : Gives ModuleCall.reader fun _ c => c.pos.IsRead := by
  refine gives_record (fun _ (c : ModuleCall) => c.pos.IsRead) ?_ (fun _ => SourcePos.isRead_start)
  simp only [List.forall_mem_cons]
  exact ⟨keeps_required (gives_true _) fun _ _ _ _ small => small,
    keeps_required (gives_true _) fun _ _ _ _ small => small,
    keeps_free (gives_true _) fun _ _ _ _ small => small,
    keeps_required gives_sourcePos fun _ _ _ small _ => small, nofun⟩

theorem gives_providerAliases : Gives ProviderAliases.reader fun _ a => a.Built :=
  (gives_true _).map fun _ m _ => ProviderAliases.Built.ofMap m

/-- What is known of a variable that was read: a default of `null` is read as none. -/
structure Variable.IsRead (depth : Nat) (v : Variable) : Prop where
  pos : v.pos.IsRead
  default : ∀ d ∈ v.default, d.IsRead depth ∧ d ≠ .null

theorem gives_variable : Gives Variable.reader fun depth v => v.IsRead (depth - 1) := by
  refine gives_record Variable.IsRead ?_ (fun _ => ⟨SourcePos.isRead_start, nofun⟩)
  simp only [List.forall_mem_cons]
  exact ⟨keeps_required (gives_true _) fun _ _ _ _ isRead => { isRead with },
    keeps_free (gives_true _) fun _ _ _ _ isRead => { isRead with },
    keeps_free (gives_true _) fun _ _ _ _ isRead => { isRead with },
    keeps_free Json.gives_nullable_value fun _ _ _ holds isRead => { isRead with default := holds },
    keeps_required (gives_true _) fun _ _ _ _ isRead => { isRead with },
    keeps_free (gives_true _) fun _ _ _ _ isRead => { isRead with },
    keeps_required gives_sourcePos fun _ _ _ small isRead => { isRead with pos := small }, nofun⟩

/-! ## Modules -/

structure Module.IsRead (depth : Nat) (m : Module) : Prop where
  built : m.providerAliases.Built
  inputs : ∀ v ∈ m.inputs.values, v.IsRead (depth - 1 - 1)
  outputs : ∀ o ∈ m.outputs.values, o.pos.IsRead
  managedResources : ∀ r ∈ m.managedResources.values, r.pos.IsRead
  dataResources : ∀ r ∈ m.dataResources.values, r.pos.IsRead
  moduleCalls : ∀ c ∈ m.moduleCalls.values, c.pos.IsRead
  diagnostics : ∀ d ∈ m.diagnostics, ∀ p ∈ d.pos, p.IsRead

theorem gives_module : Gives Module.reader fun depth m => m.IsRead (depth - 1) := by
  refine gives_record Module.IsRead ?_
    (fun _ => ⟨.empty, nofun, nofun, nofun, nofun, nofun, nofun⟩)
  simp only [List.forall_mem_cons]
  exact ⟨keeps_required (gives_true _) fun _ _ _ _ isRead => { isRead with },
    keeps_free (gives_sortedMap gives_variable)
      fun _ _ _ holds isRead => { isRead with inputs := holds },
    keeps_free (gives_sortedMap gives_output)
      fun _ _ _ holds isRead => { isRead with outputs := holds },
    keeps_free (gives_true _) fun _ _ _ _ isRead => { isRead with },
    keeps_free (gives_true _) fun _ _ _ _ isRead => { isRead with },
    keeps_free gives_providerAliases fun _ _ _ holds isRead => { isRead with built := holds },
    keeps_free (gives_sortedMap gives_resource)
      fun _ _ _ holds isRead => { isRead with managedResources := holds },
    keeps_free (gives_sortedMap gives_resource)
      fun _ _ _ holds isRead => { isRead with dataResources := holds },
    keeps_free (gives_sortedMap gives_moduleCall)
      fun _ _ _ holds isRead => { isRead with moduleCalls := holds },
    keeps_free (Json.gives_listOf gives_diagnostic)
      fun _ _ _ holds isRead => { isRead with diagnostics := holds }, nofun⟩

namespace Module

theorem IsRead.lines {depth : Nat} {m : Module} (isRead : m.IsRead depth) :
    ∀ p ∈ m.positions, p.line < Nat.pow 2 64 := by
  simp only [positions, List.mem_append, List.mem_map, List.mem_filterMap]
  rintro p (((((⟨v, member, rfl⟩ | ⟨o, member, rfl⟩) | ⟨r, member, rfl⟩) | ⟨r, member, rfl⟩) |
    ⟨c, member, rfl⟩) | ⟨d, member, place⟩)
  · exact (isRead.inputs v member).pos
  · exact isRead.outputs o member
  · exact isRead.managedResources r member
  · exact isRead.dataResources r member
  · exact isRead.moduleCalls c member
  · exact isRead.diagnostics d member p place

end Module

/-! ## How deep a text is nested -/

section Depth

open Json.Value (depth depthItems depthMembers depthItems_le depthMembers_le)

@[simp] theorem depthMembers_append (first more : Json.Members) :
    depthMembers (first ++ more) = max (depthMembers first) (depthMembers more) := by
  induction first with
  | nil => simp [depthMembers]
  | cons e first inductionHypothesis => simp [depthMembers, inductionHypothesis, Nat.max_assoc]

@[simp] theorem depthMembers_textMember (name s : String) : depthMembers (textMember name s) = 0 := by
  unfold textMember
  split <;> rfl

@[simp] theorem depthMembers_flagMember (name : String) (b : Bool) :
    depthMembers (flagMember name b) = 0 := by
  unfold flagMember
  split <;> rfl

theorem depthMembers_listMember_le (name : String) {vs : List Value} {k : Nat}
    (items : ∀ v ∈ vs, v.depth ≤ k) : depthMembers (listMember name vs) ≤ k + 1 := by
  unfold listMember
  split
  · exact Nat.zero_le _
  · simpa [depthMembers, depth] using depthItems_le items

theorem depth_mapValue_le {f : α → Value} {m : SortedMap α} {k : Nat}
    (values : ∀ a ∈ m.values, (f a).depth ≤ k) : (mapValue f m).depth ≤ k + 1 := by
  refine Nat.succ_le_succ (depthMembers_le ?_)
  rintro _ member
  obtain ⟨e, isEntry, rfl⟩ := List.mem_map.1 member
  exact values e.2 (List.mem_map.2 ⟨e, isEntry, rfl⟩)

theorem depth_strings_le (l : List String) : ∀ v ∈ l.map Value.string, v.depth ≤ 0 := by
  simp [depth]

theorem SourcePos.depth_toValue (p : SourcePos) : p.toValue.depth = 1 := rfl

theorem ProviderRef.depth_toValue (r : ProviderRef) : r.toValue.depth = 1 := by
  simp [toValue, depth, depthMembers]

theorem Diagnostic.depth_toValue_le (d : Diagnostic) : d.toValue.depth ≤ 2 := by
  have severity : d.severity.toValue.depth = 0 := by cases d.severity <;> rfl
  cases place : d.pos <;>
    simp [toValue, place, severity, depth, depthMembers, SourcePos.depth_toValue]

theorem ProviderRequirement.depth_toValue_le (r : ProviderRequirement) : r.toValue.depth ≤ 3 := by
  have constraints := depthMembers_listMember_le "version_constraints"
    (depth_strings_le r.versionConstraints)
  have references : ∀ v ∈ r.configurationAliases.map ProviderRef.toValue, v.depth ≤ 1 := by
    simp [ProviderRef.depth_toValue]
  have aliases := depthMembers_listMember_le "aliases" references
  simp only [toValue, depth, depthMembers_append, depthMembers_textMember]
  omega

theorem Output.depth_toValue (o : Output) : o.toValue.depth = 2 := by
  simp [toValue, depth, depthMembers, SourcePos.depth_toValue]

theorem Resource.depth_toValue (r : Resource) : r.toValue.depth = 2 := by
  simp [toValue, depth, depthMembers, SourcePos.depth_toValue, ProviderRef.depth_toValue]

theorem ModuleCall.depth_toValue (c : ModuleCall) : c.toValue.depth = 2 := by
  simp [toValue, depth, depthMembers, SourcePos.depth_toValue]

theorem Variable.depth_toValue_le {v : Variable} {k : Nat} (deep : 1 ≤ k)
    (default : ∀ d ∈ v.default, d.depth ≤ k) : v.toValue.depth ≤ k + 1 := by
  have type : depthMembers (v.type.map fun t => ("type", Value.string t)).toList = 0 := by
    cases v.type <;> rfl
  have given : (v.default.getD .null).depth ≤ k := by
    cases set : v.default with
    | none => exact Nat.zero_le k
    | some d => exact default d set
  simp only [toValue, depth, depthMembers_append, depthMembers_textMember, depthMembers_flagMember,
    depthMembers, SourcePos.depth_toValue, type]
  omega

/-- A text is nested as deep as the default of a variable and three brackets more, and five deep
anyway. -/
theorem Module.depth_toValue_le {m : Module} {k : Nat} (deep : 2 ≤ k)
    (defaults : ∀ v ∈ m.inputs.values, ∀ d ∈ v.default, d.depth ≤ k) : m.toValue.depth ≤ k + 3 := by
  have inputs := depth_mapValue_le (f := Variable.toValue) (m := m.inputs)
    fun v member => Variable.depth_toValue_le (by omega) (defaults v member)
  have outputs := depth_mapValue_le (f := Output.toValue) (m := m.outputs)
    fun o _ => o.depth_toValue.le
  have core := depthMembers_listMember_le "required_core" (depth_strings_le m.requiredCore)
  have providers := depth_mapValue_le (f := ProviderRequirement.toValue) (m := m.requiredProviders)
    fun r _ => r.depth_toValue_le
  have aliases : m.providerAliases.toValue.depth ≤ 2 := depth_mapValue_le
    fun l _ => Nat.succ_le_succ (depthItems_le (depth_strings_le l))
  have known : depthMembers (if m.providerAliases.isEmpty then []
      else [("provider_aliases", m.providerAliases.toValue)]) ≤ 2 := by
    split
    · exact Nat.zero_le 2
    · simpa [depthMembers] using aliases
  have managed := depth_mapValue_le (f := Resource.toValue) (m := m.managedResources)
    fun r _ => r.depth_toValue.le
  have data := depth_mapValue_le (f := Resource.toValue) (m := m.dataResources)
    fun r _ => r.depth_toValue.le
  have calls := depth_mapValue_le (f := ModuleCall.toValue) (m := m.moduleCalls)
    fun c _ => c.depth_toValue.le
  have problems : ∀ v ∈ m.diagnostics.map Diagnostic.toValue, v.depth ≤ 2 :=
    List.forall_mem_map.2 fun d _ => d.depth_toValue_le
  have diagnostics := depthMembers_listMember_le "diagnostics" problems
  simp only [toValue, depth, depthMembers_append, depthMembers, Nat.add_le_add_iff_right, Nat.max_le,
    show k + 3 = k + 2 + 1 from rfl]
  and_intros <;> omega

end Depth

/-! ## Reading and writing -/

namespace Module

/-- What is read back from a text, indented or not, is what the value of the text is read as. -/
theorem ofJson_toJson_of_readsAs {m d : Module} (reads : Json.ReadsAs reader m.toValue d)
    (nesting : m.toValue.depth < Json.maxDepth) (pretty : Bool) : ofJson (m.toJson pretty) = .ok d := by
  cases pretty with
  | false =>
    have text : (m.toJson false).toList = m.toValue.chars .compact 0 :=
      String.toList_ofList.trans (Value.compactChars_eq 0 m.toValue)
    rw [ofJson, Json.decode, text]
    exact Json.decodeChars_chars reads nesting .compact
  | true =>
    have text : (m.toJson true).toList = m.toValue.chars .pretty 0 :=
      String.toList_ofList.trans (Value.prettyChars_eq 0 m.toValue)
    rw [ofJson, Json.decode, text]
    exact Json.decodeChars_chars reads nesting .pretty

theorem isRead_of_ofJson {text : String} {m : Module} (read : ofJson text = .ok m) :
    m.IsRead (Json.maxDepth - 1) :=
  Json.yields_decode gives_module text m read

/-- A module that was read is written as a text that is read as this module. -/
theorem IsRead.readBack {m : Module} (isRead : m.IsRead (Json.maxDepth - 1))
    (whole : ∀ v ∈ m.inputs.values, ∀ d ∈ v.default, ∀ n ∈ d.numbers, n.isWhole = true)
    (pretty : Bool) : ofJson (m.toJson pretty) = .ok m := by
  have defaults : ∀ v ∈ m.inputs.values, ∀ d ∈ v.default, Json.ReadsAs Json.value d d := by
    intro v isInput d given
    obtain ⟨d_isRead, -⟩ := (isRead.inputs v isInput).default d given
    exact d_isRead.sorted.readsAs fun n isNumber =>
      (d_isRead.numbers n isNumber).isKept (whole v isInput d given n isNumber)
  have reads := readsAs_module_of_defaults isRead.built defaults isRead.lines
  have noNull : m.dropNullDefaults = m := by
    refine dropNullDefaults_eq_self_iff.2 fun v isInput null => ?_
    exact ((isRead.inputs v isInput).default .null null).2 rfl
  rw [noNull] at reads
  have nesting : m.toValue.depth ≤ 124 + 3 := depth_toValue_le (by decide) fun v isInput d given =>
    ((isRead.inputs v isInput).default d given).1.depth
  exact ofJson_toJson_of_readsAs reads (Nat.lt_succ_of_le nesting) pretty

def reencode (pretty : Bool) (text : String) : Except Json.Fault String :=
  (ofJson text).map (·.toJson pretty)

end Module

/-- Whatever a text is like that holds a module, the module has no list of aliases that is empty or
holds one twice, and no default of `null`. If the numbers in its defaults were written as whole ones of
64 bits, both of its texts are read as this module; so writing it once gives a text that reading and
writing again does not change. -/
theorem decoded_module_normal {text : String} {m : Module} (read : Module.ofJson text = .ok m) :
    (∀ entry ∈ m.providerAliases.toList, entry.2 ≠ [] ∧ entry.2.Nodup) ∧
    (∀ v ∈ m.inputs.values, v.default ≠ some .null) ∧
    ((∀ v ∈ m.inputs.values, ∀ d ∈ v.default, ∀ n ∈ d.numbers, n.isWhole = true) →
      (∀ pretty, Module.ofJson (m.toJson pretty) = .ok m) ∧
      ∀ pretty normal, Module.reencode pretty text = .ok normal →
        Module.reencode pretty normal = .ok normal) := by
  have isRead := Module.isRead_of_ofJson read
  refine ⟨isRead.built.distinct, ?_, fun whole => ?_⟩
  · intro v isInput null
    exact ((isRead.inputs v isInput).default .null null).2 rfl
  · have readBack := isRead.readBack whole
    refine ⟨readBack, fun pretty normal encoded => ?_⟩
    have isText : m.toJson pretty = normal := by
      simpa [Module.reencode, read, Except.map] using encoded
    rw [← isText, Module.reencode, readBack pretty]
    rfl

/-- A text with an unknown member and without most of the known ones, two variables under one name of
which the second one is written as a list, a default of `null`, an empty list of aliases and one with
an alias twice. -/
def looseText : String :=
  "\x7b\"extra\": [1.5, \x7b\x7d], \"variables\": \x7b\"b\": \x7b\"name\": \"b\", \"required\": true,
    \"pos\": [\"main.tf\", 1]\x7d, \"a\": [\"a\", null, \"\", null, true, false, [\"main.tf\", 2]],
    \"b\": [\"b\", \"any\", \"\", \x7b\"z\": -0, \"a\": [18446744073709551615]\x7d, false, true,
    \x7b\"line\": 3, \"filename\": \"main.tf\"\x7d]\x7d, \"path\": \"mod\",
    \"provider_aliases\": \x7b\"none\": [], \"aws\": [\"west\", \"east\", \"west\"]\x7d\x7d"

def looseModule : Module :=
  { Module.new "mod" with
    inputs := .ofList [
      ("a", { Variable.new "a" ⟨"main.tf", 2⟩ with required := true }),
      ("b", { Variable.new "b" ⟨"main.tf", 3⟩ with
        type := some "any"
        default := some (.object [("a", .array [.number (.int 18446744073709551615)]),
          ("z", .number .minusZero)])
        required := false
        sensitive := true })]
    providerAliases := (ProviderAliases.empty.add "aws" "west").add "aws" "east" }

-- The list of the characters is longer than the default limit.
set_option maxRecDepth 10000 in
theorem looseText_normal :
    Module.ofJson looseText = .ok looseModule ∧
      (∀ pretty, Module.ofJson (looseModule.toJson pretty) = .ok looseModule) ∧
      ∀ pretty normal, Module.reencode pretty looseText = .ok normal →
        Module.reencode pretty normal = .ok normal := by
  obtain ⟨cs, text, readChars⟩ : ∃ cs, looseText = String.ofList cs ∧
      Json.decodeChars Module.reader cs = .ok looseModule := ⟨_, rfl, by decide +kernel⟩
  have read : Module.ofJson looseText = .ok looseModule := by
    rw [Module.ofJson, Json.decode, text, String.toList_ofList]
    exact readChars
  obtain ⟨-, -, normal⟩ := decoded_module_normal read
  exact ⟨read, normal (by decide +kernel)⟩

end ModuleSurvey
