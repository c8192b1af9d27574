import ModuleSurvey.Proofs.Module.Reports

/-! # A module only grows

No file takes back what the files before it brought: problems, aliases and configurations are put
behind the earlier ones, and a name that is declared stays declared. A primary file replaces entries
under their names but no constraint and no source; only an override file may do that.

* `SortedMap.Carries` — every entry of a map lives on, changed in a way that is allowed.
* `ProviderRequirement.GrowsTo`, `Books.GrowsTo`, `Module.GrowsTo` — what a file of a role leaves of
  earlier files.
* `Books.growsTo_write`, `Module.growsTo_declare` — one note and one statement.
* `module_only_grows` — the body of a file.
-/

namespace ModuleSurvey

open Json (Value Members)

theorem prefix_addNew {α : Type} [DecidableEq α] (l : List α) (a : Option α) :
    l <+: addNew l a := by
  cases a with
  | none => exact List.prefix_rfl
  | some a =>
    simp only [addNew]
    split
    · exact List.prefix_rfl
    · exact List.prefix_append l [a]

/-! ## Maps -/

namespace SortedMap

variable {α : Type} {a b c : SortedMap α}

/-- Every entry of a map has an entry under its key in a later one that it may have become. -/
def Carries (Becomes : α → α → Prop) (before after : SortedMap α) : Prop :=
  ∀ key entry, before.get? key = some entry →
    ∃ later, after.get? key = some later ∧ Becomes entry later

theorem Carries.refl {Becomes : α → α → Prop} (stays : ∀ entry, Becomes entry entry)
    (map : SortedMap α) : map.Carries Becomes map :=
  fun _ entry found => ⟨entry, found, stays entry⟩

theorem Carries.trans {Becomes : α → α → Prop}
    (chains : ∀ {x y z}, Becomes x y → Becomes y z → Becomes x z)
    (first : a.Carries Becomes b) (second : b.Carries Becomes c) : a.Carries Becomes c := by
  intro key entry found
  obtain ⟨middle, foundMiddle, becomesMiddle⟩ := first key entry found
  obtain ⟨later, foundLater, becomesLater⟩ := second key middle foundMiddle
  exact ⟨later, foundLater, chains becomesMiddle becomesLater⟩

theorem carries_insert {Becomes : α → α → Prop} (stays : ∀ entry, Becomes entry entry)
    {map : SortedMap α} {key : String} {value : α}
    (becomes : ∀ entry, map.get? key = some entry → Becomes entry value) :
    map.Carries Becomes (map.insert key value) := by
  intro other entry found
  rw [get?_insert]
  by_cases same : other = key
  · subst same
    exact ⟨value, if_pos rfl, becomes entry found⟩
  · exact ⟨entry, by rw [if_neg same, found], stays entry⟩

theorem mem_keys_iff {map : SortedMap α} {key : String} :
    key ∈ map.keys ↔ map.contains key = true := by
  rw [contains_iff, keys, List.mem_map]
  constructor
  · rintro ⟨⟨_, value⟩, member, rfl⟩
    exact ⟨value, mem_entries_iff.1 member⟩
  · rintro ⟨value, found⟩
    exact ⟨(key, value), mem_entries_iff.2 found, rfl⟩

theorem keys_subset_insert (map : SortedMap α) (key : String) (value : α) :
    map.keys ⊆ (map.insert key value).keys :=
  fun _ member => mem_keys_iff.2 (contains_insert.2 (.inr (mem_keys_iff.1 member)))

end SortedMap

theorem EntryKind.keys_subset_bring {β α : Type} (kind : EntryKind β α) (role : FileRole)
    (map : SortedMap α) (block? : Option β) :
    map.keys ⊆ (block?.elim map (kind.bring role map)).keys := by
  cases block? with
  | none => exact List.Subset.refl _
  | some block =>
    simp only [Option.elim_some, bring, SortedMap.declare]
    split <;> exact map.keys_subset_insert _ _

/-! ## Providers -/

/-- What a file of a role leaves of a requirement: its configurations stay in front of new ones, and
in a primary file its constraints and its source stay, too. -/
structure ProviderRequirement.GrowsTo (role : FileRole) (r after : ProviderRequirement) : Prop where
  configurationAliases : r.configurationAliases <+: after.configurationAliases
  versionConstraints : role = .primary → r.versionConstraints <+: after.versionConstraints
  source : role = .primary → r.source ≠ "" → after.source = r.source

namespace ProviderRequirement

variable {role : FileRole}

theorem GrowsTo.refl (r : ProviderRequirement) : r.GrowsTo role r where
  configurationAliases := List.prefix_rfl
  versionConstraints _ := List.prefix_rfl
  source _ _ := rfl

theorem GrowsTo.trans {r middle after : ProviderRequirement} (first : r.GrowsTo role middle)
    (second : middle.GrowsTo role after) : r.GrowsTo role after where
  configurationAliases := first.configurationAliases.trans second.configurationAliases
  versionConstraints primary :=
    (first.versionConstraints primary).trans (second.versionConstraints primary)
  source primary given := by
    have same := first.source primary given
    exact (second.source primary (same ▸ given)).trans same

end ProviderRequirement

theorem Note.growsTo_amend (role : FileRole) (note : Note) (r : ProviderRequirement) :
    r.GrowsTo role (note.amend role r) where
  configurationAliases := by
    rw [note.configurationAliases_amend role]
    exact prefix_addNew _ _
  versionConstraints := by
    rintro rfl
    cases note with
    | version provider constraint => exact List.prefix_append _ [constraint]
    | source | configuration =>
      simp only [amend]
      split <;> exact List.prefix_rfl
    | named | aliased => exact List.prefix_rfl
  source := by
    rintro rfl given
    cases note with
    | source provider address => simp [amend, given]
    | configuration =>
      simp only [amend]
      split <;> rfl
    | named | version | aliased => rfl

theorem ProviderAliases.carries_add (a : ProviderAliases) (provider aliasName : String) :
    a.byName.Carries (· <+: ·) (a.add provider aliasName).byName := by
  intro other known found
  have lookup := get?_add a provider aliasName other
  by_cases same : other = provider
  · subst same
    have knownThen : a.known other = known := congrArg (·.getD []) found
    rw [if_pos rfl, knownThen] at lookup
    exact ⟨_, lookup, prefix_addNew known _⟩
  · rw [if_neg same] at lookup
    exact ⟨known, lookup.trans found, List.prefix_rfl⟩

structure Books.GrowsTo (role : FileRole) (b after : Books) : Prop where
  required : b.required.Carries (·.GrowsTo role ·) after.required
  aliases : b.aliases.byName.Carries (· <+: ·) after.aliases.byName

namespace Books

variable {role : FileRole}

theorem GrowsTo.refl (b : Books) : b.GrowsTo role b where
  required := .refl .refl b.required
  aliases := .refl (fun _ => List.prefix_rfl) b.aliases.byName

theorem GrowsTo.trans {b middle after : Books} (first : b.GrowsTo role middle)
    (second : middle.GrowsTo role after) : b.GrowsTo role after where
  required := first.required.trans .trans second.required
  aliases := first.aliases.trans List.IsPrefix.trans second.aliases

theorem growsTo_write (b : Books) (note : Note) : b.GrowsTo role (b.write role note) where
  required := by
    apply SortedMap.carries_insert .refl
    intro r found
    have requirement : b.requirement note.provider = r := congrArg (·.getD .empty) found
    rw [requirement]
    exact note.growsTo_amend role r
  aliases := by
    unfold write
    cases note.reference? with
    | none => exact .refl (fun _ => List.prefix_rfl) b.aliases.byName
    | some r => exact b.aliases.carries_add r.name r.aliasName

theorem growsTo_writeAll (b : Books) (notes : List Note) : b.GrowsTo role (b.writeAll role notes) :=
  List.foldlRecOn (motive := b.GrowsTo role) notes _ (.refl b)
    fun after grown note _ => grown.trans (after.growsTo_write note)

end Books

/-! ## Modules -/

structure Module.GrowsTo (role : FileRole) (m after : Module) : Prop where
  diagnostics : m.diagnostics <+: after.diagnostics
  inputs : m.inputs.keys ⊆ after.inputs.keys
  outputs : m.outputs.keys ⊆ after.outputs.keys
  resources : ∀ mode, (m.resourcesOf mode).keys ⊆ (after.resourcesOf mode).keys
  moduleCalls : m.moduleCalls.keys ⊆ after.moduleCalls.keys
  books : m.books.GrowsTo role after.books
  requiredCore : role = .primary → m.requiredCore <+: after.requiredCore

namespace Module

variable {role : FileRole}

theorem GrowsTo.refl (m : Module) : m.GrowsTo role m where
  diagnostics := List.prefix_rfl
  inputs := List.Subset.refl _
  outputs := List.Subset.refl _
  resources _ := List.Subset.refl _
  moduleCalls := List.Subset.refl _
  books := .refl m.books
  requiredCore _ := List.prefix_rfl

theorem GrowsTo.trans {m middle after : Module} (first : m.GrowsTo role middle)
    (second : middle.GrowsTo role after) : m.GrowsTo role after where
  diagnostics := first.diagnostics.trans second.diagnostics
  inputs := List.Subset.trans first.inputs second.inputs
  outputs := List.Subset.trans first.outputs second.outputs
  resources mode := List.Subset.trans (first.resources mode) (second.resources mode)
  moduleCalls := List.Subset.trans first.moduleCalls second.moduleCalls
  books := first.books.trans second.books
  requiredCore primary := (first.requiredCore primary).trans (second.requiredCore primary)

theorem growsTo_declare (role : FileRole) (m : Module) (s : Statement) :
    m.GrowsTo role (m.declare role s) where
  diagnostics := by
    rw [diagnostics_declare]
    exact List.prefix_append _ _
  inputs := by
    rw [inputs_declare]
    exact EntryKind.inputVariable.keys_subset_bring role m.inputs s.inputVariable?
  outputs := by
    rw [outputs_declare]
    exact EntryKind.output.keys_subset_bring role m.outputs s.output?
  resources mode := by
    rw [resourcesOf_declare]
    exact (EntryKind.resource mode).keys_subset_bring role (m.resourcesOf mode) (s.resource? mode)
  moduleCalls := by
    rw [moduleCalls_declare]
    exact EntryKind.moduleCall.keys_subset_bring role m.moduleCalls s.moduleCall?
  books := by
    rw [books_declare]
    exact m.books.growsTo_writeAll s.notes
  requiredCore := by
    rintro rfl
    rw [requiredCore_declare_primary]
    exact List.prefix_append _ _

end Module

/-- The body of a file adds to a module and takes nothing away, whatever is in it: the problems found
before come before the new ones, every name stays declared, and the aliases and configurations of a
provider come before those that are added. A primary file leaves also every constraint in its place,
and every source that was given. -/
theorem module_only_grows (role : FileRole) (m : Module) (index : BlockIndex) (body : Value) :
    m.GrowsTo role (m.decode role index body) :=
  List.foldlRecOn (motive := m.GrowsTo role) (Statement.ofBody body index).1 _ (.refl m)
    fun after grown s _ => grown.trans (after.growsTo_declare role s)

end ModuleSurvey
