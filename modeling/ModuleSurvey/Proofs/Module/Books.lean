import ModuleSurvey.Proofs.ProviderAliases
import ModuleSurvey.Proofs.Module.Amendment

/-! # The books on providers

What a module knows of providers is kept in two maps that every kind of statement but `variable`,
`output` and `module` writes to. What a statement writes depends on the statement alone, so it can
be said as a list of notes, and the books after a statement are the books before it with its notes
written down one after the other.

* `Books`, `Note`, `Books.write` — the two maps, one remark about a provider, and writing it down.
* `Statement.notes` — the notes of a statement.
* `books_setSource` and its companions — what each operation on a module writes.
* `requires_write`, `knows_write`, `configures_write` — what is in the books after a note: what was
  there before, and what the note says.
-/

namespace ModuleSurvey

open Json (Value Members)

/-- What a module knows of providers: what it needs of each, and the aliases of each. -/
structure Books where
  required : SortedMap ProviderRequirement
  aliases : ProviderAliases

inductive Note where
  | named (provider : String)
  | source (provider address : String)
  | version (provider constraint : String)
  /-- A caller has to pass in this configuration. -/
  | configuration (provider : String) (reference : ProviderRef)
  | aliased (provider aliasName : String)

namespace Note

def provider : Note → String
  | named provider | source provider _ | version provider _ | configuration provider _
  | aliased provider _ => provider

def amend (role : FileRole) : Note → ProviderRequirement → ProviderRequirement
  | source _ address, r =>
    if r.source = "" ∨ role = .override then { r with source := address } else r
  | version _ constraint, r =>
    match role with
    | .primary => { r with versionConstraints := r.versionConstraints ++ [constraint] }
    | .override => { r with versionConstraints := [constraint] }
  | configuration _ reference, r =>
    if r.configurationAliases.contains reference then r
    else { r with configurationAliases := r.configurationAliases ++ [reference] }
  | named _, r | aliased _ _, r => r

def address? : Note → Option String
  | source _ address => some address
  | named _ | version .. | configuration .. | aliased .. => none

def constraint? : Note → Option String
  | version _ constraint => some constraint
  | named _ | source .. | configuration .. | aliased .. => none

def configuration? : Note → Option ProviderRef
  | configuration _ reference => some reference
  | named _ | source .. | version .. | aliased .. => none

theorem configurationAliases_amend (role : FileRole) (note : Note) (r : ProviderRequirement) :
    (note.amend role r).configurationAliases =
      addNew r.configurationAliases note.configuration? := by
  cases note with
  | named | aliased => rfl
  | source =>
    simp only [amend]
    split <;> rfl
  | version => cases role <;> rfl
  | configuration provider reference =>
    simp only [amend, configuration?, addNew, List.contains_iff_mem]
    split <;> rfl

def reference? : Note → Option ProviderRef
  -- It need not be a reference to the provider that lists it.
  | configuration _ reference => if reference.hasAlias then some reference else none
  | aliased provider aliasName => some ⟨provider, aliasName⟩
  | named _ | source _ _ | version _ _ => none

end Note

namespace Books

def requirement (b : Books) (provider : String) : ProviderRequirement :=
  (b.required.get? provider).getD .empty

def write (role : FileRole) (b : Books) (note : Note) : Books where
  required := b.required.insert note.provider (note.amend role (b.requirement note.provider))
  aliases :=
    match note.reference? with
    | some r => b.aliases.add r.name r.aliasName
    | none => b.aliases

def writeAll (role : FileRole) (b : Books) (notes : List Note) : Books :=
  notes.foldl (write role) b

@[simp] theorem writeAll_nil (role : FileRole) (b : Books) : b.writeAll role [] = b := rfl

@[simp] theorem writeAll_cons (role : FileRole) (b : Books) (note : Note) (notes : List Note) :
    b.writeAll role (note :: notes) = (b.write role note).writeAll role notes := rfl

@[simp] theorem writeAll_append (role : FileRole) (b : Books) (first more : List Note) :
    b.writeAll role (first ++ more) = (b.writeAll role first).writeAll role more :=
  List.foldl_append

/-! ## What is in the books -/

def Requires (b : Books) (provider : String) : Prop := b.required.contains provider = true

def Configures (b : Books) (provider : String) (reference : ProviderRef) : Prop :=
  ∃ r, b.required.get? provider = some r ∧ reference ∈ r.configurationAliases

variable {role : FileRole} {b : Books} {note : Note}

theorem requires_write {provider : String} :
    (b.write role note).Requires provider ↔ provider = note.provider ∨ b.Requires provider :=
  SortedMap.contains_insert

theorem knows_write {r : ProviderRef} :
    (b.write role note).aliases.Knows r ↔ note.reference? = some r ∨ b.aliases.Knows r := by
  unfold write
  cases note.reference? with
  | none => simp
  | some recorded => simp [ProviderAliases.knows_add, eq_comm]

theorem get?_write (provider : String) :
    (b.write role note).required.get? provider =
      if provider = note.provider then some (note.amend role (b.requirement provider))
      else b.required.get? provider := by
  unfold write
  rw [SortedMap.get?_insert]
  by_cases same : provider = note.provider <;> simp [same]

theorem mem_amend_configurationAliases {r : ProviderRequirement} {reference : ProviderRef} :
    reference ∈ (note.amend role r).configurationAliases ↔
      note = .configuration note.provider reference ∨ reference ∈ r.configurationAliases := by
  rw [note.configurationAliases_amend role, mem_addNew]
  cases note <;> simp [Note.configuration?, Note.provider]

theorem nodup_amend_configurationAliases {r : ProviderRequirement}
    (distinct : r.configurationAliases.Nodup) :
    (note.amend role r).configurationAliases.Nodup := by
  rw [note.configurationAliases_amend role]
  exact nodup_addNew distinct

theorem mem_requirement_configurationAliases {provider : String} {reference : ProviderRef} :
    reference ∈ (b.requirement provider).configurationAliases ↔ b.Configures provider reference := by
  unfold requirement Configures
  cases b.required.get? provider with
  | none => simp [ProviderRequirement.empty]
  | some r => simp

theorem configures_write {provider : String} {reference : ProviderRef} :
    (b.write role note).Configures provider reference ↔
      note = .configuration provider reference ∨ b.Configures provider reference := by
  unfold Configures
  rw [get?_write]
  by_cases same : provider = note.provider
  · subst same
    simp only [if_pos, Option.some.injEq, exists_eq_left', mem_amend_configurationAliases,
      mem_requirement_configurationAliases, Configures]
  · have other : note ≠ .configuration provider reference := by
      rintro rfl
      exact same rfl
    simp [same, other]

/-- What a note adds to the books and no note takes away is there after a run of notes iff one of
them says it, or it was there before. -/
theorem writeAll_iff (Holds : Books → Prop) (Says : Note → Prop)
    (step : ∀ b note, Holds (b.write role note) ↔ Says note ∨ Holds b) (b : Books)
    (notes : List Note) :
    Holds (b.writeAll role notes) ↔ (∃ note ∈ notes, Says note) ∨ Holds b := by
  induction notes generalizing b with
  | nil => simp
  | cons note notes inductionHypothesis =>
    rw [writeAll_cons, inductionHypothesis, step]
    simp [or_assoc, or_left_comm]

theorem requires_writeAll {notes : List Note} {provider : String} :
    (b.writeAll role notes).Requires provider ↔
      (∃ note ∈ notes, provider = note.provider) ∨ b.Requires provider :=
  writeAll_iff (fun b => b.Requires provider) (fun note => provider = note.provider)
    (fun _ _ => requires_write) b notes

theorem knows_writeAll {notes : List Note} {r : ProviderRef} :
    (b.writeAll role notes).aliases.Knows r ↔
      (∃ note ∈ notes, note.reference? = some r) ∨ b.aliases.Knows r :=
  writeAll_iff (fun b => b.aliases.Knows r) (fun note => note.reference? = some r)
    (fun _ _ => knows_write) b notes

/-- A note that a provider is in use changes nothing where the provider is required already. -/
theorem insert_requirement {provider : String} (required : b.Requires provider) :
    b.required.insert provider (b.requirement provider) = b.required := by
  obtain ⟨r, found⟩ := SortedMap.contains_iff.1 required
  apply SortedMap.insert_of_get?
  rw [requirement, found]
  rfl

end Books

/-! ## The notes of a statement -/

def requirementNotes (provider : String) : Value → List Note
  | .string constraint => [.version provider constraint]
  | .object attrs =>
    (match Attribute.string attrs "source" with
      | .given source => [.source provider source]
      | .rejected _ => []
      | .missing | .null => [.named provider])
    ++ (Attribute.string attrs "version").value?.toList.map (.version provider)
    ++ ((Attribute.strings attrs "configuration_aliases").value?.getD []).map fun aliasName =>
      .configuration provider (.parse (unwrapTemplate aliasName))
  | _ => []

def requirementsNotes (required : Value) : List Note :=
  match Block.collect [] 0 required with
  | .error _ => []
  | .ok blocks => blocks.flatMap fun block => block.body.flatMap fun e => requirementNotes e.1 e.2

def ProviderRef.note (r : ProviderRef) : Note :=
  if r.hasAlias then .aliased r.name r.aliasName else .named r.name

def Statement.notes : Statement → List Note
  | .terraform _ body => (body.get? "required_providers").elim [] requirementsNotes
  | .provider _ name body =>
    .named name :: (Attribute.string body "version").value?.toList.map (.version name)
      ++ (Attribute.string body "alias").value?.toList.map fun aliasName =>
        .aliased name (unwrapTemplate aliasName)
  | .resource _ _ type _ body => [(givenProvider type body).note]
  | .inputVariable .. | .output .. | .moduleCall .. | .malformed .. | .noBody _ => []

/-! ## What a statement writes -/

namespace Module

def books (m : Module) : Books := ⟨m.requiredProviders, m.providerAliases⟩

@[simp] theorem books_complain (m : Module) (pos : SourcePos) (problem : Problem) :
    (m.complain pos problem).books = m.books := rfl

@[simp] theorem books_complainAll (m : Module) (pos : SourcePos) (problems : List Problem) :
    (m.complainAll pos problems).books = m.books := rfl

@[simp] theorem books_setResourcesOf (m : Module) (mode : ResourceMode) (rs : SortedMap Resource) :
    (m.setResourcesOf mode rs).books = m.books := by
  cases mode <;> rfl

@[simp] theorem books_addVersion (m : Module) (role : FileRole) (provider constraint : String) :
    (m.addVersion role provider constraint).books =
      m.books.write role (.version provider constraint) := by
  cases role <;> rfl

@[simp] theorem books_setSource (m : Module) (role : FileRole) (pos : SourcePos)
    (provider source : String) :
    (m.setSource role pos provider source).books =
      m.books.write role (.source provider source) := by
  let note := Note.source provider source
  have written : ∀ r, note.amend role (m.requirement provider) = r →
      (⟨m.requiredProviders.insert provider r, m.providerAliases⟩ : Books) =
        m.books.write role note := by
    rintro _ rfl
    rfl
  simp only [setSource]
  split
  case isTrue replaced => exact written _ (if_pos replaced)
  case isFalse kept => split <;> exact written _ (if_neg kept)

theorem books_addConfigurationAlias (role : FileRole) (m : Module)
    (provider aliasName : String) :
    (m.addConfigurationAlias provider aliasName).books =
      m.books.write role (.configuration provider (.parse (unwrapTemplate aliasName))) := by
  simp only [addConfigurationAlias, Books.write, Note.reference?]
  split <;> rfl

theorem books_addAlias (role : FileRole) {m : Module} {provider : String}
    (required : m.books.Requires provider) (aliasName : String) :
    (m.addAlias provider aliasName).books = m.books.write role (.aliased provider aliasName) := by
  have sameRequired := Books.insert_requirement required
  simp only [Books.write, Note.provider, Note.amend, sameRequired]
  rfl

theorem books_declareResource (role : FileRole) (m : Module) (pos : SourcePos)
    (mode : ResourceMode) (type name : String) (body : Members) :
    (m.declareResource role pos mode type name body).books =
      m.books.write role (givenProvider type body).note := by
  have fresh : ((ResourceBody.read body).declare mode type name pos).provider =
      givenProvider type body :=
    congrArg Resource.provider (EntryKind.resource_fresh mode ⟨pos, type, name, body⟩)
  simp only [declareResource, books_complainAll, books_setResourcesOf, fresh]
  unfold ProviderRef.note
  -- Whether the alias or the requirement is written first makes no difference.
  split <;> rfl

end Module

end ModuleSurvey
