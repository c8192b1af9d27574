import ModuleSurvey.Proofs.Module.Remarks

/-! # Providers are accounted for

Whatever files are brought into a module, in whatever order and role, its books on providers are in
order, and every provider that a resource uses is in them.

* `Books.InOrder` — the invariant of the books, kept by every note.
* `Books.Accounts`, `Module.accounts_declare` — the books hold what a resource needs, and still do
  after any statement.
* `provider_bookkeeping_closed` — what holds of the providers of a module after any sequence of
  files.
-/

namespace ModuleSurvey

namespace Books

variable {role : FileRole} {b : Books} {note : Note}

/-- The books are in order: aliases were recorded one by one, no configuration is listed twice, the
alias of a listed configuration is recorded, and each recorded alias belongs to a provider that is
required, unless a configuration brought it in. -/
structure InOrder (b : Books) : Prop where
  built : b.aliases.Built
  distinct : ∀ provider r, b.required.get? provider = some r → r.configurationAliases.Nodup
  recorded : ∀ provider reference, b.Configures provider reference →
    reference.aliasName ≠ "" → b.aliases.Knows reference
  placed : ∀ reference, b.aliases.Knows reference →
    b.Requires reference.name ∨ ∃ provider, b.Configures provider reference

theorem inOrder_empty : (⟨∅, ∅⟩ : Books).InOrder where
  built := .empty
  distinct _ _ found := by cases found
  recorded _ _ configured := by
    obtain ⟨r, found, -⟩ := configured
    cases found
  placed reference known := absurd known (ProviderAliases.not_knows_empty reference)

theorem InOrder.nodup_requirement (inOrder : b.InOrder) (provider : String) :
    (b.requirement provider).configurationAliases.Nodup := by
  unfold requirement
  cases found : b.required.get? provider with
  | none => exact .nil
  | some r => exact inOrder.distinct provider r found

theorem InOrder.write (inOrder : b.InOrder) (role : FileRole) (note : Note) :
    (b.write role note).InOrder where
  built := by
    unfold Books.write
    cases note.reference? with
    | none => exact inOrder.built
    | some r => exact .add inOrder.built r.name r.aliasName
  distinct provider r found := by
    rw [get?_write] at found
    split at found
    case isTrue same =>
      cases found
      exact nodup_amend_configurationAliases (inOrder.nodup_requirement provider)
    case isFalse different => exact inOrder.distinct provider r found
  recorded provider reference configured aliased := by
    rcases configures_write.1 configured with rfl | before
    · have hasAlias : reference.hasAlias = true := by simpa [ProviderRef.hasAlias] using aliased
      exact knows_write.2 (.inl (if_pos hasAlias))
    · exact knows_write.2 (.inr (inOrder.recorded provider reference before aliased))
  placed reference known := by
    rcases knows_write.1 known with recorded | before
    · -- Of the notes that record an alias, one names the provider of the alias, and the other
      -- lists the configuration.
      cases note with
      | aliased provider aliasName =>
        cases recorded
        exact .inl (requires_write.2 (.inl rfl))
      | configuration provider listed =>
        simp only [Note.reference?, Option.ite_none_right_eq_some, Option.some.injEq] at recorded
        exact .inr ⟨provider, configures_write.2 (.inl (by rw [recorded.2]))⟩
      | named | source | version => cases recorded
    · rcases inOrder.placed reference before with required | ⟨provider, configured⟩
      · exact .inl (requires_write.2 (.inr required))
      · exact .inr ⟨provider, configures_write.2 (.inr configured)⟩

theorem InOrder.writeAll (inOrder : b.InOrder) (role : FileRole) (notes : List Note) :
    (b.writeAll role notes).InOrder :=
  List.foldlRecOn notes (Books.write role) inOrder
    fun _ inOrder note _ => inOrder.write role note

/-! ## The provider of a resource -/

/-- Whether the books hold what a reference needs: a requirement for its provider, and its alias,
if it names one. -/
def Accounts (b : Books) (r : ProviderRef) : Prop :=
  b.Requires r.name ∧ (r.aliasName ≠ "" → b.aliases.Knows r)

theorem Accounts.writeAll {r : ProviderRef} (accounts : b.Accounts r) (role : FileRole)
    (notes : List Note) : (b.writeAll role notes).Accounts r :=
  ⟨requires_writeAll.2 (.inr accounts.1),
    fun aliased => knows_writeAll.2 (.inr (accounts.2 aliased))⟩

theorem accounts_write_note (role : FileRole) (b : Books) (r : ProviderRef) :
    (b.write role r.note).Accounts r := by
  unfold ProviderRef.note
  split
  case isTrue hasAlias => exact ⟨requires_write.2 (.inl rfl), fun _ => knows_write.2 (.inl rfl)⟩
  case isFalse hasNone =>
    refine ⟨requires_write.2 (.inl rfl), fun aliased => absurd ?_ hasNone⟩
    simpa [ProviderRef.hasAlias] using aliased

end Books

namespace Module

def ResourcesAccounted (m : Module) : Prop :=
  ∀ mode key r, (m.resourcesOf mode).get? key = some r → m.books.Accounts r.provider

theorem accounts_declare {m : Module} (accounted : m.ResourcesAccounted) (role : FileRole)
    (statement : Statement) : (m.declare role statement).ResourcesAccounted := by
  intro mode key r found
  -- What was in the books before the statement still is.
  have before : ∀ key r, (m.resourcesOf mode).get? key = some r →
      (m.declare role statement).books.Accounts r.provider := by
    intro key r found
    rw [books_declare]
    exact (accounted mode key r found).writeAll role statement.notes
  rw [resourcesOf_declare] at found
  cases picked : statement.resource? mode with
  | none =>
    rw [picked] at found
    exact before key r found
  | some block =>
    rw [picked] at found
    have given : (m.declare role statement).books.Accounts
        (givenProvider block.type block.body) := by
      have notes : statement.notes = [(givenProvider block.type block.body).note] := by
        cases statement with
        | resource pos blockMode type name body =>
          simp only [Statement.resource?, Option.ite_none_right_eq_some, Option.some.injEq] at picked
          obtain ⟨-, rfl⟩ := picked
          rfl
        | terraform | provider | inputVariable | output | moduleCall | malformed | noBody =>
          cases picked
      rw [books_declare, notes]
      exact Books.accounts_write_note role m.books _
    refine (EntryKind.resource mode).forall_get?_bring before ?_ ?_ key r found
    · rw [EntryKind.resource_fresh]
      exact given
    · intro earlier earlierAccounted
      rw [EntryKind.resource_amend]
      -- The resource keeps its provider, or takes the one that the block gives.
      cases block.body.has "provider" with
      | true => exact given
      | false => exact earlierAccounted

theorem inOrder_decodeAll (path : String) (files : List (FileRole × ParsedFile)) :
    ((new path).decodeAll files).books.InOrder := by
  refine decodeAll_induction (fun m => m.books.InOrder) ?_ files Books.inOrder_empty
  intro role m statement inOrder
  rw [books_declare]
  exact inOrder.writeAll role statement.notes

theorem resourcesAccounted_decodeAll (path : String) (files : List (FileRole × ParsedFile)) :
    ((new path).decodeAll files).ResourcesAccounted := by
  refine decodeAll_induction ResourcesAccounted ?_ files ?_
  · intro role m statement accounted
    exact accounts_declare accounted role statement
  · intro mode key r found
    cases mode <;> cases found

end Module

/-- After any sequence of files, every resource's provider is required and its alias recorded, the
aliases of all listed configurations are recorded, and nothing is listed or recorded twice. -/
theorem provider_bookkeeping_closed (path : String) (files : List (FileRole × ParsedFile)) :
    let m := (Module.new path).decodeAll files
    (∀ mode key r, (m.resourcesOf mode).get? key = some r →
      m.requiredProviders.contains r.provider.name = true ∧
      (r.provider.aliasName ≠ "" → m.providerAliases.Knows r.provider)) ∧
    (∀ provider requirement, m.requiredProviders.get? provider = some requirement →
      requirement.configurationAliases.Nodup ∧
      ∀ reference ∈ requirement.configurationAliases,
        reference.aliasName ≠ "" → m.providerAliases.Knows reference) ∧
    (∀ provider known, m.providerAliases.get? provider = some known →
      known ≠ [] ∧ known.Nodup) := by
  intro m
  have inOrder := Module.inOrder_decodeAll path files
  refine ⟨Module.resourcesAccounted_decodeAll path files, ?_, ?_⟩
  · intro provider requirement found
    refine ⟨inOrder.distinct provider requirement found, ?_⟩
    intro reference listed aliased
    exact inOrder.recorded provider reference ⟨requirement, found, listed⟩ aliased
  · intro provider known found
    exact inOrder.built.distinct_of_get? found

end ModuleSurvey
