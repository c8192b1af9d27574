import ModuleSurvey.Proofs.Module.Amendment

/-! # Coherent modules

Every entry of a module knows the name under which it is kept, whatever files were brought into
the module, in whatever order and role, well formed or not.

* `Module.Coherent` — the invariant: names and addresses agree with the keys, resources stand among
  those of their mode, and a variable is required exactly when it has no default.
* `Module.Coherent.declare` — every statement keeps it.
* `coherent_decodeAll` — it holds after any sequence of files.
-/

namespace ModuleSurvey

def Variable.BelongsUnder (key : String) (v : Variable) : Prop :=
  v.name = key ∧ (v.required = true ↔ v.default = none)

def Resource.BelongsUnder (mode : ResourceMode) (key : String) (r : Resource) : Prop :=
  r.mode = mode ∧ r.address = key

namespace Module

/-- The entries of a module agree with the keys under which they are kept. -/
structure Coherent (path : String) (m : Module) : Prop where
  path_eq : m.path = path
  inputs : ∀ key v, m.inputs.get? key = some v → v.BelongsUnder key
  outputs : ∀ key o, m.outputs.get? key = some o → o.name = key
  resources : ∀ mode key r, (m.resourcesOf mode).get? key = some r → r.BelongsUnder mode key
  moduleCalls : ∀ key c, m.moduleCalls.get? key = some c → c.name = key

theorem coherent_new (path : String) : (new path).Coherent path where
  path_eq := rfl
  inputs _ _ found := by cases found
  outputs _ _ found := by cases found
  resources mode _ _ found := by cases mode <;> cases found
  moduleCalls _ _ found := by cases found

/-- What holds of all entries of a kind holds after a statement, if it holds of the entries that
the blocks of the kind declare and is kept when they amend. -/
theorem forall_part_declare {β α : Type} {kind : EntryKind β α} {block? : Option β}
    {Holds : String → α → Prop} {role : FileRole} {before after : SortedMap α}
    (step : after = block?.elim before (kind.bring role before))
    (fresh : ∀ block, Holds (kind.key block) (kind.fresh block))
    (amended : ∀ block entry, Holds (kind.key block) entry →
      Holds (kind.key block) (kind.amend block entry))
    (held : ∀ key entry, before.get? key = some entry → Holds key entry) :
    ∀ key entry, after.get? key = some entry → Holds key entry := by
  subst step
  cases block? with
  | none => exact held
  | some block => exact kind.forall_get?_bring held (fresh block) (amended block)

theorem Coherent.declare {path : String} {m : Module} (coherent : m.Coherent path)
    (role : FileRole) (statement : Statement) : (m.declare role statement).Coherent path where
  path_eq := (path_declare role m statement).trans coherent.path_eq
  inputs := by
    refine forall_part_declare (inputs_declare role m statement) ?_ ?_ coherent.inputs
    · intro block
      rw [EntryKind.inputVariable_fresh]
      refine ⟨rfl, ?_⟩
      simp [Json.Members.has]
    · intro block v belongs
      rw [EntryKind.inputVariable_amend]
      refine ⟨belongs.1, ?_⟩
      -- A block without a default leaves both the default and `required` as they were.
      cases given : block.body.get? "default" with
      | none => simpa [Json.Members.has, given] using belongs.2
      | some value => simp [Json.Members.has, given]
  outputs := by
    refine forall_part_declare (outputs_declare role m statement) ?_ ?_ coherent.outputs
    · intro block
      rfl
    · intro block o named
      exact named
  resources mode := by
    refine forall_part_declare (resourcesOf_declare mode role m statement) ?_ ?_
      (coherent.resources mode)
    · intro block
      exact ⟨rfl, rfl⟩
    · intro block r belongs
      exact belongs
  moduleCalls := by
    refine forall_part_declare (moduleCalls_declare role m statement) ?_ ?_ coherent.moduleCalls
    · intro block
      rfl
    · intro block c named
      exact named

end Module

/-- A module is coherent after any sequence of files, and keeps the path that it was made with. -/
theorem coherent_decodeAll (path : String) (files : List (FileRole × ParsedFile)) :
    ((Module.new path).decodeAll files).Coherent path :=
  Module.decodeAll_induction (Module.Coherent path)
    (fun role _ statement coherent => coherent.declare role statement) files
    (Module.coherent_new path)

end ModuleSurvey
