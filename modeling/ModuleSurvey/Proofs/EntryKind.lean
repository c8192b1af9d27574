import ModuleSurvey.Module.Declare

/-! # Kinds of entries

A module keeps the entries of each kind in a map, and every block of the kind brings one entry
into it: in a primary file the fresh entry takes the place of an earlier one, in an override file
the block amends an earlier entry.

* `EntryKind` — the key of a block, the entry that it declares, and what it makes of an entry that
  is there already; `EntryKind.bring` is the map after the block.
* `forall_get?_bring` — what holds of all entries of a map still holds after one more block.
* `get?_primaries_then_overrides` — the look-up after the blocks of primary files and then those of
  override files.
* `part_amendAll_fresh` — which block a part of an entry has its value from.
-/

namespace ModuleSurvey

/-- How the blocks of a kind declare and amend entries. -/
structure EntryKind (β α : Type) where
  key : β → String
  fresh : β → α
  amend : β → α → α

namespace EntryKind

variable {β α : Type} (kind : EntryKind β α)

def bring (role : FileRole) (map : SortedMap α) (block : β) : SortedMap α :=
  (map.declare role (kind.key block) (kind.fresh block) (kind.amend block)).1

def under (key : String) (blocks : List β) : List β :=
  blocks.filter fun block => kind.key block = key

def amendAll (entry : α) (blocks : List β) : α :=
  blocks.foldl (fun entry block => kind.amend block entry) entry

/-! ## One block -/

theorem get?_bring_ne {role : FileRole} {map : SortedMap α} {block : β} {key : String}
    (different : key ≠ kind.key block) :
    (kind.bring role map block).get? key = map.get? key := by
  unfold bring SortedMap.declare
  split <;> exact SortedMap.get?_insert_ne _ different _

theorem bring_primary (map : SortedMap α) (block : β) :
    kind.bring .primary map block = map.insert (kind.key block) (kind.fresh block) := by
  unfold bring SortedMap.declare
  cases map.get? (kind.key block) <;> rfl

theorem get?_bring_primary (map : SortedMap α) (block : β) :
    (kind.bring .primary map block).get? (kind.key block) = some (kind.fresh block) := by
  rw [bring_primary, SortedMap.get?_insert_self]

theorem get?_bring_override (map : SortedMap α) (block : β) :
    (kind.bring .override map block).get? (kind.key block) =
      some (((map.get? (kind.key block)).map (kind.amend block)).getD (kind.fresh block)) := by
  unfold bring SortedMap.declare
  split <;> simp_all

/-- A property of keys and entries that fresh entries have and amending keeps is kept by a map. -/
theorem forall_get?_bring {Holds : String → α → Prop} {role : FileRole} {map : SortedMap α}
    {block : β} (before : ∀ key entry, map.get? key = some entry → Holds key entry)
    (fresh : Holds (kind.key block) (kind.fresh block))
    (amended : ∀ entry, Holds (kind.key block) entry →
      Holds (kind.key block) (kind.amend block entry))
    (key : String) (entry : α) (found : (kind.bring role map block).get? key = some entry) :
    Holds key entry := by
  -- Only the entry under the key of the block can be another one than before.
  by_cases same : key = kind.key block
  · subst same
    cases role with
    | primary =>
      rw [get?_bring_primary] at found
      cases found
      exact fresh
    | override =>
      rw [get?_bring_override] at found
      cases base : map.get? (kind.key block) with
      | none =>
        rw [base] at found
        cases found
        exact fresh
      | some earlier =>
        rw [base] at found
        cases found
        exact amended earlier (before _ _ base)
  · rw [kind.get?_bring_ne same] at found
    exact before key entry found

/-! ## Sequences of blocks -/

theorem under_cons_of_eq {key : String} {block : β} {blocks : List β} (same : kind.key block = key) :
    kind.under key (block :: blocks) = block :: kind.under key blocks := by
  simp [under, same]

theorem under_cons_of_ne {key : String} {block : β} {blocks : List β}
    (different : kind.key block ≠ key) :
    kind.under key (block :: blocks) = kind.under key blocks := by
  simp [under, different]

/-- Of the blocks of primary files the last one counts. -/
theorem get?_foldl_primary (blocks : List β) (map : SortedMap α) (key : String) :
    (blocks.foldl (kind.bring .primary) map).get? key =
      ((kind.under key blocks).getLast?.map kind.fresh).or (map.get? key) := by
  induction blocks generalizing map with
  | nil => rfl
  | cons block blocks inductionHypothesis =>
    rw [List.foldl_cons, inductionHypothesis]
    by_cases same : kind.key block = key
    · -- The block counts only where no later block has its key.
      rw [kind.under_cons_of_eq same, List.getLast?_cons]
      subst same
      rw [get?_bring_primary]
      cases (kind.under (kind.key block) blocks).getLast? <;> rfl
    · rw [kind.under_cons_of_ne same, kind.get?_bring_ne (Ne.symm same)]

/-- The blocks of override files amend an entry that is there in their order. -/
theorem get?_foldl_override_of_some {map : SortedMap α} {key : String} {base : α}
    (blocks : List β) (found : map.get? key = some base) :
    (blocks.foldl (kind.bring .override) map).get? key =
      some (kind.amendAll base (kind.under key blocks)) := by
  induction blocks generalizing map base with
  | nil => exact found
  | cons block blocks inductionHypothesis =>
    rw [List.foldl_cons]
    by_cases same : kind.key block = key
    · have amended : (kind.bring .override map block).get? key = some (kind.amend block base) := by
        subst same
        rw [get?_bring_override, found]
        rfl
      rw [inductionHypothesis amended, kind.under_cons_of_eq same]
      rfl
    · rw [inductionHypothesis ((kind.get?_bring_ne (Ne.symm same)).trans found),
        kind.under_cons_of_ne same]

/-- Where there is no entry, the first block of an override file declares it, and the others amend
it. -/
theorem get?_foldl_override_of_none {map : SortedMap α} {key : String} (blocks : List β)
    (missing : map.get? key = none) :
    (blocks.foldl (kind.bring .override) map).get? key =
      match kind.under key blocks with
      | [] => none
      | block :: more => some (kind.amendAll (kind.fresh block) more) := by
  induction blocks generalizing map with
  | nil => exact missing
  | cons block blocks inductionHypothesis =>
    rw [List.foldl_cons]
    by_cases same : kind.key block = key
    · have declared : (kind.bring .override map block).get? key = some (kind.fresh block) := by
        subst same
        rw [get?_bring_override, missing]
        rfl
      rw [kind.get?_foldl_override_of_some blocks declared, kind.under_cons_of_eq same]
    · rw [inductionHypothesis ((kind.get?_bring_ne (Ne.symm same)).trans missing),
        kind.under_cons_of_ne same]

/-! ## Which block decides -/

/-- The block that an entry goes back to: the last one of the primary files, or the first one of
the override files where the primary files have none. -/
def base? (primaries overrides : List β) : Option β := primaries.getLast?.or overrides.head?

/-- The block that decides about a part of an entry: the last later one that speaks of it, or else
the block that the entry goes back to. -/
def deciding (speaks : β → Bool) (base : β) (later : List β) : β :=
  (later.filter speaks).getLast?.getD base

/-- A map filled by primary files and then by override files. That a block leaves its own entry as
it is lets the first override block stand in for a missing base. -/
theorem get?_primaries_then_overrides
    (settled : ∀ block, kind.amend block (kind.fresh block) = kind.fresh block)
    (primaries overrides : List β) (key : String) :
    (overrides.foldl (kind.bring .override) (primaries.foldl (kind.bring .primary) ∅)).get? key =
      (base? (kind.under key primaries) (kind.under key overrides)).map fun base =>
        kind.amendAll (kind.fresh base) (kind.under key overrides) := by
  have declared := kind.get?_foldl_primary primaries ∅ key
  unfold base?
  cases last : (kind.under key primaries).getLast? with
  | some base =>
    rw [last] at declared
    rw [kind.get?_foldl_override_of_some overrides declared]
    rfl
  | none =>
    rw [last] at declared
    rw [kind.get?_foldl_override_of_none overrides declared]
    cases kind.under key overrides with
    | nil => rfl
    | cons block more =>
      -- The block may amend the entry that it declares: `settled` says that nothing changes.
      simp only [amendAll, List.foldl_cons, settled, List.head?_cons, Option.none_or,
        Option.map_some]

theorem isSome_base? {primaries overrides : List β} :
    (base? primaries overrides).isSome = true ↔ primaries ≠ [] ∨ overrides ≠ [] := by
  cases primaries with
  | nil => cases overrides <;> simp [base?]
  | cons _ _ => simp [base?, List.getLast?_cons]

/-- A part that each block either sets or leaves alone has its value from the block that
decides. -/
theorem part_amendAll {γ : Type} (part : α → γ) (own : β → γ) (speaks : β → Bool)
    (amended : ∀ block entry,
      part (kind.amend block entry) = if speaks block then own block else part entry)
    (entry : α) (blocks : List β) :
    part (kind.amendAll entry blocks) =
      ((blocks.filter speaks).getLast?.map own).getD (part entry) := by
  induction blocks generalizing entry with
  | nil => rfl
  | cons block blocks inductionHypothesis =>
    have step : kind.amendAll entry (block :: blocks) =
        kind.amendAll (kind.amend block entry) blocks := rfl
    rw [step, inductionHypothesis, amended]
    by_cases spoken : speaks block
    · -- What this block sets is seen only where no later block speaks.
      rw [List.filter_cons_of_pos spoken, List.getLast?_cons, if_pos spoken]
      cases (blocks.filter speaks).getLast? <;> rfl
    · rw [List.filter_cons_of_neg spoken, if_neg spoken]

theorem part_amendAll_fresh {γ : Type} (part : α → γ) (own : β → γ) (speaks : β → Bool)
    (declared : ∀ block, part (kind.fresh block) = own block)
    (amended : ∀ block entry,
      part (kind.amend block entry) = if speaks block then own block else part entry)
    (base : β) (later : List β) :
    part (kind.amendAll (kind.fresh base) later) = own (deciding speaks base later) := by
  rw [kind.part_amendAll part own speaks amended, declared, deciding]
  cases (later.filter speaks).getLast? <;> rfl

theorem part_amendAll_of_kept {γ : Type} (part : α → γ)
    (kept : ∀ block entry, part (kind.amend block entry) = part entry) (entry : α)
    (blocks : List β) : part (kind.amendAll entry blocks) = part entry := by
  induction blocks generalizing entry with
  | nil => rfl
  | cons block blocks inductionHypothesis => exact (inductionHypothesis _).trans (kept block entry)

end EntryKind

end ModuleSurvey
