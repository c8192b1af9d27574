import ModuleSurvey.Provider
import ModuleSurvey.Proofs.SortedMap

/-! # Aliases that were added one by one

However the aliases of the providers came together, each provider that has an entry has an alias,
and none twice, so nothing is lost where they are added once more to nothing.

* `addNew` — putting an item behind a list that does not hold it; `addNew_comm`: in which order is of
  no concern.
* `ProviderAliases.Knows` — that an alias was recorded, and `knows_add`: adding records that alias
  and forgets none.
* `ProviderAliases.Built` — the aliases that can come together.
* `ProviderAliases.Built.distinct` — what they have in common.
* `ProviderAliases.ofMap_byName` — adding them once more.
-/

namespace ModuleSurvey

/-! ## Lists without repetition -/

section

variable {α : Type} [DecidableEq α] {l : List α} {a : Option α}

/-- Puts an item, if there is one, behind a list that does not hold it. -/
def addNew (l : List α) : Option α → List α
  | none => l
  | some a => if a ∈ l then l else l ++ [a]

theorem mem_addNew {b : α} : b ∈ addNew l a ↔ a = some b ∨ b ∈ l := by
  cases a with
  | none => simp [addNew]
  | some a =>
    unfold addNew
    by_cases again : a ∈ l
    · have absorbed : a = b ∨ b ∈ l ↔ b ∈ l := or_iff_right_of_imp fun same => same ▸ again
      simp [again, absorbed]
    · simp [again, or_comm, eq_comm]

theorem nodup_addNew (distinct : l.Nodup) : (addNew l a).Nodup := by
  cases a with
  | none => exact distinct
  | some a =>
    simp only [addNew]
    split
    case isTrue again => exact distinct
    case isFalse fresh =>
      refine List.nodup_append.2 ⟨distinct, by simp, ?_⟩
      rintro other isHeld _ (_ | ⟨_, ⟨⟩⟩) rfl
      exact fresh isHeld

theorem addNew_perm {k : List α} (perm : l.Perm k) (a : Option α) :
    (addNew l a).Perm (addNew k a) := by
  cases a with
  | none => exact perm
  | some a =>
    simp only [addNew, perm.mem_iff]
    split
    case isTrue _ => exact perm
    case isFalse _ => exact perm.append_right [a]

theorem addNew_comm (l : List α) (a b : Option α) :
    (addNew (addNew l a) b).Perm (addNew (addNew l b) a) := by
  cases a with
  | none => exact .refl _
  | some a =>
    cases b with
    | none => exact .refl _
    | some b =>
      by_cases same : a = b
      · subst same
        exact .refl _
      · have swapped : (l ++ [a, b]).Perm (l ++ [b, a]) := (List.Perm.swap b a []).append_left l
        by_cases holdsFirst : a ∈ l <;> by_cases holdsSecond : b ∈ l <;>
          simp [addNew, holdsFirst, holdsSecond, same, Ne.symm same, swapped]

end

namespace ProviderAliases

def known (a : ProviderAliases) (provider : String) : List String := (a.get? provider).getD []

theorem get?_add (a : ProviderAliases) (provider aliasName other : String) :
    (a.add provider aliasName).get? other =
      if other = provider then some (addNew (a.known provider) (some aliasName))
      else a.get? other := by
  have written : ∀ known, (⟨a.byName.insert provider known⟩ : ProviderAliases).get? other =
      if other = provider then some known else a.get? other :=
    fun known => SortedMap.get?_insert a.byName provider other known
  unfold add known addNew
  cases found : a.get? provider with
  | none => simp [written]
  | some known =>
    by_cases again : aliasName ∈ known
    · -- Nothing is written, and the entry of the provider is the one that was found.
      by_cases same : other = provider <;> simp [again, same, found]
    · simp [again, written]

theorem known_add (a : ProviderAliases) (provider aliasName other : String) :
    (a.add provider aliasName).known other =
      addNew (a.known other) (if provider = other then some aliasName else none) := by
  unfold known
  rw [get?_add]
  by_cases same : provider = other
  · simp [same, known]
  · simp [same, Ne.symm same, addNew]

theorem contains_add {a : ProviderAliases} {provider aliasName other : String} :
    (a.add provider aliasName).contains other = true ↔ other = provider ∨ a.contains other = true := by
  have asLookup : ∀ b : ProviderAliases, b.contains other = (b.get? other).isSome := fun _ => rfl
  rw [asLookup, asLookup, get?_add]
  by_cases same : other = provider <;> simp [same]

/-- Whether the alias that a reference names was recorded for the provider that it names. -/
def Knows (a : ProviderAliases) (r : ProviderRef) : Prop :=
  ∃ known, a.get? r.name = some known ∧ r.aliasName ∈ known

theorem knows_iff {a : ProviderAliases} {r : ProviderRef} :
    a.Knows r ↔ r.aliasName ∈ a.known r.name := by
  unfold Knows known
  cases a.get? r.name <;> simp

theorem knows_add {a : ProviderAliases} {provider aliasName : String} {r : ProviderRef} :
    (a.add provider aliasName).Knows r ↔ r = ⟨provider, aliasName⟩ ∨ a.Knows r := by
  obtain ⟨name, ownAlias⟩ := r
  rw [knows_iff, knows_iff, known_add, mem_addNew]
  by_cases same : provider = name <;> simp [same, Ne.symm, eq_comm]

theorem not_knows_empty (r : ProviderRef) : ¬ (∅ : ProviderAliases).Knows r := by
  rintro ⟨known, found, member⟩
  cases found

inductive Built : ProviderAliases → Prop
  | empty : Built empty
  | add {a : ProviderAliases} (built : Built a) (provider aliasName : String) :
      Built (a.add provider aliasName)

theorem Built.distinct_of_get? {a : ProviderAliases} (built : Built a) :
    ∀ {provider : String} {aliases : List String}, a.get? provider = some aliases →
      aliases ≠ [] ∧ aliases.Nodup := by
  induction built with
  | empty => rintro provider aliases ⟨⟩
  | @add a _ added aliasName inductionHypothesis =>
    intro provider aliases found
    rw [get?_add] at found
    split at found
    case isTrue same =>
      cases found
      have distinct : (a.known added).Nodup := by
        unfold known
        cases before : a.get? added with
        | none => exact .nil
        | some earlier => exact (inductionHypothesis before).2
      have held : aliasName ∈ addNew (a.known added) (some aliasName) := mem_addNew.2 (.inl rfl)
      exact ⟨List.ne_nil_of_mem held, nodup_addNew distinct⟩
    case isFalse different => exact inductionHypothesis found

theorem Built.distinct {a : ProviderAliases} (built : Built a) :
    ∀ entry ∈ a.byName.entries, entry.2 ≠ [] ∧ entry.2.Nodup :=
  fun _ member => built.distinct_of_get? (SortedMap.mem_entries_iff.1 member)

/-! ## Adding once more -/

theorem entries_addAll {a : ProviderAliases} {provider : String} {known aliases : List String}
    {before : List (String × List String)} (above : ∀ entry ∈ before, entry.1 < provider)
    (begun : a.byName.entries = before ++ [(provider, known)])
    (distinct : (known ++ aliases).Nodup) :
    (aliases.foldl (fun a aliasName => a.add provider aliasName) a).byName.entries =
      before ++ [(provider, known ++ aliases)] := by
  induction aliases generalizing a known with
  | nil => simpa using begun
  | cons aliasName aliases inductionHypothesis =>
    have found : a.get? provider = some known := by
      simp [get?, SortedMap.get?, begun, SortedMap.lookupEntry_append_of_lt above, SortedMap.lookupEntry]
    have fresh : ¬ known.contains aliasName = true := by
      intro again
      have isKnown : aliasName ∈ known := by simpa using again
      exact (List.nodup_append.1 distinct).2.2 _ isKnown _ (by simp) rfl
    have added : (a.add provider aliasName).byName.entries =
        before ++ [(provider, known ++ [aliasName])] := by
      simp only [add, found, if_neg fresh, SortedMap.insert, begun,
        SortedMap.insertEntry_append_self known _ above]
    rw [List.foldl_cons, inductionHypothesis added (by simpa using distinct)]
    simp

theorem entries_addAll_of_lt {a : ProviderAliases} {provider : String} {aliases : List String}
    (above : ∀ entry ∈ a.byName.entries, entry.1 < provider) (given : aliases ≠ [])
    (distinct : aliases.Nodup) :
    (aliases.foldl (fun a aliasName => a.add provider aliasName) a).byName.entries =
      a.byName.entries ++ [(provider, aliases)] := by
  obtain ⟨first, more, rfl⟩ := List.exists_cons_of_ne_nil given
  have absent : a.get? provider = none := by
    have lookup := SortedMap.lookupEntry_append_of_lt above []
    simpa [get?, SortedMap.get?, SortedMap.lookupEntry] using lookup
  have begun : (a.add provider first).byName.entries = a.byName.entries ++ [(provider, [first])] := by
    simp only [add, absent, SortedMap.insert, SortedMap.insertEntry_of_lt above]
  exact entries_addAll above begun distinct

theorem entries_foldl_addAll {entries : List (String × List String)} {a : ProviderAliases}
    (sorted : (a.byName.entries ++ entries).Pairwise fun a b => a.1 < b.1)
    (distinct : ∀ entry ∈ entries, entry.2 ≠ [] ∧ entry.2.Nodup) :
    (entries.foldl (fun a e => e.2.foldl (fun a aliasName => a.add e.1 aliasName) a) a).byName.entries =
      a.byName.entries ++ entries := by
  induction entries generalizing a with
  | nil => simp
  | cons head tail inductionHypothesis =>
    obtain ⟨given, once⟩ := distinct head (by simp)
    have above : ∀ entry ∈ a.byName.entries, entry.1 < head.1 :=
      fun entry member => (List.pairwise_append.1 sorted).2.2 entry member head (by simp)
    have added := entries_addAll_of_lt above given once
    rw [List.foldl_cons, inductionHypothesis (by simpa [added] using sorted)
      fun entry member => distinct entry (List.mem_cons_of_mem _ member), added]
    simp

theorem ofMap_byName {a : ProviderAliases} (built : Built a) : ofMap a.byName = a := by
  have sorted : ((empty : ProviderAliases).byName.entries ++ a.byName.entries).Pairwise
      fun a b => a.1 < b.1 := a.byName.sorted
  have again := entries_foldl_addAll sorted built.distinct
  have sameMap : (ofMap a.byName).byName = a.byName := SortedMap.ext_entries again
  exact congrArg ProviderAliases.mk sameMap

end ProviderAliases

end ModuleSurvey
