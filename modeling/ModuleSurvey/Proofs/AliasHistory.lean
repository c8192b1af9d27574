import ModuleSurvey.Proofs.ByteOrder
import ModuleSurvey.Proofs.ProviderAliases
import Mathlib.Data.Finset.Card

/-! # Aliases and the calls that recorded them

The aliases of a provider are those that were recorded for it, each where it was first recorded.
What was recorded for other providers, before or in between, is of no concern.

* `ProviderAliases.addAll`, `ProviderAliases.addedFor` — a sequence of calls, and those for one
  provider.
* `ProviderAliases.known_addAll` — one provider after a sequence of calls.
* `ProviderAliases.ofMap_eq_addAll` — the aliases of a map are recorded by calls too.
* `ProviderAliases.get?_ofMap_addAll` — all look-ups, and what follows from them.
-/

namespace ModuleSurvey

theorem addNew_eraseDups {α : Type} [DecidableEq α] (l : List α) (a : α) :
    addNew l.eraseDups (some a) = (l ++ [a]).eraseDups := by
  rw [List.eraseDups_append]
  by_cases again : a ∈ l <;> simp [addNew, List.removeAll, again, List.eraseDups_cons]

theorem eraseDups_eq_nil_iff {α : Type} [DecidableEq α] {l : List α} :
    l.eraseDups = [] ↔ l = [] := by
  cases l with
  | nil => simp
  | cons a l => simp [List.eraseDups_cons]

namespace ProviderAliases

variable {a b : ProviderAliases}

/-! ## Calls -/

def addAll (a : ProviderAliases) (calls : List (String × String)) : ProviderAliases :=
  calls.foldl (fun a call => a.add call.1 call.2) a

def addedFor (provider : String) (calls : List (String × String)) : List String :=
  (calls.filter (·.1 = provider)).map (·.2)

@[simp] theorem addedFor_append (provider : String) (first more : List (String × String)) :
    addedFor provider (first ++ more) = addedFor provider first ++ addedFor provider more := by
  simp [addedFor]

theorem addedFor_cons (provider : String) (call : String × String)
    (calls : List (String × String)) :
    addedFor provider (call :: calls) =
      if call.1 = provider then call.2 :: addedFor provider calls else addedFor provider calls := by
  by_cases same : call.1 = provider <;> simp [addedFor, same]

theorem mem_addedFor {provider aliasName : String} {calls : List (String × String)} :
    aliasName ∈ addedFor provider calls ↔ (provider, aliasName) ∈ calls := by
  simp [addedFor]

theorem addedFor_filter (provider : String) (calls : List (String × String)) :
    addedFor provider (calls.filter (·.1 = provider)) = addedFor provider calls := by
  simp [addedFor]

theorem Built.addAll (built : a.Built) (calls : List (String × String)) : (a.addAll calls).Built :=
  List.foldlRecOn calls _ built fun _ built call _ => built.add call.1 call.2

theorem known_addAll {provider : String} {earlier : List String}
    (calls : List (String × String)) (before : a.known provider = earlier.eraseDups) :
    (a.addAll calls).known provider = (earlier ++ addedFor provider calls).eraseDups := by
  induction calls generalizing a earlier with
  | nil =>
    rw [addedFor, List.filter_nil, List.map_nil, List.append_nil]
    exact before
  | cons call calls inductionHypothesis =>
    have step := known_add a call.1 call.2 provider
    rw [before] at step
    rw [addedFor_cons]
    split
    case isTrue same =>
      rw [if_pos same, addNew_eraseDups] at step
      rw [List.append_cons]
      exact inductionHypothesis step
    case isFalse different =>
      rw [if_neg different] at step
      exact inductionHypothesis step

/-! ## Maps -/

def callsOf (m : SortedMap (List String)) : List (String × String) :=
  m.entries.flatMap fun entry => entry.2.map (entry.1, ·)

theorem ofMap_eq_addAll (m : SortedMap (List String)) : ofMap m = empty.addAll (callsOf m) := by
  simp only [ofMap, addAll, callsOf, List.foldl_flatMap, List.foldl_map]

theorem addedFor_callsOf (provider : String) (m : SortedMap (List String)) :
    addedFor provider (callsOf m) = (m.get? provider).getD [] := by
  obtain ⟨entries, sorted⟩ := m
  unfold callsOf SortedMap.get?
  dsimp only
  induction entries with
  | nil => rfl
  | cons entry entries inductionHypothesis =>
    obtain ⟨above, sortedRest⟩ := List.pairwise_cons.1 sorted
    have ofEntry : addedFor provider (entry.2.map (entry.1, ·)) =
        if entry.1 = provider then entry.2 else [] := by
      by_cases same : entry.1 = provider <;> simp [addedFor, List.filter_map, Function.comp_def, same]
    rw [List.flatMap_cons, addedFor_append, ofEntry, inductionHypothesis sortedRest,
      SortedMap.lookupEntry]
    by_cases same : entry.1 = provider
    · -- The entries behind this one have other keys.
      subst same
      rw [if_pos rfl, if_pos rfl, SortedMap.lookupEntry_of_lt above]
      simp
    · rw [if_neg same, if_neg (Ne.symm same), List.nil_append]

theorem Built.ofMap (m : SortedMap (List String)) : (ofMap m).Built := by
  rw [ofMap_eq_addAll]
  exact Built.empty.addAll (callsOf m)

theorem known_ofMap (provider : String) (m : SortedMap (List String)) :
    (ofMap m).known provider = ((m.get? provider).getD []).eraseDups := by
  rw [ofMap_eq_addAll, ← addedFor_callsOf]
  have start : empty.known provider = ([] : List String).eraseDups := rfl
  exact known_addAll (callsOf m) start

/-! ## Look-ups -/

theorem Built.get?_eq (built : a.Built) (provider : String) :
    a.get? provider = if a.known provider = [] then none else some (a.known provider) := by
  cases found : a.get? provider with
  | none => simp [known, found]
  | some aliases => simp [known, found, (built.distinct_of_get? found).1]

theorem Built.ext (built : a.Built) (builtOther : b.Built)
    (same : ∀ provider, a.known provider = b.known provider) : a = b := by
  have sameMap : a.byName = b.byName := by
    apply SortedMap.ext_get?
    intro provider
    have lookup := built.get?_eq provider
    rw [same, ← builtOther.get?_eq provider] at lookup
    exact lookup
  exact congrArg ProviderAliases.mk sameMap

theorem contains_iff_get? {provider : String} :
    a.contains provider = true ↔ (a.get? provider).isSome = true := Iff.rfl

theorem mem_toList_iff {entry : String × List String} :
    entry ∈ a.toList ↔ a.get? entry.1 = some entry.2 :=
  SortedMap.mem_entries_iff

theorem add_of_mem {provider aliasName : String} (member : aliasName ∈ a.known provider) :
    a.add provider aliasName = a := by
  unfold known at member
  unfold add
  cases found : a.get? provider with
  | none => simp [found] at member
  | some aliases => simp_all

/-! ## A map and calls -/

/-- The aliases that are recorded for a provider, first by a map and then by calls. -/
def recordedFor (initial : SortedMap (List String)) (calls : List (String × String))
    (provider : String) : List String :=
  (initial.get? provider).getD [] ++ addedFor provider calls

section

variable (initial : SortedMap (List String)) (calls : List (String × String))

theorem built_ofMap_addAll : ((ofMap initial).addAll calls).Built :=
  (Built.ofMap initial).addAll calls

theorem known_ofMap_addAll (provider : String) :
    ((ofMap initial).addAll calls).known provider =
      (recordedFor initial calls provider).eraseDups :=
  known_addAll calls (known_ofMap provider initial)

theorem get?_ofMap_addAll (provider : String) :
    ((ofMap initial).addAll calls).get? provider =
      if recordedFor initial calls provider = [] then none
      else some (recordedFor initial calls provider).eraseDups := by
  rw [(built_ofMap_addAll initial calls).get?_eq, known_ofMap_addAll]
  simp only [eraseDups_eq_nil_iff]

variable {initial calls}

theorem mem_toList_ofMap_addAll {entry : String × List String} :
    entry ∈ ((ofMap initial).addAll calls).toList ↔
      recordedFor initial calls entry.1 ≠ [] ∧
        entry.2 = (recordedFor initial calls entry.1).eraseDups := by
  rw [mem_toList_iff, get?_ofMap_addAll]
  by_cases none : recordedFor initial calls entry.1 = [] <;> simp [none, eq_comm]

theorem mem_keys_ofMap_addAll {provider : String} :
    provider ∈ ((ofMap initial).addAll calls).byName.keys ↔
      recordedFor initial calls provider ≠ [] := by
  rw [SortedMap.keys, List.mem_map]
  constructor
  · rintro ⟨entry, member, rfl⟩
    exact (mem_toList_ofMap_addAll.1 member).1
  · intro recorded
    exact ⟨(provider, (recordedFor initial calls provider).eraseDups),
      mem_toList_ofMap_addAll.2 ⟨recorded, rfl⟩, rfl⟩

theorem mem_providers_of_recorded {provider : String}
    (recorded : recordedFor initial calls provider ≠ []) :
    provider ∈ initial.keys ++ calls.map (·.1) := by
  obtain ⟨aliasName, member⟩ := List.exists_mem_of_ne_nil _ recorded
  rw [List.mem_append]
  rcases List.mem_append.1 member with before | added
  · cases found : initial.get? provider with
    | none => simp [found] at before
    | some aliases =>
      exact .inl (List.mem_map.2 ⟨(provider, aliases), SortedMap.mem_entries_iff.2 found, rfl⟩)
  · exact .inr (List.mem_map.2 ⟨_, mem_addedFor.1 added, rfl⟩)

variable (initial calls)

theorem size_ofMap_addAll :
    ((ofMap initial).addAll calls).size =
      {provider ∈ (initial.keys ++ calls.map (·.1)).toFinset |
        recordedFor initial calls provider ≠ []}.card := by
  have providers : ((ofMap initial).addAll calls).byName.keys.toFinset =
      {provider ∈ (initial.keys ++ calls.map (·.1)).toFinset |
        recordedFor initial calls provider ≠ []} := by
    ext provider
    rw [List.mem_toFinset, mem_keys_ofMap_addAll, Finset.mem_filter, List.mem_toFinset]
    exact ⟨fun recorded => ⟨mem_providers_of_recorded recorded, recorded⟩, And.right⟩
  rw [← providers, List.toFinset_card_of_nodup (SortedMap.nodup_keys _), SortedMap.keys,
    List.length_map]
  rfl

theorem isEmpty_ofMap_addAll_iff :
    ((ofMap initial).addAll calls).isEmpty = true ↔
      ∀ provider, recordedFor initial calls provider = [] := by
  have noEntry : ((ofMap initial).addAll calls).isEmpty = true ↔
      ((ofMap initial).addAll calls).toList = [] := List.isEmpty_iff
  rw [noEntry, ← List.map_eq_nil_iff, List.eq_nil_iff_forall_not_mem]
  exact forall_congr' fun provider => (not_congr mem_keys_ofMap_addAll).trans not_not

end

end ProviderAliases

open ProviderAliases (recordedFor addedFor)

/-- After a map is taken over and any calls are made, a provider has the aliases that the map and
the calls record for it, each where it is recorded first; and it has an entry exactly if there is such
an alias. All views of the aliases agree with that. So a call that was made already changes nothing,
and how the calls for different providers alternate does not matter. -/
theorem alias_bookkeeping (initial : SortedMap (List String)) (calls : List (String × String)) :
    let aliases := (ProviderAliases.ofMap initial).addAll calls
    let recorded := recordedFor initial calls
    (∀ provider, aliases.get? provider =
      if recorded provider = [] then none else some (recorded provider).eraseDups) ∧
    (∀ provider, aliases.contains provider = true ↔ recorded provider ≠ []) ∧
    (∀ entry, entry ∈ aliases.toList ↔
      recorded entry.1 ≠ [] ∧ entry.2 = (recorded entry.1).eraseDups) ∧
    aliases.toList.Pairwise (fun entry later => utf8Bytes entry.1 < utf8Bytes later.1) ∧
    aliases.size =
      {provider ∈ (initial.keys ++ calls.map (·.1)).toFinset | recorded provider ≠ []}.card ∧
    (aliases.isEmpty = true ↔ ∀ provider, recorded provider = []) ∧
    (∀ call ∈ calls, aliases.add call.1 call.2 = aliases) ∧
    (∀ provider, aliases.get? provider =
      ((ProviderAliases.ofMap initial).addAll (calls.filter (·.1 = provider))).get? provider) ∧
    ∀ others, (∀ provider, addedFor provider others = addedFor provider calls) →
      (ProviderAliases.ofMap initial).addAll others = aliases := by
  intro aliases recorded
  have lookup : ∀ provider, aliases.get? provider =
      if recorded provider = [] then none else some (recorded provider).eraseDups :=
    ProviderAliases.get?_ofMap_addAll initial calls
  refine ⟨lookup, ?_, fun _ => ProviderAliases.mem_toList_ofMap_addAll, ?_,
    ProviderAliases.size_ofMap_addAll initial calls,
    ProviderAliases.isEmpty_ofMap_addAll_iff initial calls, ?_, ?_, ?_⟩
  · intro provider
    rw [ProviderAliases.contains_iff_get?, lookup]
    by_cases none : recorded provider = [] <;> simp [none]
  · exact aliases.byName.sorted.imp lt_iff_utf8Bytes_lt.1
  · intro call member
    apply ProviderAliases.add_of_mem
    rw [ProviderAliases.known_ofMap_addAll, List.mem_eraseDups]
    exact List.mem_append_right _ (ProviderAliases.mem_addedFor.2 member)
  · intro provider
    have same : recordedFor initial (calls.filter (·.1 = provider)) provider = recorded provider := by
      simp only [recordedFor, recorded, ProviderAliases.addedFor_filter]
    rw [lookup, ProviderAliases.get?_ofMap_addAll, same]
  · intro others same
    apply (ProviderAliases.built_ofMap_addAll initial others).ext
      (ProviderAliases.built_ofMap_addAll initial calls)
    intro provider
    rw [ProviderAliases.known_ofMap_addAll, ProviderAliases.known_ofMap_addAll]
    simp only [recordedFor, same]

end ModuleSurvey
