import ModuleSurvey.SortedMap

/-! # Maps and the lists of their entries

A list of entries in the order of their keys and the map made from it hold the same entries, so
whatever writes out the entries of a map in order can be read back.

* `insertEntry_of_lt`, `insertEntry_append_self` — writing at the end of a list.
* `entries_ofList` — the entries of the map of a sorted list.
* `ofList_entries` — a map is the map of the list of its entries.
* `contains_insert`, `insert_of_get?` — the keys after a value is written, and writing once more
  what is there.
* `map` — a map with its values changed.
* `ext_get?`, `ext_getD`, `insert_comm` — maps with the same look-ups, and writing in either order.
* `erase`, `below`, `exists_entries_eq` — a map without a key, and the entries on both sides of it.
* `lastOfEach`, `entries_ofList_perm` — which of several entries with one key a map keeps.
* `lost`, `flatMap_perm_lost` — what the other ones had.
-/

namespace ModuleSurvey

universe u v

variable {α : Type u} {β : Type v}

namespace SortedMap

theorem insertEntry_append_of_lt {key : String} (value : α) {entries : List (String × α)}
    (above : ∀ entry ∈ entries, entry.1 < key) (more : List (String × α)) :
    insertEntry key value (entries ++ more) = entries ++ insertEntry key value more := by
  induction entries with
  | nil => rfl
  | cons head tail inductionHypothesis =>
    have headBelow := above head (by simp)
    have notBefore : ¬ key < head.1 :=
      fun before => String.lt_irrefl key (String.lt_trans before headBelow)
    have different : key ≠ head.1 := fun equal => String.lt_irrefl key (equal ▸ headBelow)
    rw [List.cons_append, insertEntry, if_neg notBefore, if_neg different,
      inductionHypothesis fun entry member => above entry (List.mem_cons_of_mem _ member)]
    rfl

theorem insertEntry_of_lt {key : String} {value : α} {entries : List (String × α)}
    (above : ∀ entry ∈ entries, entry.1 < key) :
    insertEntry key value entries = entries ++ [(key, value)] := by
  simpa [insertEntry] using insertEntry_append_of_lt value above []

theorem insertEntry_append_self {key : String} (old new : α) {entries : List (String × α)}
    (above : ∀ entry ∈ entries, entry.1 < key) :
    insertEntry key new (entries ++ [(key, old)]) = entries ++ [(key, new)] := by
  simpa [insertEntry] using insertEntry_append_of_lt new above [(key, old)]

theorem lookupEntry_append_of_lt {key : String} {entries : List (String × α)}
    (above : ∀ entry ∈ entries, entry.1 < key) (more : List (String × α)) :
    lookupEntry key (entries ++ more) = lookupEntry key more := by
  induction entries with
  | nil => rfl
  | cons head tail inductionHypothesis =>
    have different : key ≠ head.1 :=
      fun equal => String.lt_irrefl key (equal ▸ above head (by simp))
    rw [List.cons_append, lookupEntry, if_neg different]
    exact inductionHypothesis fun entry member => above entry (List.mem_cons_of_mem _ member)

theorem mem_of_lookupEntry {key : String} {value : α} {entries : List (String × α)}
    (found : lookupEntry key entries = some value) : (key, value) ∈ entries := by
  induction entries with
  | nil => cases found
  | cons head tail inductionHypothesis =>
    obtain ⟨k, a⟩ := head
    rw [lookupEntry] at found
    split at found
    case isTrue equal =>
      obtain rfl : a = value := by simpa using found
      simp [equal]
    case isFalse different => exact List.mem_cons_of_mem _ (inductionHypothesis found)

theorem lookupEntry_of_mem {key : String} {value : α} {entries : List (String × α)}
    (sorted : entries.Pairwise fun a b => a.1 < b.1) (member : (key, value) ∈ entries) :
    lookupEntry key entries = some value := by
  induction entries with
  | nil => cases member
  | cons head tail inductionHypothesis =>
    obtain ⟨below, sortedTail⟩ := List.pairwise_cons.1 sorted
    rcases List.mem_cons.1 member with rfl | member
    · exact if_pos rfl
    · have headBelow : head.1 < key := below _ member
      have different : key ≠ head.1 := fun equal => String.lt_irrefl key (equal ▸ headBelow)
      exact (if_neg different).trans (inductionHypothesis sortedTail member)

theorem mem_entries_iff {map : SortedMap α} {key : String} {value : α} :
    (key, value) ∈ map.entries ↔ map.get? key = some value :=
  ⟨lookupEntry_of_mem map.sorted, mem_of_lookupEntry⟩

theorem entries_foldl_insert (entries : List (String × α)) (start : SortedMap α)
    (sorted : (start.entries ++ entries).Pairwise fun a b => a.1 < b.1) :
    (entries.foldl (fun map entry => map.insert entry.1 entry.2) start).entries =
      start.entries ++ entries := by
  induction entries generalizing start with
  | nil => simp
  | cons head tail inductionHypothesis =>
    -- Each entry has a greater key than all before it, so it is written at the end.
    have inserted : (start.insert head.1 head.2).entries = start.entries ++ [head] :=
      insertEntry_of_lt fun entry member =>
        (List.pairwise_append.1 sorted).2.2 entry member head (by simp)
    rw [List.foldl_cons, inductionHypothesis _ (by simpa [inserted] using sorted), inserted]
    simp

theorem entries_ofList {entries : List (String × α)}
    (sorted : entries.Pairwise fun a b => a.1 < b.1) : (ofList entries).entries = entries :=
  entries_foldl_insert entries empty (by simpa [empty] using sorted)

theorem ext_entries : ∀ {a b : SortedMap α}, a.entries = b.entries → a = b
  | ⟨_, _⟩, ⟨_, _⟩, rfl => rfl

theorem ofList_entries (map : SortedMap α) : ofList map.entries = map :=
  ext_entries (entries_ofList map.sorted)

theorem nodup_keys (map : SortedMap α) : map.keys.Nodup := by
  refine List.pairwise_map.2 (map.sorted.imp ?_)
  intro entry later less same
  exact String.lt_irrefl _ (same ▸ less)

/-! ## Written values -/

theorem contains_iff {map : SortedMap α} {key : String} :
    map.contains key = true ↔ ∃ value, map.get? key = some value :=
  Option.isSome_iff_exists

theorem contains_insert {map : SortedMap α} {key other : String} {value : α} :
    (map.insert key value).contains other = true ↔ other = key ∨ map.contains other = true := by
  unfold contains
  rw [get?_insert]
  by_cases same : other = key <;> simp [same]

theorem insertEntry_of_lookupEntry {key : String} {value : α} {entries : List (String × α)}
    (sorted : entries.Pairwise fun a b => a.1 < b.1)
    (found : lookupEntry key entries = some value) : insertEntry key value entries = entries := by
  induction entries with
  | nil => cases found
  | cons head tail inductionHypothesis =>
    obtain ⟨k, a⟩ := head
    obtain ⟨below, sortedTail⟩ := List.pairwise_cons.1 sorted
    rw [lookupEntry] at found
    split at found
    case isTrue equal =>
      obtain rfl : a = value := by simpa using found
      simp [insertEntry, equal]
    case isFalse different =>
      -- The key stands further down, so it is neither before this entry nor at it.
      have headBelow : k < key := below _ (mem_of_lookupEntry found)
      have notBefore : ¬ key < k :=
        fun before => String.lt_irrefl key (String.lt_trans before headBelow)
      rw [insertEntry, if_neg notBefore, if_neg different, inductionHypothesis sortedTail found]

theorem insert_of_get? {map : SortedMap α} {key : String} {value : α}
    (found : map.get? key = some value) : map.insert key value = map :=
  ext_entries (insertEntry_of_lookupEntry map.sorted found)

/-! ## Changed values -/

def map (f : α → β) (m : SortedMap α) : SortedMap β :=
  ⟨m.entries.map fun entry => (entry.1, f entry.2), List.pairwise_map.2 m.sorted⟩

@[simp] theorem entries_map (f : α → β) (m : SortedMap α) :
    (m.map f).entries = m.entries.map fun entry => (entry.1, f entry.2) := rfl

theorem map_eq_self_iff {f : α → α} {m : SortedMap α} :
    m.map f = m ↔ ∀ a ∈ m.values, f a = a := by
  have sameEntries : m.map f = m ↔ (m.map f).entries = m.entries :=
    ⟨congrArg entries, ext_entries⟩
  have entrywise := List.map_inj_left (l := m.entries) (f := fun entry => (entry.1, f entry.2))
    (g := id)
  rw [List.map_id] at entrywise
  rw [sameEntries, entries_map, values, List.forall_mem_map, entrywise]
  simp [Prod.ext_iff]

/-! ## Maps with the same look-ups -/

theorem lookupEntry_of_lt {key : String} {entries : List (String × α)}
    (above : ∀ entry ∈ entries, key < entry.1) : lookupEntry key entries = none := by
  cases found : lookupEntry key entries with
  | none => rfl
  | some value =>
    exact absurd (above _ (mem_of_lookupEntry found)) (String.lt_irrefl key)

theorem not_lt_of_lookupEntry {key first : String} {value firstValue : α}
    {entries : List (String × α)}
    (sorted : ((first, firstValue) :: entries).Pairwise fun a b => a.1 < b.1)
    (found : lookupEntry key ((first, firstValue) :: entries) = some value) : ¬ key < first := by
  intro less
  have above : ∀ entry ∈ (first, firstValue) :: entries, key < entry.1 :=
    List.forall_mem_cons.2 ⟨less, fun entry member =>
      String.lt_trans less ((List.pairwise_cons.1 sorted).1 entry member)⟩
  rw [lookupEntry_of_lt above] at found
  cases found

theorem entries_eq_of_lookupEntry : ∀ {first second : List (String × α)},
    first.Pairwise (fun a b => a.1 < b.1) → second.Pairwise (fun a b => a.1 < b.1) →
    (∀ key, lookupEntry key first = lookupEntry key second) → first = second
  | [], [], _, _, _ => rfl
  | [], (key, value) :: second, _, _, same => by simpa [lookupEntry] using same key
  | (key, value) :: first, [], _, _, same => by simpa [lookupEntry] using same key
  | (key, value) :: first, (other, otherValue) :: second, sortedFirst, sortedSecond, same => by
    -- Each of the first keys is found in the other list, so neither is before the other.
    have foundSecond : lookupEntry key ((other, otherValue) :: second) = some value :=
      (same key).symm.trans (if_pos rfl)
    have foundFirst : lookupEntry other ((key, value) :: first) = some otherValue :=
      (same other).trans (if_pos rfl)
    obtain rfl : key = other :=
      Std.le_antisymm (Std.not_lt.1 (not_lt_of_lookupEntry sortedFirst foundFirst))
        (Std.not_lt.1 (not_lt_of_lookupEntry sortedSecond foundSecond))
    obtain rfl : value = otherValue := by simpa [lookupEntry] using same key
    obtain ⟨above, sortedFirst⟩ := List.pairwise_cons.1 sortedFirst
    obtain ⟨aboveOther, sortedSecond⟩ := List.pairwise_cons.1 sortedSecond
    have sameRest : first = second := by
      refine entries_eq_of_lookupEntry sortedFirst sortedSecond fun sought => ?_
      by_cases atHead : sought = key
      · subst atHead
        rw [lookupEntry_of_lt above, lookupEntry_of_lt aboveOther]
      · simpa [lookupEntry, atHead] using same sought
    rw [sameRest]

theorem ext_get? {a b : SortedMap α} (same : ∀ key, a.get? key = b.get? key) : a = b :=
  ext_entries (entries_eq_of_lookupEntry a.sorted b.sorted same)

/-- Maps with the same keys and the same values, where a missing key counts as having `absent`. -/
theorem ext_getD (absent : α) {a b : SortedMap α}
    (sameKeys : ∀ key, a.contains key = true ↔ b.contains key = true)
    (sameValues : ∀ key, (a.get? key).getD absent = (b.get? key).getD absent) : a = b := by
  apply ext_get?
  intro key
  have keys := sameKeys key
  have values := sameValues key
  unfold contains at keys
  cases inFirst : a.get? key with
  | none =>
    cases inSecond : b.get? key with
    | none => rfl
    | some value => simp [inFirst, inSecond] at keys
  | some value =>
    cases inSecond : b.get? key with
    | none => simp [inFirst, inSecond] at keys
    | some other => simpa [inFirst, inSecond] using values

theorem insert_comm (map : SortedMap α) {key other : String} (different : key ≠ other)
    (value otherValue : α) :
    (map.insert key value).insert other otherValue =
      (map.insert other otherValue).insert key value := by
  apply ext_get?
  intro sought
  simp only [get?_insert]
  by_cases first : sought = key
  · subst first
    simp [different]
  · simp [first]

/-! ## Parts of a map -/

def erase (m : SortedMap α) (key : String) : SortedMap α :=
  ⟨m.entries.filter (·.1 ≠ key), m.sorted.filter _⟩

def below (m : SortedMap α) (key : String) : SortedMap α :=
  ⟨m.entries.filter (·.1 < key), m.sorted.filter _⟩

theorem exists_entries_eq {map : SortedMap α} {key : String} {value : α}
    (found : map.get? key = some value) :
    ∃ above, map.entries = (map.below key).entries ++ (key, value) :: above ∧
      (map.erase key).entries = (map.below key).entries ++ above ∧
      ∀ entry ∈ above, key < entry.1 := by
  obtain ⟨before, above, split⟩ := List.append_of_mem (mem_entries_iff.2 found)
  have sorted := map.sorted
  rw [split] at sorted
  obtain ⟨-, sortedRest, beforeAll⟩ := List.pairwise_append.1 sorted
  have aboveKey : ∀ entry ∈ above, key < entry.1 := (List.pairwise_cons.1 sortedRest).1
  have beforeKey : ∀ entry ∈ before, entry.1 < key :=
    fun entry member => beforeAll entry member _ List.mem_cons_self
  have notBelow : ∀ entry ∈ above, ¬ entry.1 < key :=
    fun entry member less => String.lt_irrefl key (String.lt_trans (aboveKey entry member) less)
  have beforeOther : ∀ entry ∈ before, entry.1 ≠ key :=
    fun entry member same => String.lt_irrefl key (same ▸ beforeKey entry member)
  have aboveOther : ∀ entry ∈ above, entry.1 ≠ key :=
    fun entry member same => String.lt_irrefl key (same ▸ aboveKey entry member)
  have isBelow : (map.below key).entries = before := by
    simp only [below, split, List.filter_append, List.filter_cons, String.lt_irrefl, decide_false,
      Bool.false_eq_true, if_false]
    rw [List.filter_eq_self.2 (by simpa using beforeKey),
      List.filter_eq_nil_iff.2 (by simpa using notBelow), List.append_nil]
  have isErased : (map.erase key).entries = before ++ above := by
    simp only [erase, split, List.filter_append, List.filter_cons, ne_eq, not_true, decide_false,
      Bool.false_eq_true, if_false]
    rw [List.filter_eq_self.2 (by simpa using beforeOther),
      List.filter_eq_self.2 (by simpa using aboveOther)]
  exact ⟨above, by rw [isBelow, split], by rw [isBelow, isErased], aboveKey⟩

/-! ## Entries with the same key -/

/-- The entries of a list that no later entry with their key hides. -/
def lastOfEach : List (String × α) → List (String × α)
  | [] => []
  | entry :: entries =>
    if (lookupEntry entry.1 entries).isSome then lastOfEach entries else entry :: lastOfEach entries

theorem lastOfEach_subset (entries : List (String × α)) : lastOfEach entries ⊆ entries := by
  induction entries with
  | nil => exact List.Subset.refl []
  | cons entry entries inductionHypothesis =>
    unfold lastOfEach
    split
    case isTrue hidden => exact List.subset_cons_of_subset entry inductionHypothesis
    case isFalse seen => exact List.cons_subset_cons entry inductionHypothesis

theorem isSome_lookupEntry_map (f : α → β) (key : String) (entries : List (String × α)) :
    (lookupEntry key (entries.map fun entry => (entry.1, f entry.2))).isSome =
      (lookupEntry key entries).isSome := by
  induction entries with
  | nil => rfl
  | cons entry entries inductionHypothesis =>
    simp only [List.map_cons, lookupEntry]
    split
    · rfl
    · exact inductionHypothesis

theorem lastOfEach_map (f : α → β) (entries : List (String × α)) :
    lastOfEach (entries.map fun entry => (entry.1, f entry.2)) =
      (lastOfEach entries).map fun entry => (entry.1, f entry.2) := by
  induction entries with
  | nil => rfl
  | cons entry entries inductionHypothesis =>
    simp only [List.map_cons, lastOfEach, isSome_lookupEntry_map, inductionHypothesis]
    split <;> rfl

/-- What entries lose when only the last one of each key stays: all that a hidden entry has, and
what the others lose by themselves. -/
def lost (whole part : String × α → List β) : List (String × α) → List β
  | [] => []
  | entry :: entries =>
    (if (lookupEntry entry.1 entries).isSome then whole entry else part entry)
      ++ lost whole part entries

theorem map_lost {γ : Type v} (f : β → γ) (whole part : String × α → List β)
    (entries : List (String × α)) :
    (lost whole part entries).map f =
      lost (fun entry => (whole entry).map f) (fun entry => (part entry).map f) entries := by
  induction entries with
  | nil => rfl
  | cons entry entries inductionHypothesis =>
    rw [lost, lost, List.map_append, inductionHypothesis]
    split <;> rfl

/-- What all entries have is what stays of the last ones of each key, and what is lost. -/
theorem flatMap_perm_lost {whole kept part : String × α → List β} {entries : List (String × α)}
    (parts : ∀ entry ∈ entries, (whole entry).Perm (kept entry ++ part entry)) :
    (entries.flatMap whole).Perm
      ((lastOfEach entries).flatMap kept ++ lost whole part entries) := by
  induction entries with
  | nil => exact List.Perm.refl []
  | cons entry entries inductionHypothesis =>
    obtain ⟨parted, later⟩ := List.forall_mem_cons.1 parts
    have rest := inductionHypothesis later
    rw [List.flatMap_cons, lastOfEach, lost]
    split
    case isTrue hidden =>
      exact (rest.append_left _).trans (List.perm_append_comm_assoc _ _ _)
    case isFalse seen =>
      rw [List.flatMap_cons, List.append_assoc]
      refine (parted.append rest).trans ?_
      rw [List.append_assoc]
      exact (List.perm_append_comm_assoc _ _ _).append_left _

theorem insertEntry_perm (key : String) (value : α) {entries : List (String × α)}
    (sorted : entries.Pairwise fun a b => a.1 < b.1) :
    (insertEntry key value entries).Perm ((key, value) :: entries.filter (·.1 ≠ key)) := by
  induction entries with
  | nil => exact List.Perm.refl _
  | cons head tail inductionHypothesis =>
    obtain ⟨k, a⟩ := head
    obtain ⟨below, sortedTail⟩ := List.pairwise_cons.1 sorted
    have tailKept : ∀ {least : String}, (∀ entry ∈ tail, least < entry.1) →
        tail.filter (·.1 ≠ least) = tail := fun above =>
      List.filter_eq_self.2 fun entry member =>
        decide_eq_true fun same => String.lt_irrefl _ (same ▸ above entry member)
    rw [insertEntry]
    split
    case isTrue before =>
      have above : ∀ entry ∈ tail, key < entry.1 := fun entry member =>
        String.lt_trans before (below entry member)
      have different : k ≠ key := fun same => String.lt_irrefl key (same ▸ before)
      rw [List.filter_cons_of_pos (by simpa using different), tailKept above]
    case isFalse notBefore =>
      split
      case isTrue same =>
        subst same
        rw [List.filter_cons_of_neg (by simp), tailKept below]
      case isFalse different =>
        rw [List.filter_cons_of_pos (by simpa using Ne.symm different)]
        exact ((inductionHypothesis sortedTail).cons _).trans (List.Perm.swap ..)

theorem entries_foldl_insert_perm (entries : List (String × α)) (start : SortedMap α) :
    (entries.foldl (fun map entry => map.insert entry.1 entry.2) start).entries.Perm
      (start.entries.filter (fun entry => (lookupEntry entry.1 entries).isNone)
        ++ lastOfEach entries) := by
  induction entries generalizing start with
  | nil =>
    have allKept : start.entries.filter (fun _ => true) = start.entries := by simp
    simp [lookupEntry, lastOfEach, allKept]
  | cons head tail inductionHypothesis =>
    have inserted := (insertEntry_perm head.1 head.2 start.sorted).filter
      fun entry => (lookupEntry entry.1 tail).isNone
    -- What stays of the entries before is what neither this entry hides nor a later one.
    have kept : (start.entries.filter (·.1 ≠ head.1)).filter
          (fun entry => (lookupEntry entry.1 tail).isNone) =
        start.entries.filter fun entry => (lookupEntry entry.1 (head :: tail)).isNone := by
      rw [List.filter_filter]
      refine List.filter_congr fun entry _ => ?_
      by_cases same : entry.1 = head.1 <;> simp [lookupEntry, same]
    refine (inductionHypothesis (start.insert head.1 head.2)).trans ?_
    refine (inserted.append_right _).trans ?_
    rw [List.filter_cons, kept, lastOfEach]
    cases lookupEntry head.1 tail with
    | none => exact List.perm_middle.symm
    | some later => exact List.Perm.refl _

theorem entries_ofList_perm (entries : List (String × α)) :
    (ofList entries).entries.Perm (lastOfEach entries) :=
  entries_foldl_insert_perm entries empty

theorem mem_of_mem_ofList {entries : List (String × α)} {entry : String × α}
    (member : entry ∈ (ofList entries).entries) : entry ∈ entries :=
  lastOfEach_subset entries ((entries_ofList_perm entries).subset member)

end SortedMap

end ModuleSurvey
