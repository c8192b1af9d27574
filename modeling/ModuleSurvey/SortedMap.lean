/-! # Maps in key order

A map from strings whose entries are kept in the byte order of their keys, which is the order in
which everything that is printed from a map appears.

* `SortedMap` — the entries, and the proof that their keys increase; so two maps with the same
  look-ups are the same map.
* `get?`, `contains`, `insert`, `ofList` — look-up and writing; the last write of a key wins.
* `keys`, `values`, `size` — views.
-/

namespace ModuleSurvey

universe u v

/-- A finite map from strings, its entries in increasing order of their keys. -/
structure SortedMap (α : Type u) where
  entries : List (String × α)
  sorted : entries.Pairwise fun a b => a.1 < b.1
  deriving DecidableEq

namespace SortedMap

variable {α : Type u} {β : Type v}

/-! ## Entry lists -/

def insertEntry (key : String) (value : α) : List (String × α) → List (String × α)
  | [] => [(key, value)]
  | (k, a) :: rest =>
    if key < k then (key, value) :: (k, a) :: rest
    else if key = k then (key, value) :: rest
    else (k, a) :: insertEntry key value rest

def lookupEntry (key : String) : List (String × α) → Option α
  | [] => none
  | (k, a) :: rest => if key = k then some a else lookupEntry key rest

theorem mem_insertEntry {key : String} {value : α} {e : String × α} {l : List (String × α)} :
    e ∈ insertEntry key value l → e = (key, value) ∨ e ∈ l := by
  induction l with
  | nil => simp [insertEntry]
  | cons hd tl ih =>
    obtain ⟨k, a⟩ := hd
    rw [insertEntry]
    split <;> (try split) <;> grind

theorem sorted_insertEntry (key : String) (value : α) {l : List (String × α)}
    (h : l.Pairwise fun a b => a.1 < b.1) :
    (insertEntry key value l).Pairwise fun a b => a.1 < b.1 := by
  induction l with
  | nil => simp [insertEntry]
  | cons hd tl ih =>
    obtain ⟨k, a⟩ := hd
    obtain ⟨hk, ht⟩ := List.pairwise_cons.1 h
    rw [insertEntry]
    split
    case isTrue lt =>
      exact List.pairwise_cons.2 ⟨fun e he => by
        rcases List.mem_cons.1 he with rfl | he
        · exact lt
        · exact String.lt_trans lt (hk e he), h⟩
    case isFalse nlt =>
      split
      case isTrue eq => exact List.pairwise_cons.2 ⟨fun e he => eq ▸ hk e he, ht⟩
      case isFalse ne =>
        refine List.pairwise_cons.2 ⟨fun e he => ?_, ih ht⟩
        rcases mem_insertEntry he with rfl | he
        · exact Std.lt_of_le_of_ne (Std.not_lt.1 nlt) (Ne.symm ne)
        · exact hk e he

@[simp] theorem lookupEntry_insertEntry_self (key : String) (value : α) (l : List (String × α)) :
    lookupEntry key (insertEntry key value l) = some value := by
  induction l with
  | nil => simp [insertEntry, lookupEntry]
  | cons hd tl ih =>
    obtain ⟨k, a⟩ := hd
    rw [insertEntry]
    split
    · simp [lookupEntry]
    · split
      · simp [lookupEntry]
      · simp [lookupEntry, *]

theorem lookupEntry_insertEntry_ne {key other : String} (h : other ≠ key) (value : α)
    (l : List (String × α)) :
    lookupEntry other (insertEntry key value l) = lookupEntry other l := by
  induction l with
  | nil => simp [insertEntry, lookupEntry, h]
  | cons hd tl ih =>
    obtain ⟨k, a⟩ := hd
    rw [insertEntry]
    split
    · simp [lookupEntry, h]
    · split
      · subst_vars; simp [lookupEntry, h]
      · simp [lookupEntry, ih]

/-! ## The map -/

def empty : SortedMap α := ⟨[], .nil⟩

instance : EmptyCollection (SortedMap α) := ⟨empty⟩
instance : Inhabited (SortedMap α) := ⟨empty⟩

def get? (m : SortedMap α) (key : String) : Option α :=
  lookupEntry key m.entries

def contains (m : SortedMap α) (key : String) : Bool :=
  (m.get? key).isSome

def insert (m : SortedMap α) (key : String) (value : α) : SortedMap α :=
  ⟨insertEntry key value m.entries, sorted_insertEntry key value m.sorted⟩

/-- The map of a list of entries, written from left to right. -/
def ofList (l : List (String × α)) : SortedMap α :=
  l.foldl (fun m e => m.insert e.1 e.2) empty

def keys (m : SortedMap α) : List String := m.entries.map (·.1)

def values (m : SortedMap α) : List α := m.entries.map (·.2)

def size (m : SortedMap α) : Nat := m.entries.length

def isEmpty (m : SortedMap α) : Bool := m.entries.isEmpty

@[simp] theorem get?_insert_self (m : SortedMap α) (key : String) (value : α) :
    (m.insert key value).get? key = some value := by
  simp [get?, insert]

theorem get?_insert_ne (m : SortedMap α) {key other : String} (h : other ≠ key) (value : α) :
    (m.insert key value).get? other = m.get? other := by
  simp [get?, insert, lookupEntry_insertEntry_ne h]

theorem get?_insert (m : SortedMap α) (key other : String) (value : α) :
    (m.insert key value).get? other = if other = key then some value else m.get? other := by
  by_cases h : other = key
  · subst h; simp
  · simp [h, get?_insert_ne m h]

end SortedMap

end ModuleSurvey
