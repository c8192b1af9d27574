import ModuleSurvey.Proofs.Block
import ModuleSurvey.Proofs.Json.Written
import Mathlib.Data.List.Perm.Basic

/-! # Blocks behind repeated names

Where several members of an object have one name, only the last of them is read, and the blocks
behind the others are hidden. On every level the blocks that a text writes down are those that are
left when its value is settled, and the hidden ones.

* `Block.hiddenLeaves`, `Block.leaves_settled` — the hidden blocks below a value.
* `Block.ofBody`, `Block.hiddenOfBody`, `Block.ofBody_settled` — those of the body of a file.
* `Block.BodyShaped` — bodies in which all known types of blocks belong to the grammar.
-/

namespace ModuleSurvey.Block

open Json (Value Members)
open SortedMap (lost)

variable {count : Nat}

def settled (block : Block) : Block := ⟨block.labels, block.body.settled⟩

theorem map_settled_behind (labels : List String) (blocks : List Block) :
    (blocks.map (behind labels)).map settled = (blocks.map settled).map (behind labels) := by
  rw [List.map_map, List.map_map]
  rfl

/-! ## Below a value -/

mutual

/-- The leaves of a value that are hidden behind a later member with the name of one on the way to
them. -/
def hiddenLeaves : Nat → Value → List Block
  | count, .array vs => hiddenOfItems count vs
  | count + 1, .object ms => hiddenOfMembers count ms
  | _, _ => []

def hiddenOfItems (count : Nat) : List Value → List Block
  | [] => []
  | v :: vs => hiddenLeaves count v ++ hiddenOfItems count vs

def hiddenOfMembers (count : Nat) : List (String × Value) → List Block
  | [] => []
  | (label, v) :: ms =>
    -- Of a member that comes once more all leaves are hidden.
    (if (SortedMap.lookupEntry label ms).isSome then (leaves count v).map (behind [label])
      else (hiddenLeaves count v).map (behind [label]))
      ++ hiddenOfMembers count ms

end

theorem hiddenLeaves_array (vs : List Value) :
    hiddenLeaves count (.array vs) = vs.flatMap (hiddenLeaves count) := by
  rw [hiddenLeaves]
  induction vs with
  | nil => rw [hiddenOfItems]; rfl
  | cons v vs inductionHypothesis => rw [hiddenOfItems, inductionHypothesis, List.flatMap_cons]

theorem hiddenLeaves_object_succ (ms : Members) :
    hiddenLeaves (count + 1) (.object ms) =
      lost (fun e => (leaves count e.2).map (behind [e.1]))
        (fun e => (hiddenLeaves count e.2).map (behind [e.1])) ms := by
  rw [hiddenLeaves]
  induction ms with
  | nil => rw [hiddenOfMembers]; rfl
  | cons e ms inductionHypothesis => rw [hiddenOfMembers, inductionHypothesis, lost]

/-- What is written down below a value is what is left of it, and what is hidden. -/
theorem leaves_settled (count : Nat) (v : Value) :
    ((leaves count v).map settled).Perm
      (leaves count v.settled ++ (hiddenLeaves count v).map settled) := by
  induction v using Value.itemInduction generalizing count with
  | array vs items =>
    rw [leaves_array, hiddenLeaves_array, Value.settled_array, leaves_array, List.flatMap_map,
      List.map_flatMap, List.map_flatMap]
    have parted := List.Perm.flatMap_left vs fun v member => items v member count
    exact parted.trans (List.flatMap_append_perm vs _ _).symm
  | object ms members =>
    cases count with
    | zero => simp [Value.settled_object, leaves, hiddenLeaves, settled]
    | succ count =>
      rw [leaves_object_succ, hiddenLeaves_object_succ, Value.settled_object, leaves_object_succ,
        List.map_flatMap, SortedMap.map_lost]
      simp only [map_settled_behind]
      -- Each member has what stays of it under its name, which is the last of that name or not.
      have parts : ∀ e ∈ ms, (((leaves count e.2).map settled).map (behind [e.1])).Perm
          ((leaves count e.2.settled).map (behind [e.1])
            ++ ((hiddenLeaves count e.2).map settled).map (behind [e.1])) := fun e member => by
        rw [← List.map_append]
        exact (members e member count).map _
      have kept := ms.settled_perm.flatMap_right fun e => (leaves count e.2).map (behind [e.1])
      rw [List.flatMap_map] at kept
      exact (SortedMap.flatMap_perm_lost parts).trans (kept.symm.append_right _)
  | null | bool | number | string => simp [Value.settled, leaves, hiddenLeaves]

theorem mem_settled {ms : Members} {e : String × Value} (member : e ∈ ms.settled) :
    ∃ v, (e.1, v) ∈ ms ∧ v.settled = e.2 := by
  obtain ⟨written, isLast, rfl⟩ := List.mem_map.1 (ms.settled_perm.mem_iff.1 member)
  exact ⟨written.2, SortedMap.lastOfEach_subset ms isLast, rfl⟩

theorem Shaped.settled {v : Value} (shaped : Shaped count v) : Shaped count v.settled := by
  induction shaped with
  | body ms =>
    rw [Value.settled_object]
    exact .body _
  | labels _ members =>
    rw [Value.settled_object]
    refine .labels fun e member => ?_
    obtain ⟨v, written, isSettled⟩ := mem_settled member
    exact isSettled ▸ members _ written
  | list _ items =>
    rw [Value.settled_array]
    exact .list (List.forall_mem_map.2 items)

theorem length_labels_of_mem_leaves {v : Value} {block : Block} (leaf : block ∈ leaves count v) :
    block.labels.length = count := by
  induction v using Value.itemInduction generalizing count block with
  | array vs items =>
    rw [leaves_array] at leaf
    obtain ⟨v, member, leaf⟩ := List.mem_flatMap.1 leaf
    exact items v member leaf
  | object ms members =>
    cases count with
    | zero =>
      rw [leaves, List.mem_singleton] at leaf
      rw [leaf]
      rfl
    | succ count =>
      rw [leaves_object_succ] at leaf
      obtain ⟨e, member, below⟩ := List.mem_flatMap.1 leaf
      obtain ⟨lower, isLower, rfl⟩ := List.mem_map.1 below
      rw [behind, List.length_append, members e member isLower]
      exact Nat.add_comm 1 count
  | null | bool | number | string => simp [leaves] at leaf

/-! ## The body of a file -/

def ofMember (below : Nat → Value → List Block) (e : String × Value) : List (BlockType × Block) :=
  (BlockType.ofWord? e.1).elim [] fun type => (below type.labelCount e.2).map (type, ·)

/-- The blocks of a body, each with its type, in the order in which they are written down. -/
def ofBody : Value → List (BlockType × Block)
  | .object ms => ms.flatMap (ofMember leaves)
  | _ => []

def hiddenOfBody : Value → List (BlockType × Block)
  | .object ms => lost (ofMember leaves) (ofMember hiddenLeaves) ms
  | _ => []

def settle (block : BlockType × Block) : BlockType × Block := (block.1, block.2.settled)

theorem ofMember_settled (e : String × Value) :
    ((ofMember leaves e).map settle).Perm
      (ofMember leaves (e.1, e.2.settled) ++ (ofMember hiddenLeaves e).map settle) := by
  unfold ofMember
  cases BlockType.ofWord? e.1 with
  | none => exact List.Perm.refl []
  | some type =>
    have parted := (leaves_settled type.labelCount e.2).map (type, ·)
    rw [List.map_append, List.map_map, List.map_map] at parted
    simp only [Option.elim, List.map_map]
    exact parted

/-- The blocks of a body are those that are left when it is settled, and the hidden ones. -/
theorem ofBody_settled (body : Value) :
    ((ofBody body).map settle).Perm (ofBody body.settled ++ (hiddenOfBody body).map settle) := by
  cases body with
  | object ms =>
    rw [Value.settled_object, ofBody, ofBody, hiddenOfBody, List.map_flatMap, SortedMap.map_lost]
    have kept := (Members.settled_perm ms).flatMap_right (ofMember leaves)
    rw [List.flatMap_map] at kept
    exact (SortedMap.flatMap_perm_lost fun e _ => ofMember_settled e).trans
      (kept.symm.append_right _)
  | null | bool | number | string | array => simp [Value.settled, ofBody, hiddenOfBody]

inductive BodyShaped : Value → Prop
  | object {ms : Members} (members : ∀ e ∈ ms, ∀ type, BlockType.ofWord? e.1 = some type →
      Shaped type.labelCount e.2) : BodyShaped (.object ms)

theorem bodyShaped_object_iff {ms : Members} :
    BodyShaped (.object ms) ↔
      ∀ e ∈ ms, ∀ type ∈ BlockType.ofWord? e.1, Shaped type.labelCount e.2 := by
  constructor
  · rintro ⟨members⟩
    exact members
  · exact .object

instance : DecidablePred BodyShaped
  | .object _ => decidable_of_iff _ bodyShaped_object_iff.symm
  | .null | .bool _ | .number _ | .string _ | .array _ => isFalse nofun

theorem BodyShaped.settled {body : Value} (shaped : BodyShaped body) : BodyShaped body.settled := by
  obtain ⟨members⟩ := shaped
  rw [Value.settled_object]
  refine .object fun e member type opened => ?_
  obtain ⟨v, written, isSettled⟩ := mem_settled member
  exact isSettled ▸ (members _ written type opened).settled

end ModuleSurvey.Block
