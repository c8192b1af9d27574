import ModuleSurvey.Block

/-! # The grammar of blocks

A value consists of blocks with a number of labels if every way down through its lists, and through
as many levels of objects as there are labels, ends at an object. Such a value has its blocks
collected, from left to right, and every other value has none.

* `Block.gather` — putting together what is read of each item, or the first fault.
* `Block.collect_array`, `collect_object_zero`, `collect_object_succ` — collecting, level by level.
* `Block.Shaped`, `Block.leaves` — the grammar, and the bodies of a value with the labels on the way
  to them.
* `Block.collect_eq_ok_iff` — collecting succeeds on the grammar alone, and gives the leaves.
-/

namespace ModuleSurvey.Block

open Json (Value Members)

/-! ## Putting together what is read -/

section

variable {ε β γ δ : Type}

/-- What is read of all items in a row, or the fault of the first item that has one. -/
def gather (read : γ → Except ε (List β)) : List γ → Except ε (List β)
  | [] => .ok []
  | c :: cs => do return (← read c) ++ (← gather read cs)

variable {read : γ → Except ε (List β)}

theorem gather_cons (c : γ) (cs : List γ) :
    gather read (c :: cs) = (do return (← read c) ++ (← gather read cs)) := by
  rw [gather]

theorem gather_cons_eq_ok_iff {c : γ} {cs : List γ} {all : List β} :
    gather read (c :: cs) = .ok all ↔
      ∃ first more, read c = .ok first ∧ gather read cs = .ok more ∧ all = first ++ more := by
  rw [gather_cons]
  cases read c with
  | error fault => simp [bind, Except.bind]
  | ok first =>
    cases gather read cs with
    | error fault => simp [bind, Except.bind]
    | ok more => simp [bind, Except.bind, pure, Except.pure, eq_comm]

/-- Where the reading of single items is known, the reading of all of them is. -/
theorem gather_eq_ok_iff {Good : γ → Prop} {found : γ → List β} {cs : List γ}
    (single : ∀ c ∈ cs, ∀ all, read c = .ok all ↔ Good c ∧ all = found c) (all : List β) :
    gather read cs = .ok all ↔ (∀ c ∈ cs, Good c) ∧ all = cs.flatMap found := by
  induction cs generalizing all with
  | nil => simp [gather, eq_comm]
  | cons c cs inductionHypothesis =>
    have rest := inductionHypothesis fun d member => single d (List.mem_cons_of_mem _ member)
    simp only [gather_cons_eq_ok_iff, single c List.mem_cons_self, rest, List.forall_mem_cons,
      List.flatMap_cons]
    constructor
    · rintro ⟨_, _, ⟨good, rfl⟩, ⟨goodRest, rfl⟩, rfl⟩
      exact ⟨⟨good, goodRest⟩, rfl⟩
    · rintro ⟨⟨good, goodRest⟩, rfl⟩
      exact ⟨_, _, ⟨good, rfl⟩, ⟨goodRest, rfl⟩, rfl⟩

theorem gather_append (first more : List γ) :
    gather read (first ++ more) =
      (do return (← gather read first) ++ (← gather read more)) := by
  induction first with
  | nil => cases read : gather read more <;> simp [gather, read, bind, Except.bind, pure, Except.pure]
  | cons c first inductionHypothesis =>
    rw [List.cons_append, gather_cons, gather_cons, inductionHypothesis]
    cases read c with
    | error fault => rfl
    | ok found =>
      cases gather read first with
      | error fault => rfl
      | ok foundFirst =>
        cases gather read more with
        | error fault => rfl
        | ok foundMore => simp [bind, Except.bind, pure, Except.pure]

theorem gather_singleton (c : γ) : gather read [c] = read c := by
  rw [gather_cons]
  cases read c <;> simp [gather, bind, Except.bind, pure, Except.pure]

theorem gather_middle {c d : γ} (same : read c = read d) (before after : List γ) :
    gather read (before ++ c :: after) = gather read (before ++ d :: after) := by
  simp only [gather_append, gather_cons, same]

theorem gather_map (f : δ → γ) (ds : List δ) :
    gather read (ds.map f) = gather (fun d => read (f d)) ds := by
  induction ds with
  | nil => rw [List.map_nil, gather, gather]
  | cons d ds inductionHypothesis => rw [List.map_cons, gather_cons, gather_cons, inductionHypothesis]

theorem gather_flatMap (f : β → List δ) (cs : List γ) :
    (gather read cs).map (·.flatMap f) = gather (fun c => (read c).map (·.flatMap f)) cs := by
  induction cs with
  | nil => rw [gather, gather]; rfl
  | cons c cs inductionHypothesis =>
    rw [gather_cons, gather_cons, ← inductionHypothesis]
    cases read c with
    | error fault => rfl
    | ok found =>
      cases gather read cs with
      | error fault => rfl
      | ok more => simp [Except.map, bind, Except.bind, pure, Except.pure]

end

/-! ## Collecting, level by level -/

variable {labels : List String} {count : Nat}

theorem collectItems_eq_gather (vs : List Value) :
    collectItems labels count vs = gather (collect labels count) vs := by
  induction vs with
  | nil => simp [collectItems, gather]
  | cons v vs inductionHypothesis => simp [collectItems, gather, inductionHypothesis]

theorem collectMembers_eq_gather (ms : Members) :
    collectMembers labels count ms =
      gather (fun e => collect (labels ++ [e.1]) count e.2) ms := by
  induction ms with
  | nil => simp [collectMembers, gather]
  | cons e ms inductionHypothesis => simp [collectMembers, gather, inductionHypothesis]

theorem collect_array (vs : List Value) :
    collect labels count (.array vs) = gather (collect labels count) vs := by
  rw [collect, collectItems_eq_gather]

theorem collect_object_zero (ms : Members) :
    collect labels 0 (.object ms) = .ok [⟨labels, ms⟩] := by
  rw [collect]

theorem collect_object_succ (ms : Members) :
    collect labels (count + 1) (.object ms) =
      gather (fun e => collect (labels ++ [e.1]) count e.2) ms := by
  rw [collect, collectMembers_eq_gather]

/-! ## The grammar -/

/-- The values in which blocks stand `count` labels below. -/
inductive Shaped : Nat → Value → Prop
  | body (ms : Members) : Shaped 0 (.object ms)
  | labels {count : Nat} {ms : Members} (members : ∀ e ∈ ms, Shaped count e.2) :
      Shaped (count + 1) (.object ms)
  | list {count : Nat} {vs : List Value} (items : ∀ v ∈ vs, Shaped count v) :
      Shaped count (.array vs)

theorem shaped_array_iff {vs : List Value} :
    Shaped count (.array vs) ↔ ∀ v ∈ vs, Shaped count v := by
  constructor
  · rintro ⟨⟩
    assumption
  · exact .list

theorem shaped_object_succ_iff {ms : Members} :
    Shaped (count + 1) (.object ms) ↔ ∀ e ∈ ms, Shaped count e.2 := by
  constructor
  · rintro ⟨⟩
    assumption
  · exact .labels

def behind (labels : List String) (block : Block) : Block :=
  ⟨labels ++ block.labels, block.body⟩

mutual

/-- The objects that stand `count` labels below a value, from left to right, each as a block with
the names on the way to it. -/
def leaves : Nat → Value → List Block
  | count, .array vs => leavesOfItems count vs
  | 0, .object ms => [⟨[], ms⟩]
  | count + 1, .object ms => leavesOfMembers count ms
  | _, _ => []

def leavesOfItems (count : Nat) : List Value → List Block
  | [] => []
  | v :: vs => leaves count v ++ leavesOfItems count vs

def leavesOfMembers (count : Nat) : List (String × Value) → List Block
  | [] => []
  | (label, v) :: ms => (leaves count v).map (behind [label]) ++ leavesOfMembers count ms

end

theorem leaves_array (vs : List Value) :
    leaves count (.array vs) = vs.flatMap (leaves count) := by
  rw [leaves]
  induction vs with
  | nil => rw [leavesOfItems]; rfl
  | cons v vs inductionHypothesis => rw [leavesOfItems, inductionHypothesis, List.flatMap_cons]

theorem leaves_object_succ (ms : Members) :
    leaves (count + 1) (.object ms) =
      ms.flatMap fun e => (leaves count e.2).map (behind [e.1]) := by
  rw [leaves]
  induction ms with
  | nil => rw [leavesOfMembers]; rfl
  | cons e ms inductionHypothesis => rw [leavesOfMembers, inductionHypothesis, List.flatMap_cons]

theorem behind_behind (labels more : List String) (block : Block) :
    behind labels (behind more block) = behind (labels ++ more) block := by
  simp [behind]

/-- Collecting succeeds on the grammar alone, and gives the leaves in their order. -/
theorem collect_eq_ok_iff (labels : List String) (count : Nat) (v : Value) (blocks : List Block) :
    collect labels count v = .ok blocks ↔
      Shaped count v ∧ blocks = (leaves count v).map (behind labels) := by
  induction v using Value.itemInduction generalizing labels count blocks with
  | array vs items =>
    rw [collect_array, shaped_array_iff, leaves_array, List.map_flatMap]
    exact gather_eq_ok_iff (fun v member => items v member labels count) blocks
  | object ms members =>
    cases count with
    | zero => simp [collect_object_zero, Shaped.body, leaves, behind, eq_comm]
    | succ count =>
      rw [collect_object_succ, shaped_object_succ_iff, leaves_object_succ, List.map_flatMap]
      refine gather_eq_ok_iff (fun e member all => ?_) blocks
      -- The labels on the way to the object stand before the name of the member.
      simp only [members e member (labels ++ [e.1]) count, List.map_map, Function.comp_def,
        behind_behind]
  | null | bool | number | string =>
    simp only [collect, reduceCtorEq, false_iff, not_and]
    rintro ⟨⟩

theorem collect_of_shaped {v : Value} (shaped : Shaped count v) :
    collect [] count v = .ok (leaves count v) := by
  have unlabelled : behind [] = id := funext fun _ => rfl
  have collected := (collect_eq_ok_iff [] count v _).2 ⟨shaped, rfl⟩
  rwa [unlabelled, List.map_id] at collected

theorem exists_fault_iff (labels : List String) (count : Nat) (v : Value) :
    (∃ fault, collect labels count v = .error fault) ↔ ¬ Shaped count v := by
  have onGrammar := collect_eq_ok_iff labels count v
  cases collected : collect labels count v with
  | ok blocks => simp [((onGrammar blocks).1 collected).1]
  | error fault =>
    have refused : ¬ Shaped count v := by
      intro shaped
      have collects := (onGrammar _).2 ⟨shaped, rfl⟩
      rw [collected] at collects
      cases collects
    simp [refused]

theorem isOk_collect_iff (v : Value) : (collect [] count v).isOk = true ↔ Shaped count v := by
  have onGrammar := collect_eq_ok_iff [] count v
  cases collected : collect [] count v with
  | ok blocks => simp [Except.isOk, Except.toBool, ((onGrammar blocks).1 collected).1]
  | error fault => simpa [Except.isOk, Except.toBool] using (exists_fault_iff [] count v).1 ⟨_, collected⟩

instance (count : Nat) (v : Value) : Decidable (Shaped count v) :=
  decidable_of_iff _ (isOk_collect_iff v)

end ModuleSurvey.Block
