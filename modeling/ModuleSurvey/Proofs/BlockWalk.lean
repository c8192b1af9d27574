import ModuleSurvey.Proofs.Module.Duplicates

/-! # Walking down to the blocks

The blocks below a value can be collected on one walk, which keeps the labels on the way down in a
stack: a name is pushed before the value behind it is walked through, and popped afterwards, whether
that fails or not. What the walk finds on its way is kept even if it fails later on.

* `Block.walk` — the walk, as a program over its stack and its finds.
* `Block.Balanced` — what a walk may do to them, with one lemma for each way to go on.
* `Block.balanced_walk` — the walk does what collecting does, and leaves the stack as it was.
* `blocks_carry_their_labels` — the labels of all blocks that are found, and of a whole body.
-/

namespace ModuleSurvey

open Json (Value Members)

namespace Block

/-! ## The walk -/

/-- The labels on the way down, the lowest one last, and the blocks that are found so far. -/
structure Walk where
  labels : List String
  found : List Block

def Walk.start : Walk := ⟨[], []⟩

inductive WalkFault where
  | noBlocks (fault : BlockFault)
  /-- One label less is counted where none is to come. -/
  | noLevelLeft

/-- A program over a walk. What it has done until it fails stays done. -/
abbrev Walking := EStateM WalkFault Walk

def pushLabel (label : String) : Walking Unit :=
  modify fun w => { w with labels := w.labels ++ [label] }

def popLabel : Walking Unit := modify fun w => { w with labels := w.labels.dropLast }

def addBlock (body : Members) : Walking Unit :=
  modify fun w => { w with found := w.found ++ [⟨w.labels, body⟩] }

/-- The number of labels that are still to come below one of `count` levels. -/
def levelBelow : (count : Nat) → Walking Nat
  | 0 => throw .noLevelLeft
  | count + 1 => pure count

def underLabel (label : String) (count : Nat) (inside : Nat → Walking Unit) : Walking Unit := do
  pushLabel label
  let below ← levelBelow count
  try inside below finally popLabel

mutual

def walk (count : Nat) : Value → Walking Unit
  | .array vs => walkItems count vs
  | .object ms => if count = 0 then addBlock ms else walkMembers count ms
  | v => do throw (.noBlocks ⟨(← get).labels, v.kind⟩)

def walkItems (count : Nat) : List Value → Walking Unit
  | [] => pure ()
  | v :: vs => do
    walk count v
    walkItems count vs

def walkMembers (count : Nat) : List (String × Value) → Walking Unit
  | [] => pure ()
  | (label, v) :: ms => do
    underLabel label count fun below => walk below v
    walkMembers count ms

end

/-- The walk as it is left, at its end or where it fails. -/
def walked : EStateM.Result WalkFault Walk Unit → Walk
  | .ok _ w => w
  | .error _ w => w

/-! ## Balance -/

def LabelledBelow (labels : List String) (count : Nat) (block : Block) : Prop :=
  ∃ more, block.labels = labels ++ more ∧ more.length = count

/-- What a walk may come to: the labels are the same again, and only blocks with the right number of
labels are added. If collecting succeeds, so does the walk, with the same blocks; if not, they fail
alike. -/
inductive Balanced (count : Nat) (w : Walk) :
    Except BlockFault (List Block) → EStateM.Result WalkFault Walk Unit → Prop
  | done {blocks : List Block} (labelled : ∀ block ∈ blocks, LabelledBelow w.labels count block) :
      Balanced count w (.ok blocks) (.ok () ⟨w.labels, w.found ++ blocks⟩)
  | failed {fault : BlockFault} {added : List Block}
      (labelled : ∀ block ∈ added, LabelledBelow w.labels count block) :
      Balanced count w (.error fault) (.error (.noBlocks fault) ⟨w.labels, w.found ++ added⟩)

variable {count : Nat} {w next : Walk} {label : String} {first second inner : Walking Unit}
  {collected more : Except BlockFault (List Block)}

theorem run_append_of_ok (ended : first w = .ok () next) :
    (do first; second : Walking Unit) w = second next := by
  simp only [bind, EStateM.bind, ended]

theorem run_append_of_error {fault : WalkFault} (stopped : first w = .error fault next) :
    (do first; second : Walking Unit) w = .error fault next := by
  simp only [bind, EStateM.bind, stopped]

theorem run_finally_of_ok (ended : inner w = .ok () next) :
    (try inner finally popLabel : Walking Unit) w =
      .ok () { next with labels := next.labels.dropLast } := by
  -- What is popped comes with the result, which is let go of again.
  have run : (try inner finally popLabel : Walking Unit) w =
      (do let r ← tryFinally' inner fun _ => popLabel; pure r.1 : Walking Unit) w := rfl
  rw [run]
  simp only [bind, EStateM.bind, tryFinally', ended]
  rfl

theorem run_finally_of_error {fault : WalkFault} (stopped : inner w = .error fault next) :
    (try inner finally popLabel : Walking Unit) w =
      .error fault { next with labels := next.labels.dropLast } := by
  have run : (try inner finally popLabel : Walking Unit) w =
      (do let r ← tryFinally' inner fun _ => popLabel; pure r.1 : Walking Unit) w := rfl
  rw [run]
  simp only [bind, EStateM.bind, tryFinally', stopped]
  rfl

theorem balanced_pure (count : Nat) (w : Walk) : Balanced count w (.ok []) (.ok () w) := by
  have nothing : Balanced count w (.ok []) (.ok () ⟨w.labels, w.found ++ []⟩) :=
    .done (List.forall_mem_nil _)
  rwa [List.append_nil] at nothing

theorem balanced_throw (count : Nat) (w : Walk) (fault : BlockFault) :
    Balanced count w (.error fault) (.error (.noBlocks fault) w) := by
  have nothing : Balanced count w (.error fault)
      (.error (.noBlocks fault) ⟨w.labels, w.found ++ []⟩) := .failed (List.forall_mem_nil _)
  rwa [List.append_nil] at nothing

theorem Balanced.append (here : Balanced count w collected (first w))
    (later : ∀ found, Balanced count ⟨w.labels, found⟩ more (second ⟨w.labels, found⟩)) :
    Balanced count w (do return (← collected) ++ (← more)) ((do first; second) w) := by
  generalize ended : first w = result at here
  cases here with
  | failed labelled =>
    rw [run_append_of_error ended]
    exact .failed labelled
  | @done blocks labelled =>
    rw [run_append_of_ok ended]
    have next := later (w.found ++ blocks)
    generalize second ⟨w.labels, w.found ++ blocks⟩ = result at next
    cases next with
    | done labelledMore =>
      rw [List.append_assoc]
      exact .done (List.forall_mem_append.2 ⟨labelled, labelledMore⟩)
    | failed labelledMore =>
      rw [List.append_assoc]
      exact .failed (List.forall_mem_append.2 ⟨labelled, labelledMore⟩)

theorem LabelledBelow.of_label {block : Block}
    (below : LabelledBelow (w.labels ++ [label]) count block) :
    LabelledBelow w.labels (count + 1) block := by
  obtain ⟨more, labels, length⟩ := below
  refine ⟨label :: more, ?_, ?_⟩
  · rw [labels, List.append_assoc, List.singleton_append]
  · rw [List.length_cons, length]

/-- One level down the label is on the stack, and behind it the stack is as before. -/
theorem Balanced.underLabel {inside : Nat → Walking Unit}
    (balanced : Balanced count ⟨w.labels ++ [label], w.found⟩ collected
      (inside count ⟨w.labels ++ [label], w.found⟩)) :
    Balanced (count + 1) w collected (underLabel label (count + 1) inside w) := by
  have pushed : Block.underLabel label (count + 1) inside w =
      (try inside count finally popLabel : Walking Unit) ⟨w.labels ++ [label], w.found⟩ := rfl
  rw [pushed]
  generalize ended : inside count ⟨w.labels ++ [label], w.found⟩ = result at balanced
  cases balanced with
  | done labelled =>
    rw [run_finally_of_ok ended, List.dropLast_concat]
    exact .done fun block member => (labelled block member).of_label
  | failed labelled =>
    rw [run_finally_of_error ended, List.dropLast_concat]
    exact .failed fun block member => (labelled block member).of_label

/-! ## The walk is balanced -/

theorem balanced_walkItems {vs : List Value}
    (single : ∀ v ∈ vs, ∀ w, Balanced count w (collect w.labels count v) (walk count v w)) (w : Walk) :
    Balanced count w (gather (collect w.labels count) vs) (walkItems count vs w) := by
  induction vs generalizing w with
  | nil =>
    rw [walkItems]
    exact balanced_pure count w
  | cons v vs inductionHypothesis =>
    obtain ⟨first, others⟩ := List.forall_mem_cons.1 single
    rw [walkItems, gather_cons]
    exact (first w).append fun found => inductionHypothesis others ⟨w.labels, found⟩

theorem balanced_walkMembers {ms : Members}
    (single : ∀ e ∈ ms, ∀ w, Balanced count w (collect w.labels count e.2) (walk count e.2 w))
    (w : Walk) :
    Balanced (count + 1) w (gather (fun e => collect (w.labels ++ [e.1]) count e.2) ms)
      (walkMembers (count + 1) ms w) := by
  induction ms generalizing w with
  | nil =>
    rw [walkMembers]
    exact balanced_pure (count + 1) w
  | cons e ms inductionHypothesis =>
    obtain ⟨first, others⟩ := List.forall_mem_cons.1 single
    rw [walkMembers, gather_cons]
    refine Balanced.append (.underLabel (first _)) fun found => ?_
    exact inductionHypothesis others ⟨w.labels, found⟩

/-- The walk does what collecting does, whatever labels are on the stack. -/
theorem balanced_walk (v : Value) (count : Nat) (w : Walk) :
    Balanced count w (collect w.labels count v) (walk count v w) := by
  induction v using Value.itemInduction generalizing count w with
  | array vs items =>
    rw [collect_array, walk]
    exact balanced_walkItems (fun v member => items v member count) w
  | object ms members =>
    rw [walk]
    cases count with
    | zero =>
      -- No labels are left to come, so the object is a body.
      rw [collect_object_zero, if_pos rfl]
      exact .done (List.forall_mem_singleton.2 ⟨[], (List.append_nil _).symm, rfl⟩)
    | succ count =>
      rw [collect_object_succ, if_neg (Nat.succ_ne_zero count)]
      exact balanced_walkMembers (fun e member => members e member count) w
  | null | bool | number | string =>
    simp only [collect, walk]
    exact balanced_throw count w _

/-- What is read of a member of a body on a walk: its blocks, each with its type, or nothing where
the walk fails. -/
def walkedMember (e : String × Value) : List (Option (BlockType × Block)) :=
  (BlockType.ofWord? e.1).elim [] fun type =>
    match walk type.labelCount e.2 .start with
    | .ok _ w => w.found.map fun block => some (type, block)
    | .error .. => [none]

theorem length_labels_of_walk {v : Value} {block : Block}
    (found : block ∈ (walked (walk count v .start)).found) : block.labels.length = count := by
  have balanced := balanced_walk v count .start
  generalize collect _ count v = collected at balanced
  generalize walk count v .start = result at balanced found
  cases balanced with
  | done labelled | failed labelled =>
    obtain ⟨more, labels, length⟩ := labelled block found
    rwa [labels]

end Block

namespace Statement

theorem map_block?_ofBlocks {type : BlockType} {blocks : List Block}
    (labelled : ∀ block ∈ blocks, block.labels.length = type.labelCount) (x : BlockIndex) :
    (ofBlocks type blocks x).1.map block? = blocks.map fun block => some (type, block) := by
  have placed := congrArg (List.map Prod.fst) (areBlocks_ofBlocks labelled x).placed
  have blocksOnly := congrArg (List.map some) (x.map_fst_placed (blocks.map (type, ·)))
  simp only [List.map_map] at placed blocksOnly
  exact placed.trans blocksOnly

theorem map_block?_ofMember (e : String × Value) (x : BlockIndex) :
    (ofMember e.1 e.2 x).1.map block? = Block.walkedMember e := by
  rw [Block.walkedMember]
  cases opened : BlockType.ofWord? e.1 with
  | none =>
    rw [ofMember_of_unknown opened]
    rfl
  | some type =>
    obtain same := BlockType.word_of_ofWord? opened
    have labelled : ∀ block ∈ (Block.walked (Block.walk type.labelCount e.2 .start)).found,
        block.labels.length = type.labelCount := fun _ => Block.length_labels_of_walk
    have balanced := Block.balanced_walk e.2 type.labelCount .start
    rw [← same, Option.elim]
    generalize collected : Block.collect _ type.labelCount e.2 = outcome at balanced
    generalize Block.walk type.labelCount e.2 .start = result at balanced labelled
    cases balanced with
    | done =>
      rw [ofMember_of_blocks collected]
      exact map_block?_ofBlocks labelled x
    | failed =>
      rw [ofMember_of_fault collected]
      rfl

/-- The statements of a body are the blocks that walks below its members find. -/
theorem map_block?_ofMembers (ms : Members) (x : BlockIndex) :
    (ofMembers ms x).1.map block? = ms.flatMap Block.walkedMember := by
  induction ms generalizing x with
  | nil => rfl
  | cons e ms inductionHypothesis =>
    rw [List.flatMap_cons, ← map_block?_ofMember e x, ← inductionHypothesis (ofMember e.1 e.2 x).2,
      ← List.map_append]
    rfl

end Statement

/-! ## The law -/

open Block in
/-- A walk leaves the stack of labels as it was, whether it ends or fails, and adds only blocks with
the labels on the stack and as many more as it was asked for; it never looks for a level of labels
where none is left. It ends where collecting succeeds, with the same blocks, and fails with the same
fault otherwise. So the blocks of a type have as many labels as the type reads, and a body is made of
the blocks that the walks below its members find: none of them is left out for its labels. -/
theorem blocks_carry_their_labels :
    (∀ (count : Nat) (v : Value) (w : Walk),
      (walked (walk count v w)).labels = w.labels ∧
      (∃ added, (walked (walk count v w)).found = w.found ++ added ∧
        ∀ block ∈ added, ∃ more, block.labels = w.labels ++ more ∧ more.length = count) ∧
      (∀ after, walk count v w ≠ .error .noLevelLeft after) ∧
      (∀ blocks, collect w.labels count v = .ok blocks ↔
        walk count v w = .ok () ⟨w.labels, w.found ++ blocks⟩) ∧
      (∀ fault, collect w.labels count v = .error fault ↔
        ∃ after, walk count v w = .error (.noBlocks fault) after)) ∧
    (∀ (type : BlockType) (v : Value), ∀ block ∈ (walked (walk type.labelCount v .start)).found,
      block.labels.length = type.labelCount) ∧
    ∀ (body : Value) (index : BlockIndex),
      (Statement.ofBody body index).1.map Statement.block? =
        match body with
        | .object ms => ms.flatMap walkedMember
        | _ => [none] := by
  refine ⟨fun count v w => ?_, fun type v block => length_labels_of_walk, fun body index => ?_⟩
  · have balanced := balanced_walk v count w
    generalize walk count v w = result at balanced
    generalize collect w.labels count v = outcome at balanced
    cases balanced with
    | done labelled =>
      refine ⟨rfl, ⟨_, rfl, labelled⟩, nofun, fun blocks => ?_, by simp⟩
      simp
    | failed labelled =>
      refine ⟨rfl, ⟨_, rfl, labelled⟩, nofun, by simp, fun fault => ?_⟩
      simp
  · cases body with
    | object ms => exact Statement.map_block?_ofMembers ms index
    | null | bool | number | string | array => rfl

/-- Two items below one name, and a value below the second one that holds no block. -/
def strayItem : Value :=
  .object [("aws", .array [.object [("web", .object [])], .object [("db", .bool true)]])]

open Block in
theorem strayItem_walked :
    let w : Walk := ⟨["resource"], []⟩
    (walked (walk 2 strayItem w)).labels = ["resource"] ∧
    (walked (walk 2 strayItem w)).found.map Block.labels = [["resource", "aws", "web"]] ∧
    ∃ after, walk 2 strayItem w =
      .error (.noBlocks ⟨["resource", "aws", "db"], "a bool"⟩) after := by
  intro w
  obtain ⟨labels, -, -, -, faults⟩ := blocks_carry_their_labels.1 2 strayItem w
  exact ⟨labels, by rfl, (faults _).1 (by rfl)⟩

end ModuleSurvey
