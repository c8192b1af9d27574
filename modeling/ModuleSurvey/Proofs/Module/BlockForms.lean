import Mathlib.Logic.Basic
import Mathlib.Logic.Relation
import ModuleSurvey.Proofs.Block
import ModuleSurvey.Proofs.Statement
import ModuleSurvey.Module.Declare

/-! # Forms of blocks

The same blocks can be written in many forms: a value or the list of it alone, a list or the list of
its parts, an object or the list of its members, each in an object of its own. A file declares the
same in all of them, and where a value is malformed it has the same fault.

* `Block.Reshaped` — one step from a form of blocks to another one.
* `Block.ReadsLists` — what is read of values so that lists do not matter, which is where a step
  changes nothing.
* `Block.Regrouped`, `Block.Amid` — a step in the required providers of a `terraform` block, and
  that block among the others of its file.
* `BodyStep`, `block_forms_interchangeable` — one step in a file, and the law.
-/

namespace ModuleSurvey

open Json (Value Members)

namespace Block

/-! ## Steps from form to form -/

/-- One step from a form of blocks to another one, `count` labels above their bodies. Where `splits`
holds of the number of labels, an object may be taken apart into its members. -/
inductive Reshaped (splits : Nat → Prop) : Nat → Value → Value → Prop
  | wrap (count : Nat) (v : Value) : Reshaped splits count v (.array [v])
  | unnest (count : Nat) (before inner after : List Value) :
      Reshaped splits count (.array (before ++ .array inner :: after))
        (.array (before ++ (inner ++ after)))
  | split {count : Nat} (here : splits count) (ms : Members) :
      Reshaped splits count (.object ms) (.array (ms.map fun e => .object [e]))
  | item {count : Nat} {v w : Value} (before after : List Value) (step : Reshaped splits count v w) :
      Reshaped splits count (.array (before ++ v :: after)) (.array (before ++ w :: after))
  | member {count : Nat} {v w : Value} (before after : Members) (label : String)
      (step : Reshaped splits count v w) :
      Reshaped splits (count + 1) (.object (before ++ (label, v) :: after))
        (.object (before ++ (label, w) :: after))

/-! ## Where lists do not matter -/

def ReadsLists {ε β : Type} (read : Value → Except ε (List β)) : Prop :=
  ∀ vs, read (.array vs) = gather read vs

namespace ReadsLists

variable {ε β : Type} {read : Value → Except ε (List β)}

theorem wrap (reads : ReadsLists read) (v : Value) : read v = read (.array [v]) := by
  rw [reads, gather_singleton]

theorem unnest (reads : ReadsLists read) (before inner after : List Value) :
    read (.array (before ++ .array inner :: after)) = read (.array (before ++ (inner ++ after))) := by
  simp only [reads _, gather_append, gather_cons]

theorem item (reads : ReadsLists read) {v w : Value} (same : read v = read w)
    (before after : List Value) :
    read (.array (before ++ v :: after)) = read (.array (before ++ w :: after)) := by
  rw [reads, reads, gather_middle same]

theorem flatMap (reads : ReadsLists read) {δ : Type} (f : β → List δ) :
    ReadsLists fun v => (read v).map (·.flatMap f) := by
  intro vs
  exact (congrArg _ (reads vs)).trans (gather_flatMap f vs)

theorem map (reads : ReadsLists read) {δ : Type} (f : β → δ) :
    ReadsLists fun v => (read v).map (·.map f) := by
  simpa only [List.map_eq_flatMap] using reads.flatMap fun b => [f b]

end ReadsLists

theorem readsLists_collect (labels : List String) (count : Nat) :
    ReadsLists (collect labels count) :=
  collect_array

/-- Blocks in another form are the same blocks, and a fault is the same fault. -/
theorem collect_eq_of_reshaped {count : Nat} {v w : Value} (step : Reshaped (0 < ·) count v w)
    (labels : List String) : collect labels count v = collect labels count w := by
  induction step generalizing labels with
  | wrap count v => exact (readsLists_collect labels count).wrap v
  | unnest count before inner after =>
    exact (readsLists_collect labels count).unnest before inner after
  | @split count labelled ms =>
    cases count with
    | zero => exact absurd labelled (Nat.lt_irrefl 0)
    | succ count =>
      -- A member in an object of its own is collected as it is among the others.
      rw [collect_array, gather_map, collect_object_succ]
      simp only [collect_object_succ, gather_singleton]
  | @item count v w before after _ inductionHypothesis =>
    exact (readsLists_collect labels count).item (inductionHypothesis labels) before after
  | member before after label _ inductionHypothesis =>
    rw [collect_object_succ, collect_object_succ]
    refine gather_middle ?_ before after
    exact inductionHypothesis (labels ++ [label])

/-! ## Required providers -/

def entries (required : Value) : Except BlockFault Members :=
  (collect [] 0 required).map fun blocks => blocks.flatMap Block.body

theorem readsLists_entries : ReadsLists entries := (readsLists_collect [] 0).flatMap Block.body

theorem entries_object (ms : Members) : entries (.object ms) = .ok ms := by
  rw [entries, collect_object_zero]
  simp [Except.map]

theorem entries_eq_of_reshaped {v w : Value} (step : Reshaped (fun _ => True) 0 v w) :
    entries v = entries w := by
  generalize isZero : 0 = count at step
  induction step with
  | wrap count v => exact readsLists_entries.wrap v
  | unnest count before inner after => exact readsLists_entries.unnest before inner after
  | split _ ms =>
    have single : ∀ e : String × Value, entries (.object [e]) = .ok [e] := fun e => entries_object [e]
    rw [entries_object, readsLists_entries, gather_map]
    simp only [single]
    induction ms with
    | nil => rfl
    | cons e ms inductionHypothesis => rw [gather_cons, ← inductionHypothesis]; rfl
  | item before after _ inductionHypothesis =>
    exact readsLists_entries.item (inductionHypothesis isZero) before after
  | member => cases isZero

end Block

theorem Module.declareRequirements_eq (m : Module) (role : FileRole) (pos : SourcePos)
    (required : Value) :
    m.declareRequirements role pos required =
      match Block.entries required with
      | .error fault => m.complain pos (.malformedBlock "required_providers" fault.message)
      | .ok entries =>
        entries.foldl (fun m e => m.declareRequirement role pos e.1 e.2) m := by
  unfold declareRequirements Block.entries
  cases Block.collect [] 0 required with
  | error fault => rfl
  | ok blocks => simp only [Except.map, List.foldl_flatMap]

theorem Json.Members.get?_middle (before after : Members) (name : String) (v : Value)
    (sought : String) :
    (before ++ (name, v) :: after : Members).get? sought =
      (before.get? sought).or (if name = sought then some v else after.get? sought) := by
  induction before with
  | nil => simp [get?, SortedMap.lookupEntry, eq_comm]
  | cons e before inductionHypothesis =>
    simp only [get?, List.cons_append, SortedMap.lookupEntry] at inductionHypothesis ⊢
    split
    · rfl
    · exact inductionHypothesis

namespace Block

inductive Regrouped : Members → Members → Prop
  | required {v w : Value} (before after : Members) (step : Reshaped (fun _ => True) 0 v w) :
      Regrouped (before ++ ("required_providers", v) :: after)
        (before ++ ("required_providers", w) :: after)

inductive Amid (change : Members → Members → Prop) : Value → Value → Prop
  | body {ms ns : Members} (changed : change ms ns) : Amid change (.object ms) (.object ns)
  | item {v w : Value} (before after : List Value) (amid : Amid change v w) :
      Amid change (.array (before ++ v :: after)) (.array (before ++ w :: after))

theorem declareTerraform_eq_of_regrouped {body other : Members} (step : Regrouped body other)
    (m : Module) (role : FileRole) (pos : SourcePos) :
    m.declareTerraform role pos body = m.declareTerraform role pos other := by
  obtain ⟨before, after, step⟩ := step
  unfold Module.declareTerraform Attribute.string
  simp only [Json.Members.get?_middle]
  -- The required providers are those of the first member of the name, whether it is this one or
  -- not; the other attribute has another name.
  cases before.get? "required_providers" with
  | some first => rfl
  | none =>
    simp [Module.declareRequirements_eq, entries_eq_of_reshaped step]

/-- What counts of a `terraform` block: the words by which it is sought, and what it does. -/
def effect (block : Block) : List String × (Module → FileRole → SourcePos → Module) :=
  (block.labels, fun m role pos => m.declareTerraform role pos block.body)

theorem effects_eq_of_amid {v w : Value} (step : Amid Regrouped v w) :
    (collect [] 0 v).map (·.map effect) = (collect [] 0 w).map (·.map effect) := by
  induction step with
  | body changed =>
    have same := funext fun m => funext fun role => funext fun pos =>
      declareTerraform_eq_of_regrouped changed m role pos
    simp [collect_object_zero, Except.map, effect, same]
  | item before after _ inductionHypothesis =>
    exact ((readsLists_collect [] 0).map effect).item inductionHypothesis before after

end Block

/-! ## Files -/

/-- One step in the body of a file: the blocks of a type in another form, or the required providers
of one `terraform` block. -/
inductive BodyStep : Value → Value → Prop
  | blocks {v w : Value} (type : BlockType) (before after : Members)
      (step : Block.Reshaped (0 < ·) type.labelCount v w) :
      BodyStep (.object (before ++ (type.word, v) :: after))
        (.object (before ++ (type.word, w) :: after))
  | required {v w : Value} (before after : Members) (step : Block.Amid Block.Regrouped v w) :
      BodyStep (.object (before ++ (BlockType.terraform.word, v) :: after))
        (.object (before ++ (BlockType.terraform.word, w) :: after))

def Block.effectAs (type : BlockType) (block : Block) :
    List String × (Module → FileRole → SourcePos → Module) :=
  (block.labels, fun m role pos => (Statement.ofBlock? type pos block).elim m (m.declare role))

namespace Statement

theorem foldl_ofBlocks_of_effects {type : BlockType} {blocks others : List Block}
    (same : blocks.map (Block.effectAs type) = others.map (Block.effectAs type))
    (index : BlockIndex) :
    (ofBlocks type blocks index).2 = (ofBlocks type others index).2 ∧
      ∀ (role : FileRole) (m : Module),
        (ofBlocks type blocks index).1.foldl (.declare role) m =
          (ofBlocks type others index).1.foldl (.declare role) m := by
  induction blocks generalizing others index with
  | nil =>
    cases others with
    | nil => exact ⟨rfl, fun _ _ => rfl⟩
    | cons other others => cases same
  | cons block blocks inductionHypothesis =>
    cases others with
    | nil => cases same
    | cons other others =>
      obtain ⟨labels, body⟩ := block
      obtain ⟨otherLabels, otherBody⟩ := other
      simp only [List.map_cons, List.cons.injEq, Block.effectAs, Prod.mk.injEq] at same
      -- With the same labels both blocks stand in the same place, and leave the same index.
      obtain ⟨⟨rfl, sameEffect⟩, sameRest⟩ := same
      obtain ⟨sameIndex, sameModule⟩ :=
        inductionHypothesis sameRest (index.locate type.word labels).2
      refine ⟨sameIndex, fun role m => ?_⟩
      have applied :=
        congrFun (congrFun (congrFun sameEffect m) role) (index.locate type.word labels).1
      simp only [ofBlocks, List.foldl_append, Option.foldl_toList, applied, sameModule]

/-- Values of a member that lead to the same look-ups and do the same to every module. -/
def Interchangeable (name : String) (v w : Value) : Prop :=
  ∀ index, (ofMember name v index).2 = (ofMember name w index).2 ∧
    ∀ (role : FileRole) (m : Module),
      (ofMember name v index).1.foldl (.declare role) m =
        (ofMember name w index).1.foldl (.declare role) m

theorem interchangeable_of_collect {type : BlockType} {v w : Value}
    (same : Block.collect [] type.labelCount v = Block.collect [] type.labelCount w) :
    Interchangeable type.word v w := by
  intro index
  have sameStatements : ofMember type.word v index = ofMember type.word w index := by
    simp only [ofMember, type.ofWord?_word, same]
  rw [sameStatements]
  exact ⟨rfl, fun _ _ => rfl⟩

theorem interchangeable_of_effects {type : BlockType} {v w : Value}
    (same : (Block.collect [] type.labelCount v).map (·.map (Block.effectAs type)) =
      (Block.collect [] type.labelCount w).map (·.map (Block.effectAs type))) :
    Interchangeable type.word v w := by
  cases first : Block.collect [] type.labelCount v with
  | error fault =>
    cases second : Block.collect [] type.labelCount w with
    | error other =>
      rw [first, second] at same
      cases same
      exact interchangeable_of_collect (first.trans second.symm)
    | ok others => simp [first, second, Except.map] at same
  | ok blocks =>
    cases second : Block.collect [] type.labelCount w with
    | error other => simp [first, second, Except.map] at same
    | ok others =>
      rw [first, second] at same
      intro index
      rw [ofMember_of_blocks first, ofMember_of_blocks second]
      exact foldl_ofBlocks_of_effects (Except.ok.inj same) index

/-- What a `terraform` block does among the blocks of its type is told by what it does by itself. -/
theorem interchangeable_of_terraform {v w : Value}
    (same : (Block.collect [] BlockType.terraform.labelCount v).map (·.map Block.effect) =
      (Block.collect [] BlockType.terraform.labelCount w).map (·.map Block.effect)) :
    Interchangeable BlockType.terraform.word v w := by
  apply interchangeable_of_effects
  let unlabelled (effect : List String × (Module → FileRole → SourcePos → Module)) :
      List String × (Module → FileRole → SourcePos → Module) :=
    (effect.1, fun m role pos => if effect.1.isEmpty then effect.2 m role pos else m)
  have factored : Block.effectAs .terraform = unlabelled ∘ Block.effect := by
    funext block
    obtain ⟨labels, body⟩ := block
    cases labels <;> rfl
  have split (v : Value) : (Block.collect [] 0 v).map (·.map (Block.effectAs .terraform)) =
      ((Block.collect [] 0 v).map (·.map Block.effect)).map (·.map unlabelled) := by
    cases Block.collect [] 0 v with
    | error fault => rfl
    | ok blocks => simp [Except.map, factored]
  simp only [BlockType.labelCount] at same ⊢
  rw [split, split, same]

end Statement

namespace Module

theorem decode_eq_of_interchangeable {name : String} {v w : Value}
    (same : Statement.Interchangeable name v w) (before after : Members) (m : Module)
    (role : FileRole) (index : BlockIndex) :
    m.decode role index (.object (before ++ (name, v) :: after)) =
      m.decode role index (.object (before ++ (name, w) :: after)) := by
  obtain ⟨sameIndex, sameModule⟩ := same (Statement.ofMembers before index).2
  simp only [decode, Statement.ofBody, Statement.ofMembers_append, Statement.ofMembers,
    List.foldl_append, sameIndex, sameModule]

theorem decode_eq_of_step {body other : Value} (step : BodyStep body other) (m : Module)
    (role : FileRole) (index : BlockIndex) :
    m.decode role index body = m.decode role index other := by
  cases step with
  | blocks type before after step =>
    have same := Block.collect_eq_of_reshaped step []
    exact decode_eq_of_interchangeable (Statement.interchangeable_of_collect same) before after m role
      index
  | required before after step =>
    have same := Block.effects_eq_of_amid step
    exact decode_eq_of_interchangeable (Statement.interchangeable_of_terraform same) before after m
      role index

/-- What decoding makes of a body is kept by any number of steps that keep it, in either direction. -/
theorem decode_eq_of_eqvGen {Step : Value → Value → Prop} {m : Module} {role : FileRole}
    {index : BlockIndex} {body other : Value}
    (unchanged : ∀ body other, Step body other →
      m.decode role index body = m.decode role index other)
    (rewritten : Relation.EqvGen Step body other) :
    m.decode role index body = m.decode role index other := by
  have same : Equivalence fun body other => m.decode role index body = m.decode role index other :=
    eq_equivalence.comap (m.decode role index)
  exact same.eqvGen_iff.1 (rewritten.mono unchanged)

end Module

/-- However a body is rewritten from form to form, forwards and backwards, it does the same to every
module, in either role, with the same look-ups: also where blocks are malformed. -/
theorem block_forms_interchangeable (m : Module) (role : FileRole) (index : BlockIndex)
    (body other : Value) (rewritten : Relation.EqvGen BodyStep body other) :
    m.decode role index body = m.decode role index other :=
  Module.decode_eq_of_eqvGen (fun _ _ step => Module.decode_eq_of_step step m role index) rewritten

def plainFile : Value :=
  .object [
    ("output", .array [.object [("id", .object [])]]),
    ("terraform", .object [
      ("required_providers", .object [("aws", .string "~> 5.0"), ("google", .object [])])]),
    ("variable", .object [("region", .object []), ("zone", .number (.int 7))])]

def listedFile : Value :=
  .object [
    ("output", .object [("id", .object [])]),
    ("terraform", .array [.object [
      ("required_providers", .array [
        .object [("aws", .string "~> 5.0")], .object [("google", .object [])]])]]),
    ("variable", .array [
      .object [("region", .array [.object []])], .object [("zone", .number (.int 7))]])]

theorem plainFile_as_listedFile :
    Relation.EqvGen BodyStep plainFile listedFile ∧
    let index := BlockIndex.scan "main.tf.json" .json ""
    let m := (Module.new "m").decode .primary index listedFile
    (Module.new "m").decode .primary index plainFile = m ∧
    m.requiredProviders.keys = ["aws", "google"] ∧ m.outputs.keys = ["id"] ∧ m.inputs = ∅ ∧
    m.diagnostics = [(Problem.malformedBlock "variable"
      "expected an object for \"zone\", found a number").diagnostic ⟨"main.tf.json", 1⟩] := by
  have rewritten : Relation.EqvGen BodyStep plainFile listedFile := by
    -- The output is taken out of its list, which is a step backwards.
    refine .trans _ _ _ (.symm _ _ (.rel _ _ (.blocks .output [] _ (.wrap _ _)))) ?_
    refine .trans _ _ _ (.rel _ _ (.blocks .terraform [_] _ (.wrap _ _))) ?_
    refine .trans _ _ _
      (.rel _ _ (.required [_] _ (.item [] [] (.body (.required [] [] (.split trivial _)))))) ?_
    refine .trans _ _ _
      (.rel _ _ (.blocks .inputVariable [_, _] [] (.split Nat.zero_lt_one _))) ?_
    exact .rel _ _ (.blocks .inputVariable [_, _] []
      (.item [] [_] (.member [] [] "region" (.wrap _ _))))
  exact ⟨rewritten, block_forms_interchangeable (Module.new "m") .primary _ _ _ rewritten, rfl, rfl,
    rfl, rfl⟩

end ModuleSurvey
