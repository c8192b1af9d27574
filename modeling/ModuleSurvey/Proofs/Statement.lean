import ModuleSurvey.Statement

/-! # The statements of a body, part by part

The statements of a member of a body depend on the members before it through the index alone, in
which the look-ups so far are remembered. And of these only the look-ups of the same key count,
which no member of another type makes.

* `Statement.ofMember_of_blocks`, `ofMember_of_fault` — the statements of one member.
* `Statement.ofMembers_append` — the members of a body one after the other.
* `BlockIndex.AgreeApart` — indexes that differ in how often one key was looked up, and
  `Statement.ofMembers_agreeApart`: the other types do not tell them apart.
-/

namespace ModuleSurvey

open Json (Value Members)

/-! ## The words of block types -/

namespace BlockType

theorem ofWord?_word (type : BlockType) : ofWord? type.word = some type := by
  cases type with
  | resource mode => cases mode <;> decide
  | terraform | provider | inputVariable | output | moduleCall => decide

theorem word_of_ofWord? {type : BlockType} {name : String} (opened : ofWord? name = some type) :
    type.word = name := by
  simpa using List.find?_some opened

theorem space_not_mem_word (type : BlockType) : ' ' ∉ type.word.toList := by
  cases type with
  | resource mode => cases mode <;> decide
  | terraform | provider | inputVariable | output | moduleCall => decide

end BlockType

/-- The key of a header is the word of a block type only without labels, and of that type. -/
theorem Header.key_ne_word {type other : BlockType} (different : other ≠ type)
    (labels : List String) : (Header.mk other.word labels).key ≠ type.word := by
  intro same
  cases labels with
  | nil =>
    have sameWord : other.word = type.word := by simpa [key] using same
    have sameType := other.ofWord?_word.symm.trans (sameWord ▸ type.ofWord?_word)
    exact different (Option.some.inj sameType)
  | cons label labels =>
    have spaced : ' ' ∈ (Header.mk other.word (label :: labels)).key.toList := by
      simp [key, String.intercalate_cons_cons]
    exact type.space_not_mem_word (same ▸ spaced)

/-! ## Members one after the other -/

namespace Statement

variable {type : BlockType} {value : Value}

theorem ofMember_of_unknown {name : String} (unknown : BlockType.ofWord? name = none)
    (value : Value) (index : BlockIndex) : ofMember name value index = ([], index) := by
  simp only [ofMember, unknown]

theorem ofMember_of_blocks {blocks : List Block}
    (collected : Block.collect [] type.labelCount value = .ok blocks) (index : BlockIndex) :
    ofMember type.word value index = ofBlocks type blocks index := by
  simp only [ofMember, type.ofWord?_word, collected]

theorem ofMember_of_fault {fault : BlockFault}
    (refused : Block.collect [] type.labelCount value = .error fault) (index : BlockIndex) :
    ofMember type.word value index =
      ([.malformed (index.locate type.word []).1 type fault], (index.locate type.word []).2) := by
  simp only [ofMember, type.ofWord?_word, refused]

theorem ofMembers_append (first more : Members) (index : BlockIndex) :
    (ofMembers (first ++ more) index).1 =
      (ofMembers first index).1 ++ (ofMembers more (ofMembers first index).2).1 := by
  induction first generalizing index with
  | nil => rfl
  | cons e first inductionHypothesis =>
    simp only [List.cons_append, ofMembers, inductionHypothesis, List.append_assoc]

end Statement

/-! ## Look-ups of other keys -/

namespace BlockIndex

/-- Two indexes of one file in which every key but one was looked up equally often. -/
structure AgreeApart (key : String) (x y : BlockIndex) : Prop where
  file : { x with asked := [] } = { y with asked := [] }
  asked : ∀ other, other ≠ key → x.asked.count other = y.asked.count other

variable {key : String} {x y : BlockIndex}

theorem agreeApart_locate (x : BlockIndex) (word : String) (labels : List String) :
    AgreeApart (Header.mk word labels).key (x.locate word labels).2 x where
  file := rfl
  asked _ different := List.count_cons_of_ne different.symm

theorem AgreeApart.trans {z : BlockIndex} (first : AgreeApart key x y)
    (second : AgreeApart key y z) : AgreeApart key x z where
  file := first.file.trans second.file
  asked other different := (first.asked other different).trans (second.asked other different)

/-- The place of a block is settled by the file and the number of its look-ups so far. -/
theorem locate_congr {word : String} {labels : List String}
    (file : { x with asked := [] } = { y with asked := [] })
    (seen : x.asked.count (Header.mk word labels).key = y.asked.count (Header.mk word labels).key) :
    (x.locate word labels).1 = (y.locate word labels).1 := by
  obtain ⟨filename, format, text, headers, askedFirst⟩ := x
  obtain ⟨_, _, _, _, askedSecond⟩ := y
  cases file
  simp only [BlockIndex.locate, seen]
  rfl

theorem AgreeApart.locate (agree : AgreeApart key x y) {word : String} {labels : List String}
    (other : (Header.mk word labels).key ≠ key) :
    (x.locate word labels).1 = (y.locate word labels).1 ∧
      AgreeApart key (x.locate word labels).2 (y.locate word labels).2 := by
  refine ⟨locate_congr agree.file (agree.asked _ other), agree.file, fun name different => ?_⟩
  simp only [BlockIndex.locate, List.count_cons, agree.asked name different]

end BlockIndex

namespace Statement

open BlockIndex (AgreeApart)

variable {x y : BlockIndex} {type other : BlockType}

theorem ofBlocks_agreeApart (agree : AgreeApart type.word x y) (different : other ≠ type)
    (blocks : List Block) :
    (ofBlocks other blocks x).1 = (ofBlocks other blocks y).1 ∧
      AgreeApart type.word (ofBlocks other blocks x).2 (ofBlocks other blocks y).2 := by
  induction blocks generalizing x y with
  | nil => exact ⟨rfl, agree⟩
  | cons block blocks inductionHypothesis =>
    obtain ⟨samePlace, agreeNext⟩ := agree.locate (Header.key_ne_word different block.labels)
    obtain ⟨sameRest, agreeLast⟩ := inductionHypothesis agreeNext
    refine ⟨?_, agreeLast⟩
    simp only [ofBlocks, samePlace, sameRest]

theorem ofMember_agreeApart (agree : AgreeApart type.word x y) {name : String}
    (different : name ≠ type.word) (value : Value) :
    (ofMember name value x).1 = (ofMember name value y).1 ∧
      AgreeApart type.word (ofMember name value x).2 (ofMember name value y).2 := by
  cases opened : BlockType.ofWord? name with
  | none =>
    rw [ofMember_of_unknown opened, ofMember_of_unknown opened]
    exact ⟨rfl, agree⟩
  | some other =>
    obtain rfl := BlockType.word_of_ofWord? opened
    have otherType : other ≠ type := fun same => different (congrArg BlockType.word same)
    cases collected : Block.collect [] other.labelCount value with
    | ok blocks =>
      rw [ofMember_of_blocks collected, ofMember_of_blocks collected]
      exact ofBlocks_agreeApart agree otherType blocks
    | error fault =>
      obtain ⟨samePlace, agreeNext⟩ := agree.locate (Header.key_ne_word otherType [])
      rw [ofMember_of_fault collected, ofMember_of_fault collected, samePlace]
      exact ⟨rfl, agreeNext⟩

theorem ofMembers_agreeApart (agree : AgreeApart type.word x y) {ms : Members}
    (different : ∀ e ∈ ms, e.1 ≠ type.word) : (ofMembers ms x).1 = (ofMembers ms y).1 := by
  induction ms generalizing x y with
  | nil => rfl
  | cons e ms inductionHypothesis =>
    obtain ⟨sameFirst, agreeNext⟩ := ofMember_agreeApart agree (different e List.mem_cons_self) e.2
    have sameRest := inductionHypothesis agreeNext fun e member =>
      different e (List.mem_cons_of_mem _ member)
    simp only [ofMembers, sameFirst, sameRest]

end Statement

end ModuleSurvey
