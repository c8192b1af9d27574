import ModuleSurvey.Proofs.Yaml.Outline
import ModuleSurvey.Proofs.Yaml.Record
import ModuleSurvey.Yaml.Content

/-! # The documents of outlines

The tokens of an outline are put together as the mapping that the outline stands for. Where its nodes
stand in the text does not matter for what is read from them.

* `takeBlockItems_items`, `takeBlockEntries_entry` — the items of a list, and one entry of a mapping.
* `Outline.Yields` — the entries that an outline stands for.
* `Outline.takeBlockEntries_tokens` — the tokens of an outline are its entries.
* `Outline.parse?_lines` — a text that is an outline is the document of its entries.
-/

namespace ModuleSurvey.Yaml

variable {h : Handles} {block indentless : Bool} {n : Nat} {rest : List Lexeme}
  {anchors : List (String × Option Anchored)} {references : Nat} {mark : Mark}

/-! ## Nodes -/

theorem takeNode_scalar {style : ScalarStyle} {text : String} :
    takeNode h block indentless (n + 1)
        ⟨⟨.scalar style text, mark⟩ :: rest, anchors, references⟩ =
      some (.scalar mark none style text, ⟨rest, anchors, references⟩) := by
  simp [takeNode, Assembly.peek, readProperties, Assembly.bind, Assembly.pass, scalarTag]

theorem takeNode_mapping :
    takeNode h true indentless (n + 1)
        ⟨⟨.blockMappingStart, mark⟩ :: rest, anchors, references⟩ =
      (takeBlockEntries h n ⟨rest, anchors, references⟩).map fun (entries, c) =>
        (.mapping mark none entries, c) := by
  simp [takeNode, Assembly.peek, readProperties, Assembly.bind, Assembly.pass]
  cases takeBlockEntries h n ⟨rest, anchors, references⟩ <;> rfl

theorem takeNode_sequence :
    takeNode h block true (n + 1) ⟨⟨.blockEntry, mark⟩ :: rest, anchors, references⟩ =
      (takeBlockItems h true n ⟨⟨.blockEntry, mark⟩ :: rest, anchors, references⟩).map
        fun (items, c) => (.sequence mark none items, c) := by
  simp [takeNode, Assembly.peek, readProperties, Assembly.bind, Assembly.pass]
  cases takeBlockItems h true n ⟨⟨.blockEntry, mark⟩ :: rest, anchors, references⟩ <;> rfl

/-! ## Items and entries -/

/-- A list that is not indented goes on up to the next key or the end of the mapping around it. -/
def EndsList (rest : List Lexeme) : Prop :=
  ∃ x more, rest = x :: more ∧ (x.token = .key ∨ x.token = .blockEnd)

def AreItems (items : List String) (nodes : List Node) : Prop :=
  nodes.map Node.text? = items.map some

theorem takeBlockItems_items {items : List String} {later : List Lexeme}
    (isItems : later.map (·.token) =
      items.flatMap fun item => [.blockEntry, .scalar (chosenStyle item) item])
    (ends : EndsList rest) (enough : later.length < n) :
    ∃ nodes, AreItems items nodes ∧
      takeBlockItems h true n ⟨later ++ rest, anchors, references⟩ =
        some (nodes, ⟨rest, anchors, references⟩) := by
  induction items generalizing later n with
  | nil =>
    obtain ⟨n, rfl⟩ := Nat.exists_eq_succ_of_ne_zero (Nat.ne_zero_of_lt enough)
    obtain ⟨⟨token, mark⟩, more, rfl, isEnd⟩ := ends
    obtain rfl : later = [] := by simpa using isItems
    refine ⟨[], rfl, ?_⟩
    rw [takeBlockItems]
    rcases isEnd with rfl | rfl <;> simp [Assembly.peek]
  | cons item items inductionHypothesis =>
    simp only [List.flatMap_cons, List.cons_append, List.nil_append, List.map_eq_cons_iff]
      at isItems
    obtain ⟨⟨_, m⟩, _, rfl, rfl, ⟨_, k⟩, behind, rfl, rfl, isItems⟩ := isItems
    obtain ⟨n, rfl⟩ : ∃ k, n = k + 2 := ⟨n - 2, by simp at enough; omega⟩
    obtain ⟨nodes, areItems, taken⟩ :=
      @inductionHypothesis (n + 1) behind isItems (by simp at enough; omega)
    refine ⟨.scalar k none (chosenStyle item) item :: nodes,
      congrArg (some item :: ·) areItems, ?_⟩
    rw [takeBlockItems]
    simp [Assembly.peek, Assembly.pass, endsBlockItem, takeNode_scalar, taken]

theorem takeBlockEntries_end (positive : n ≠ 0) :
    takeBlockEntries h n ⟨⟨.blockEnd, mark⟩ :: rest, anchors, references⟩ =
      some ([], ⟨rest, anchors, references⟩) := by
  obtain ⟨n, rfl⟩ := Nat.exists_eq_succ_of_ne_zero positive
  simp [takeBlockEntries, Assembly.peek, Assembly.pass]

def underName (name : String) (m k v : Mark) (value : List Lexeme) : List Lexeme :=
  ⟨.key, m⟩ :: ⟨.scalar .plain name, k⟩ :: ⟨.value, v⟩ :: value

theorem takeBlockEntries_entry {m k v : Mark} {name : String} {value : List Lexeme} {node : Node}
    (taken : takeNode h true true (n + 1) ⟨value, anchors, references⟩ =
      some (node, ⟨rest, anchors, references⟩))
    (isValue : endsBlockPart (Assembly.peek ⟨value, anchors, references⟩).token = false) :
    takeBlockEntries h (n + 3) ⟨underName name m k v value, anchors, references⟩ =
      (takeBlockEntries h (n + 2) ⟨rest, anchors, references⟩).map fun (entries, c) =>
        ((.scalar k none .plain name, node) :: entries, c) := by
  have key : takeBlockPart h m (n + 2)
      ⟨⟨.scalar .plain name, k⟩ :: ⟨.value, v⟩ :: value, anchors, references⟩ =
        some (.scalar k none .plain name, ⟨⟨.value, v⟩ :: value, anchors, references⟩) := by
    simp [takeBlockPart, Assembly.peek, endsBlockPart, takeNode_scalar]
  have part : takeBlockPart h v (n + 2) ⟨value, anchors, references⟩ =
      some (node, ⟨rest, anchors, references⟩) := by
    simp [takeBlockPart, isValue, taken]
  rw [takeBlockEntries, underName]
  simp only [Assembly.peek, List.headD_cons, Assembly.pass, List.drop_succ_cons, List.drop_zero]
  simp [key, part]
  cases takeBlockEntries h (n + 2) ⟨rest, anchors, references⟩ <;> rfl

theorem map_token_eq_underName {name : String} {later : List Lexeme} {tokens : List Token}
    (isEntry : later.map (·.token) = .key :: .scalar .plain name :: .value :: tokens) :
    ∃ m k v value, later = underName name m k v value ∧ value.map (·.token) = tokens := by
  simp only [List.map_eq_cons_iff] at isEntry
  obtain ⟨⟨_, m⟩, _, rfl, rfl, ⟨_, k⟩, _, rfl, rfl, ⟨_, v⟩, value, rfl, rfl, isValue⟩ := isEntry
  exact ⟨m, k, v, value, rfl, isValue⟩

namespace Outline

/-! ## The entries of an outline -/

/-- The entries that an outline stands for, wherever they stand. -/
inductive Yields : Outline → List (Node × Node) → Prop
  | word {name text : String} (k m : Mark) :
    Yields (.word name text) [(.scalar k none .plain name, .scalar m none .plain text)]
  | group {name : String} {inner : Outline} {entries : List (Node × Node)} (k m : Mark)
    (yields : Yields inner entries) :
    Yields (.group name inner) [(.scalar k none .plain name, .mapping m none entries)]
  | list {name : String} {items : List String} {nodes : List Node} (k m : Mark)
    (areItems : AreItems items nodes) :
    Yields (.list name items) [(.scalar k none .plain name, .sequence m none nodes)]
  | seq {first second : Outline} {entries others : List (Node × Node)}
    (yields : Yields first entries) (also : Yields second others) :
    Yields (.seq first second) (entries ++ others)

theorem exists_tokens_eq (o : Outline) : ∃ behind, o.tokens = .key :: behind := by
  induction o with
  | seq first second firstHypothesis _ =>
    obtain ⟨behind, begins⟩ := firstHypothesis
    exact ⟨behind ++ second.tokens, by rw [tokens, begins, List.cons_append]⟩
  | word | group | list => exact ⟨_, rfl⟩

theorem endsList_tokens {o : Outline} {later : List Lexeme}
    (isOutline : later.map (·.token) = o.tokens) (rest : List Lexeme) :
    EndsList (later ++ rest) := by
  obtain ⟨behind, begins⟩ := o.exists_tokens_eq
  rw [begins, List.map_eq_cons_iff] at isOutline
  obtain ⟨x, more, rfl, isKey, -⟩ := isOutline
  exact ⟨x, more ++ rest, rfl, .inl isKey⟩

/-- The tokens of an outline are its entries, and reading goes on behind them. Every entry has more
tokens than it takes steps, so that the steps last as long as the tokens do. -/
theorem takeBlockEntries_tokens {o : Outline} {later : List Lexeme} (sound : o.Sound)
    (isOutline : later.map (·.token) = o.tokens) (ends : EndsList rest)
    (enough : later.length < n) :
    ∃ entries k, o.Yields entries ∧ n ≤ k + later.length ∧
      takeBlockEntries h n ⟨later ++ rest, anchors, references⟩ =
        (takeBlockEntries h k ⟨rest, anchors, references⟩).map fun (others, c) =>
          (entries ++ others, c) := by
  -- The reader of entries never returns between two of them, so that what follows the outline is
  -- part of what it reads. Hence the steps that are left are told too, and not only the entries.
  induction o generalizing later n rest with
  | word name text =>
    obtain ⟨m, k, v, value, rfl, isValue⟩ := map_token_eq_underName isOutline
    obtain ⟨⟨_, w⟩, _, rfl, rfl, isNil⟩ := List.map_eq_cons_iff.1 isValue
    obtain rfl := List.map_eq_nil_iff.1 isNil
    obtain ⟨n, rfl⟩ : ∃ k, n = k + 3 := ⟨n - 3, by simp [underName] at enough; omega⟩
    exact ⟨_, n + 2, .word k w, by simp [underName], takeBlockEntries_entry takeNode_scalar rfl⟩
  | group name inner inductionHypothesis =>
    obtain ⟨m, k, v, value, rfl, isValue⟩ := map_token_eq_underName isOutline
    obtain ⟨⟨_, b⟩, _, rfl, rfl, isGroup⟩ := List.map_eq_cons_iff.1 isValue
    obtain ⟨inside, _, rfl, isInner, isEnd⟩ := List.map_eq_append_iff.1 isGroup
    obtain ⟨⟨_, e⟩, _, rfl, rfl, isNil⟩ := List.map_eq_cons_iff.1 isEnd
    obtain rfl := List.map_eq_nil_iff.1 isNil
    simp only [underName, List.length_cons, List.length_append, List.length_nil] at enough
    obtain ⟨n, rfl⟩ : ∃ k, n = k + 3 := ⟨n - 3, by omega⟩
    obtain ⟨entries, j, yields, left, taken⟩ := @inductionHypothesis n (⟨.blockEnd, e⟩ :: rest)
      inside sound.2 isInner ⟨_, _, rfl, .inr rfl⟩ (by omega)
    refine ⟨_, n + 2, .group k b yields, by simp [underName]; omega, ?_⟩
    simp only [underName, List.cons_append, List.append_assoc, List.nil_append]
    refine takeBlockEntries_entry ?_ rfl
    -- The end of the inner mapping stops the reader of its entries, not the one of ours.
    rw [takeNode_mapping, taken, takeBlockEntries_end (by omega)]
    simp
  | list name items =>
    obtain ⟨item, items, rfl⟩ := List.exists_cons_of_ne_nil sound.2.1
    obtain ⟨m, k, v, value, rfl, isItems⟩ := map_token_eq_underName isOutline
    simp only [underName, List.length_cons] at enough
    obtain ⟨n, rfl⟩ : ∃ k, n = k + 3 := ⟨n - 3, by omega⟩
    obtain ⟨nodes, areItems, taken⟩ := @takeBlockItems_items h n rest anchors references
      (item :: items) value isItems ends (by omega)
    obtain ⟨⟨_, b⟩, _, rfl, rfl, -⟩ := List.map_eq_cons_iff.1 isItems
    refine ⟨_, n + 2, .list k b areItems, by simp [underName]; omega, ?_⟩
    simp only [underName, List.cons_append] at taken ⊢
    refine takeBlockEntries_entry ?_ rfl
    rw [takeNode_sequence, taken]
    rfl
  | seq first second firstHypothesis secondHypothesis =>
    obtain ⟨before, behind, rfl, isFirst, isSecond⟩ := List.map_eq_append_iff.1 isOutline
    simp only [List.length_append] at enough
    obtain ⟨entries, j, yields, left, taken⟩ := @firstHypothesis n (behind ++ rest) before sound.1
      isFirst (endsList_tokens isSecond rest) (by omega)
    obtain ⟨others, k, also, leftAlso, takenAlso⟩ := @secondHypothesis j rest behind sound.2
      isSecond ends (by omega)
    refine ⟨_, k, .seq yields also, by simp; omega, ?_⟩
    rw [List.append_assoc, taken, takenAlso]
    simp [Function.comp_def]

/-! ## Documents -/

/-- A text that is laid out as an outline is the document of its entries. -/
theorem parse?_lines {o : Outline} (sound : o.Sound) :
    ∃ mark entries, o.Yields entries ∧
      parse? (String.ofList (textOf (o.lines 0))) =
        some ⟨some (.mapping mark none entries), 0⟩ := by
  obtain ⟨all, isLexed, isTokens⟩ := lexemes?_lines sound
  obtain ⟨⟨_, mark⟩, _, rfl, rfl, isMore⟩ := List.map_eq_cons_iff.1 isTokens
  obtain ⟨inside, _, rfl, isOutline, isEnd⟩ := List.map_eq_append_iff.1 isMore
  obtain ⟨⟨_, m⟩, _, rfl, rfl, isStreamEnd⟩ := List.map_eq_cons_iff.1 isEnd
  obtain ⟨⟨_, k⟩, _, rfl, rfl, isNil⟩ := List.map_eq_cons_iff.1 isStreamEnd
  obtain rfl := List.map_eq_nil_iff.1 isNil
  let behind : List Lexeme := [⟨.blockEnd, m⟩, ⟨.streamEnd, k⟩]
  obtain ⟨entries, j, yields, left, taken⟩ := @takeBlockEntries_tokens .default
    (4 * inside.length + 15) behind [] 0 o inside sound isOutline ⟨_, _, rfl, .inr rfl⟩ (by omega)
  have root : takeRoot (⟨.blockMappingStart, mark⟩ :: (inside ++ behind)) =
      some (.mapping mark none entries, ⟨[⟨.streamEnd, k⟩], [], 0⟩) := by
    have steps : 4 * (⟨.blockMappingStart, mark⟩ :: (inside ++ behind) : List Lexeme).length + 4 =
        (4 * inside.length + 15) + 1 := by
      simp [behind]
      omega
    rw [takeRoot]
    · rw [steps, takeNode_mapping, taken, takeBlockEntries_end (by omega)]
      simp
    all_goals simp
  refine ⟨mark, entries, yields, ?_⟩
  simp only [parse?, String.toList_ofList, isLexed, Option.bind_some, Document.ofLexemes?]
  rw [root]
  simp

end Outline

end ModuleSurvey.Yaml
