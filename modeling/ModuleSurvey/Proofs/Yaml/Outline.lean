import ModuleSurvey.Proofs.Yaml.Lines

/-! # Outlines taken apart into tokens

An outline is what a mapping of words, lists and further mappings looks like when it is laid out by
indentation. A lexer takes the lines of an outline apart into its tokens, whatever stands around it.

* `Outline` — the entries of a mapping, with their lines and their tokens.
* `Outline.steps` — the tokens of an outline, from its first line to what follows it.
* `lexemes?_lines` — the tokens of a text that is an outline.
-/

namespace ModuleSurvey.Yaml

/-! ## Outlines -/

/-- The entries of a mapping that is laid out by indentation. -/
inductive Outline where
  | word (name text : String)
  | group (name : String) (inner : Outline)
  | list (name : String) (items : List String)
  | seq (first second : Outline)

namespace Outline

def itemLines (column : Nat) (items : List String) : List Line :=
  items.map fun item => ⟨column, '-' :: ' ' :: scalarBody item⟩

def lines (column : Nat) : Outline → List Line
  | word name text => [⟨column, name.toList ++ ':' :: ' ' :: text.toList⟩]
  | group name inner => ⟨column, name.toList ++ [':']⟩ :: inner.lines (column + 2)
  -- The hyphens of a list stand below its name.
  | list name items => ⟨column, name.toList ++ [':']⟩ :: itemLines column items
  | seq first second => first.lines column ++ second.lines column

def tokens : Outline → List Token
  | word name text => [.key, .scalar .plain name, .value, .scalar .plain text]
  | group name inner =>
    [.key, .scalar .plain name, .value, .blockMappingStart] ++ inner.tokens ++ [.blockEnd]
  | list name items => [.key, .scalar .plain name, .value] ++
      items.flatMap fun item => [.blockEntry, .scalar (chosenStyle item) item]
  | seq first second => first.tokens ++ second.tokens

/-- Every name and every word is plain, and the items are texts of one line. A list has items. -/
def Sound : Outline → Prop
  | word name text => IsName name.toList ∧ IsName text.toList
  | group name inner => IsName name.toList ∧ inner.Sound
  | list name items => IsName name.toList ∧ items ≠ [] ∧ ∀ item ∈ items, InlineText item.toList
  | seq first second => first.Sound ∧ second.Sound

open Lexer

variable {o : Outline} {column : Nat} {more : List Line} {columns outer : List Nat}
  {start tokens : List Token} {s : Lexer}

theorem frontColumn_lines (o : Outline) (more : List Line) :
    frontColumn (o.lines column ++ more) = column := by
  induction o generalizing more with
  | seq first second inductionHypothesis _ =>
    rw [lines, List.append_assoc]
    exact inductionHypothesis _
  | word | group | list => rfl

theorem solid_name {name : String} (isName : IsName name.toList) (rest : List Char) :
    Solid (name.toList ++ rest) := by
  obtain ⟨c, cs, form⟩ := List.exists_cons_of_ne_nil isName.nonempty
  rw [form]
  exact (startsPlain_of_isNameChar (isName.letters c (by simp [form])) rest).solid

theorem solid_lines (sound : o.Sound) (more : List Line) :
    Solid (front (o.lines column ++ more)) := by
  induction o generalizing more with
  | seq first second inductionHypothesis _ =>
    rw [lines, List.append_assoc]
    exact inductionHypothesis sound.1 _
  | word | group | list =>
    simp only [lines, List.cons_append, front, List.append_assoc]
    exact solid_name sound.1 _

theorem frontColumn_itemLines_le (outside : frontColumn more ≤ column) (items : List String) :
    frontColumn (itemLines column items ++ more) ≤ column := by
  cases items with
  | nil => exact outside
  | cons item items => exact Nat.le_refl _

theorem solid_itemLines (solid : Solid (front more)) (items : List String) :
    Solid (front (itemLines column items ++ more)) := by
  cases items with
  | nil => exact solid
  | cons item items =>
    rintro c ⟨⟩
    decide

theorem steps_items {items : List String} (inline : ∀ item ∈ items, InlineText item.toList)
    (solid : Solid (front more)) (outside : frontColumn more ≤ column)
    (here : AtLines (itemLines column items ++ more) (column :: outer) tokens s) :
    ∃ t, Steps s t ∧ AtLines more (column :: outer)
      (tokens ++ items.flatMap fun item => [.blockEntry, .scalar (chosenStyle item) item]) t := by
  induction items generalizing tokens s with
  | nil => exact ⟨s, .refl, by simpa [itemLines] using here⟩
  | cons item items inductionHypothesis =>
    obtain ⟨t, first, atItems⟩ := steps_itemLine (inline item List.mem_cons_self)
      (solid_itemLines solid items) (frontColumn_itemLines_le outside items) here
    obtain ⟨u, others, atMore⟩ := inductionHypothesis
      (fun x member => inline x (List.mem_cons_of_mem _ member)) atItems
    exact ⟨u, first.trans others, by simpa using atMore⟩

/-- A lexer takes an outline apart into its tokens, and stands at what follows it. -/
theorem steps (sound : o.Sound) (solid : Solid (front more)) (outside : frontColumn more ≤ column)
    (opens : Opens column columns outer start)
    (here : AtLines (o.lines column ++ more) columns tokens s) :
    ∃ t, Steps s t ∧ AtLines more (column :: outer) (tokens ++ start ++ o.tokens) t := by
  induction o generalizing column columns outer start tokens s more with
  | word name text => exact steps_wordLine sound.1 sound.2 solid outside opens here
  | group name inner inductionHypothesis =>
    obtain ⟨t, key, atInner⟩ := steps_sectionLine sound.1 (solid_lines sound.2 more) opens here
    have deeper : ∀ c ∈ (column :: outer).head?, c < column + 2 := by simp
    obtain ⟨u, others, atMore⟩ := inductionHypothesis sound.2 solid (Nat.le_add_right_of_le outside)
      (.fresh deeper) atInner
    -- What follows the outline is indented less than its inner mapping, which is closed there.
    have closed := atMore.close (by omega)
    exact ⟨u, key.trans others, by simpa [Outline.tokens] using closed⟩
  | list name items =>
    obtain ⟨t, key, atItems⟩ := steps_sectionLine sound.1 (solid_itemLines solid items) opens here
    obtain ⟨u, others, atMore⟩ := steps_items sound.2.2 solid outside atItems
    exact ⟨u, key.trans others, by simpa [Outline.tokens] using atMore⟩
  | seq first second firstHypothesis secondHypothesis =>
    rw [lines, List.append_assoc] at here
    obtain ⟨t, steps, atSecond⟩ := firstHypothesis sound.1 (solid_lines sound.2 more)
      (Nat.le_of_eq (frontColumn_lines second more)) opens here
    obtain ⟨u, others, atMore⟩ := secondHypothesis sound.2 solid outside .again atSecond
    exact ⟨u, steps.trans others, by simpa [Outline.tokens] using atMore⟩

/-! ## Whole texts -/

theorem isPrintable_of_mem_lines (sound : o.Sound) :
    ∀ line ∈ o.lines column, ∀ c ∈ line.content, isPrintable c = true := by
  have colon : isPrintable ':' = true := by decide
  have space : isPrintable ' ' = true := by decide
  have hyphen : isPrintable '-' = true := by decide
  have letters {name : List Char} (isName : IsName name) : ∀ c ∈ name, isPrintable c = true :=
    fun c member => isPrintable_of_isNameChar (isName.letters c member)
  induction o generalizing column with
  | word name text =>
    have inName := letters sound.1
    have inText := letters sound.2
    simp only [lines, List.mem_singleton, forall_eq, List.forall_mem_append, List.forall_mem_cons]
    exact ⟨inName, colon, space, inText⟩
  | group name inner inductionHypothesis =>
    have inName := letters sound.1
    simp only [lines, List.forall_mem_cons, List.forall_mem_append]
    exact ⟨⟨inName, colon, by simp⟩, inductionHypothesis sound.2⟩
  | list name items =>
    have inName := letters sound.1
    have inItem := sound.2.2
    simp only [lines, itemLines, List.forall_mem_cons, List.forall_mem_append, List.forall_mem_map]
    exact ⟨⟨inName, colon, by simp⟩, fun item member =>
      ⟨hyphen, space, fun c => isPrintable_of_mem_scalarBody (inItem item member)⟩⟩
  | seq first second firstHypothesis secondHypothesis =>
    simp only [lines, List.forall_mem_append]
    exact ⟨firstHypothesis sound.1, secondHypothesis sound.2⟩

theorem isPrintable_of_mem_textOf {all : List Line}
    (shown : ∀ line ∈ all, ∀ c ∈ line.content, isPrintable c = true) :
    ∀ c ∈ textOf all, isPrintable c = true := by
  intro c member
  simp only [textOf, List.mem_flatMap, List.mem_append, List.mem_replicate, List.mem_singleton]
    at member
  obtain ⟨line, isLine, ⟨-, rfl⟩ | isIn | rfl⟩ := member
  · decide
  · exact shown line isLine c isIn
  · decide

theorem normalized?_of_isPrintable {cs : List Char} (shown : ∀ c ∈ cs, isPrintable c = true) :
    normalized? cs = some cs := by
  have allowed : cs.all isAllowed = true := by
    rw [List.all_eq_true]
    intro c member
    have := shown c member
    simp [isPrintable, isAllowed] at this ⊢
    omega
  have same : withLineFeeds cs = cs := by
    clear allowed
    induction cs with
    | nil => rfl
    | cons c cs inductionHypothesis =>
      have isShown := shown c List.mem_cons_self
      have behind := inductionHypothesis fun d member => shown d (List.mem_cons_of_mem _ member)
      have notReturn : c ≠ '\r' := by
        rintro rfl
        exact absurd isShown (by decide)
      have notNextLine : c ≠ '\u0085' := by
        rintro rfl
        exact absurd isShown (by decide)
      rw [withLineFeeds.eq_def]
      split <;> simp_all
  rw [normalized?, if_pos allowed, same]

theorem finish?_of_atLines (here : AtLines [] [0] tokens s) :
    ∃ all, s.finish? = some all ∧ all.map (·.token) = tokens ++ [.blockEnd, .streamEnd] := by
  obtain ⟨line, made, rfl, rfl⟩ := here.inside (by simp [frontColumn])
  refine ⟨_, rfl, ?_⟩
  simp [closeBlocks, laidOut, flow, add, tokensOf, frontColumn]

/-- The tokens of a text that is laid out as an outline. -/
theorem lexemes?_lines (sound : o.Sound) :
    ∃ all, lexemes? (textOf (o.lines 0)) = some all ∧
      all.map (·.token) = .blockMappingStart :: o.tokens ++ [.blockEnd, .streamEnd] := by
  have shown : ∀ c ∈ textOf (o.lines 0), isPrintable c = true :=
    isPrintable_of_mem_textOf (isPrintable_of_mem_lines sound)
  have begins : frontColumn (o.lines 0) = 0 := by simpa using frontColumn_lines o []
  have isFront : textOf (o.lines 0) = front (o.lines 0) := by simp [textOf_eq, begins]
  have noMark : (front (o.lines 0)).head? ≠ some '\ufeff' := by
    intro isHead
    have := shown _ (isFront ▸ List.mem_of_head? isHead)
    exact absurd this (by decide)
  have solid : Solid (front (o.lines 0)) := by simpa using solid_lines sound []
  obtain ⟨s, next, atStart⟩ : ∃ s, (Lexer.start (front (o.lines 0))).advance? = some s ∧
      AtLines (o.lines 0 ++ []) [] [] s := by
    refine ⟨_, advance?_laidOut (fun _ => noMark) (skipGap_of_solid solid) rfl, 0, [], ?_, rfl⟩
    simp only [List.append_nil, begins]
    rfl
  -- No collection is open before the first key, so that the outermost mapping begins there.
  obtain ⟨t, steps, atEnd⟩ := steps sound (by simp [Solid, front]) (Nat.le_refl 0)
    (.fresh (by simp)) atStart
  obtain ⟨all, finished, isTokens⟩ := finish?_of_atLines atEnd
  refine ⟨all, ?_, by simpa using isTokens⟩
  have ended : t.rest = [] := by
    obtain ⟨line, made, rfl, -⟩ := atEnd
    rfl
  have enough : s.rest.length < (front (o.lines 0)).length + 1 := by
    obtain ⟨line, made, rfl, -⟩ := atStart
    simp [laidOut]
  rw [lexemes?, normalized?_of_isPrintable shown, isFront]
  exact (run?_of_steps next steps ended enough).trans finished

end Outline

end ModuleSurvey.Yaml
