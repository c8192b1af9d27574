import ModuleSurvey.Proofs.BlockIndex.Members

/-! # Names inside of names

A member is sought from the occurrence of the enclosing name on. So it is found behind that
occurrence, except where the occurrence is one of its own name too: then one place in the text stands
for both names, and a block whose label is the word before it is found too early.

* `matched?` — the names of a path with the bytes at which they are found.
* `MatchesPath` — how the places of a name and of the next one lie to each other.
* `locate_first_member` — the first look-up of a path, and when each name is found behind the one
  that encloses it.
-/

namespace ModuleSurvey

open Json (Value)

variable {text cs rest other : List Char} {name inner : String}

/-! ## Ends of a text by their offsets -/

theorem offsetOf_inj (within : rest <:+ text) (withinOther : other <:+ text)
    (same : offsetOf text rest = offsetOf text other) : rest = other := by
  have longer : ∀ {first second : List Char}, second <:+ text → first <:+ second →
      offsetOf text first = offsetOf text second → first = second := by
    intro first second within part same
    cases second with
    | nil => exact List.suffix_nil.1 part
    | cons c cs =>
      rcases List.suffix_cons_iff.1 part with whole | shorter
      · exact whole
      · exact absurd same (Nat.ne_of_gt (offsetOf_cons_lt within shorter))
  rcases List.suffix_or_suffix_of_suffix within withinOther with part | part
  · exact longer withinOther part same
  · exact (longer within part same.symm).symm

theorem mem_occurrences_iff (within : rest <:+ text) :
    offsetOf text rest ∈ occurrences name text ↔ beginsMember name rest = true := by
  constructor
  · intro member
    obtain ⟨other, isMember, same⟩ := List.mem_map.1 member
    obtain ⟨withinOther, begins⟩ := mem_members_iff.1 isMember
    exact offsetOf_inj withinOther within same ▸ begins
  · intro begins
    exact List.mem_map_of_mem (mem_members_iff.2 ⟨within, begins⟩)

/-- One place in a text stands for one name without quotes only. -/
theorem eq_of_mem_occurrences {offset : Nat} (unquoted : '"' ∉ name.toList)
    (unquotedInner : '"' ∉ inner.toList) (here : offset ∈ occurrences name text)
    (hereInner : offset ∈ occurrences inner text) : name = inner := by
  obtain ⟨rest, member, rfl⟩ := List.mem_map.1 here
  obtain ⟨within, begins⟩ := mem_members_iff.1 member
  have beginsInner := (mem_occurrences_iff within).1 hereInner
  exact eq_of_beginsQuoted unquoted unquotedInner (beginsQuoted_of_beginsMember begins)
    (beginsQuoted_of_beginsMember beginsInner)

theorem seekKey_of_beginsMember (begins : beginsMember name cs = true) :
    seekKey name cs = some cs := by
  obtain ⟨behind, rfl⟩ := exists_cons_of_beginsQuoted (beginsQuoted_of_beginsMember begins)
  obtain ⟨rest, start, colon⟩ := (Option.any_eq_true _ _).1 begins
  simp only [seekKey, seekQuoted, start, colon, if_true]

/-! ## The places of a path -/

/-- The names of a path, each with the byte at which it is found, from the place of the one before
it on. -/
def matched? (text : List Char) : (names : List String) → List Char → Option (List (String × Nat))
  | [], _ => some []
  | name :: names, cs => do
    let found ← seekKey name cs
    let others ← matched? text names found
    return (name, offsetOf text found) :: others

theorem matched?_cons (text : List Char) (name : String) (names : List String) (cs : List Char) :
    matched? text (name :: names) cs =
      (seekKey name cs).bind fun found =>
        (matched? text names found).map ((name, offsetOf text found) :: ·) := by
  simp only [matched?, bind, Option.map_eq_bind]
  rfl

/-- Places of the names of a path. The place of a name is not before the one of the enclosing name,
and the two are the same only where the name occurs at the place of the enclosing one. -/
structure MatchesPath (text : List Char) (path : List String) (places : List (String × Nat)) :
    Prop where
  names : places.map (·.1) = path
  occur : ∀ place ∈ places, place.2 ∈ occurrences place.1 text
  steps : places.IsChain fun outer inner =>
    outer.2 ≤ inner.2 ∧ (outer.2 = inner.2 ↔ outer.2 ∈ occurrences inner.1 text)

theorem matchesPath_of_matched? {names : List String} {places : List (String × Nat)}
    (within : cs <:+ text) (found : matched? text names cs = some places) :
    MatchesPath text names places := by
  induction names generalizing cs places with
  | nil =>
    cases found
    exact ⟨rfl, nofun, .nil⟩
  | cons name names inductionHypothesis =>
    rw [matched?_cons] at found
    obtain ⟨here, isHere, found⟩ := Option.bind_eq_some_iff.1 found
    obtain ⟨others, areOthers, rfl⟩ := Option.map_eq_some_iff.1 found
    obtain ⟨part, begins⟩ := mem_members_iff.1 (mem_members_of_seekQuoted isHere)
    have withinHere := part.trans within
    obtain ⟨sameNames, occur, steps⟩ := inductionHypothesis withinHere areOthers
    refine ⟨congrArg (name :: ·) sameNames, ?_, ?_⟩
    · exact List.forall_mem_cons.2 ⟨(mem_occurrences_iff withinHere).2 begins, occur⟩
    cases names with
    | nil =>
      cases areOthers
      exact .singleton _
    | cons next names =>
      rw [matched?_cons] at areOthers
      obtain ⟨later, isLater, found⟩ := Option.bind_eq_some_iff.1 areOthers
      obtain ⟨more, -, rfl⟩ := Option.map_eq_some_iff.1 found
      obtain ⟨partLater, beginsLater⟩ := mem_members_iff.1 (mem_members_of_seekQuoted isLater)
      refine List.isChain_cons_cons.2 ⟨⟨offsetOf_le partLater, fun together => ?_, fun isNext => ?_⟩,
        steps⟩
      · dsimp only at together ⊢
        rw [together]
        exact (mem_occurrences_iff (partLater.trans withinHere)).2 beginsLater
      · -- The next name is sought from here on, and it is here.
        have stays := seekKey_of_beginsMember ((mem_occurrences_iff withinHere).1 isNext)
        cases isLater.symm.trans stays
        rfl

/-- Where the names have no quotes, each is found behind the one that encloses it if and only if no
name is the one before it. -/
theorem MatchesPath.increasing_iff {path : List String} {places : List (String × Nat)}
    (found : MatchesPath text path places) (unquoted : ∀ name ∈ path, '"' ∉ name.toList) :
    places.IsChain (·.2 < ·.2) ↔ path.IsChain (· ≠ ·) := by
  obtain ⟨rfl, occur, steps⟩ := found
  induction places with
  | nil => exact iff_of_true .nil .nil
  | cons outer places inductionHypothesis =>
    cases places with
    | nil => exact iff_of_true (.singleton _) (.singleton _)
    | cons inner places =>
      obtain ⟨occurOuter, occurRest⟩ := List.forall_mem_cons.1 occur
      obtain ⟨unquotedOuter, unquotedRest⟩ := List.forall_mem_cons.1 unquoted
      obtain ⟨⟨ordered, together⟩, stepsRest⟩ := List.isChain_cons_cons.1 steps
      have behind : outer.2 < inner.2 ↔ outer.1 ≠ inner.1 := by
        rw [Nat.lt_iff_le_and_ne, and_iff_right ordered, Ne, together]
        refine not_congr ⟨fun isInner => ?_, fun same => same ▸ occurOuter⟩
        exact eq_of_mem_occurrences unquotedOuter (unquotedRest inner.1 List.mem_cons_self) occurOuter
          isInner
      have rest := inductionHypothesis occurRest stepsRest unquotedRest
      simp only [List.map_cons, List.isChain_cons_cons] at rest ⊢
      exact and_congr behind rest

theorem seekBlock_eq_matched? (text : List Char) (name : String) (names : List String)
    (cs : List Char) :
    (seekBlock 0 name names cs).map (offsetOf text) =
      ((matched? text (name :: names) cs).bind List.getLast?).map (·.2) := by
  induction names generalizing name cs with
  | nil =>
    rw [seekBlock_nil, matched?_cons]
    cases seekKey name cs <;> rfl
  | cons next names inductionHypothesis =>
    rw [seekBlock_cons, matched?_cons]
    cases seekKey name cs with
    | none => rfl
    | some found =>
      refine (inductionHypothesis next found).trans ?_
      rw [Option.bind_some, matched?_cons]
      cases seekKey next found with
      | none => rfl
      | some later =>
        rw [Option.bind_some]
        cases matched? text names later <;> rfl

/-! ## The first look-up -/

/-- The first look-up of a path in the index of a JSON file gives the line at which its last name is
found, or the first line where a name is not found. Each name is found where it occurs, and not before
the place of the enclosing name; at that place if it occurs there, and behind it otherwise. So where
the names have no quotes, one place stands for two of them if and only if a name is the one before
it. -/
theorem locate_first_member (filename text : String) (earlier : List Header) (query : Header)
    (first : query.key ∉ earlier.map Header.key) :
    let index := (BlockIndex.scan filename .json text).after earlier
    let matched := matched? text.toList query.path text.toList
    (index.locate query.word query.labels).1 =
      ⟨filename, ((matched.bind List.getLast?).map fun last => lineAt text.toList last.2).getD 1⟩ ∧
    ∀ places ∈ matched, MatchesPath text.toList query.path places ∧
      ((∀ name ∈ query.path, '"' ∉ name.toList) →
        (places.IsChain (·.2 < ·.2) ↔ query.path.IsChain (· ≠ ·))) := by
  intro index matched
  constructor
  · have line := seekBlock_eq_matched? text.toList query.word query.labels text.toList
    rw [BlockIndex.locate_after_json, List.count_eq_zero.2 first, jsonLine?_eq]
    rw [BlockIndex.scan, line, Option.map_map]
    rfl
  · intro places found
    have matchesPath := matchesPath_of_matched? (List.suffix_refl text.toList) found
    exact ⟨matchesPath, matchesPath.increasing_iff⟩

/-- A file with two variables, one of which has the word for variables as its name. -/
def selfNamedVariable : String :=
  "\x7b\"variable\": \x7b\n  \"region\": \x7b\x7d,\n  \"variable\": \x7b\x7d\n\x7d\x7d"

theorem selfNamedVariable_located :
    let text := selfNamedVariable.toList
    let index := (BlockIndex.scan "main.tf.json" .json selfNamedVariable).after [⟨"output", ["id"]⟩]
    (index.locate "variable" ["region"]).1 = ⟨"main.tf.json", 2⟩ ∧
    (index.locate "variable" ["variable"]).1 = ⟨"main.tf.json", 1⟩ ∧
    MatchesPath text ["variable", "region"] [("variable", 1), ("region", 17)] ∧
    MatchesPath text ["variable", "variable"] [("variable", 1), ("variable", 1)] ∧
    occurrences "variable" text = [1, 33] := by
  intro text index
  have region := locate_first_member "main.tf.json" selfNamedVariable [⟨"output", ["id"]⟩]
    ⟨"variable", ["region"]⟩ (by decide)
  have self := locate_first_member "main.tf.json" selfNamedVariable [⟨"output", ["id"]⟩]
    ⟨"variable", ["variable"]⟩ (by decide)
  have placesOfRegion : matched? text ["variable", "region"] text =
      some [("variable", 1), ("region", 17)] := by decide +kernel
  have placesOfSelf : matched? text ["variable", "variable"] text =
      some [("variable", 1), ("variable", 1)] := by decide +kernel
  refine ⟨region.1.trans ?_, self.1.trans ?_, (region.2 _ placesOfRegion).1,
    (self.2 _ placesOfSelf).1, by decide +kernel⟩
  · rw [Header.path, placesOfRegion]
    decide +kernel
  · rw [Header.path, placesOfSelf]
    decide +kernel

/-- That the line of a block is that of an occurrence of its last name behind occurrences of the names
that enclose it is false: the variable in the file above is located on the first line, and on that
line there is only the word for variables. -/
theorem self_named_variable_misplaced :
    ¬ ∀ (filename text : String) (query : Header), query.labels ≠ [] →
      (Value.parse text).isOk = true → (matched? text.toList query.path text.toList).isSome = true →
      ∃ offsets : List Nat,
        List.Forall₂ (fun name offset => offset ∈ occurrences name text.toList) query.path offsets ∧
        offsets.IsChain (· < ·) ∧
        offsets.getLast?.map (fun last => ⟨filename, lineAt text.toList last⟩) =
          some ((BlockIndex.scan filename .json text).locate query.word query.labels).1 := by
  intro behind
  obtain ⟨offsets, occur, increasing, sameLine⟩ := behind "main.tf.json" selfNamedVariable
    ⟨"variable", ["variable"]⟩ (by decide) (by decide +kernel) (by decide +kernel)
  have twice : occurrences "variable" selfNamedVariable.toList = [1, 33] := by decide +kernel
  have located : ((BlockIndex.scan "main.tf.json" .json selfNamedVariable).locate "variable"
      ["variable"]).1 = ⟨"main.tf.json", 1⟩ := by decide +kernel
  have laterLine : lineAt selfNamedVariable.toList 33 = 3 := by decide +kernel
  cases occur with
  | @cons _ outer _ _ isOuter occur =>
    cases occur with
    | @cons _ inner _ _ isInner occur =>
      cases occur
      rw [twice] at isOuter isInner
      have ordered : outer < inner := (List.isChain_cons_cons.1 increasing).1
      -- Two occurrences one behind the other can only be those on the first and the third line.
      obtain rfl : inner = 33 := by
        simp only [List.mem_cons, List.not_mem_nil, or_false] at isOuter isInner
        omega
      simp [located, laterLine] at sameLine

end ModuleSurvey
