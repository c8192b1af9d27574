import ModuleSurvey.Proofs.BlockIndex.Occurrences

/-! # Members of a JSON text

The look-up of a path of names takes the first occurrence of each enclosing name behind the one
before, and the occurrences of the last name one after the other. The search seeks a name from the
occurrence of the one before it on, and not behind it. That makes no difference as long as the two
names are not the same.

* `pathOffset?` — the rule, in terms of the occurrences of the names.
* `seekBlock_eq` — the search follows it, by induction on the path.
* `locate_json_member` — the place that a look-up gives.
-/

namespace ModuleSurvey

variable {text cs rest : List Char} {name : String}

/-! ## Paths -/

def pathOffset? (text : List Char) (seen : Nat) : (start : Nat) → (names : List String) → Option Nat
  | _, [] => none
  | start, [name] =>
    -- Of the last name the occurrence number `seen` is taken, counted from zero, or the last one.
    let found := (occurrences name text).filter (start ≤ ·)
    found[seen]?.or found.getLast?
  | start, name :: next :: names => do
    -- Every other name is taken where it occurs first, and the next one is sought behind it.
    let enclosing ← (occurrences name text).find? (start ≤ ·)
    pathOffset? text seen (enclosing + 1) (next :: names)

theorem eq_of_beginsQuoted {other : String} (unquoted : '"' ∉ name.toList)
    (unquotedOther : '"' ∉ other.toList) (begins : beginsQuoted name cs = true)
    (beginsOther : beginsQuoted other cs = true) : name = other := by
  obtain ⟨rest, rfl⟩ := beginsQuoted_iff.1 begins
  obtain ⟨restOther, same⟩ := beginsQuoted_iff.1 beginsOther
  -- The second quote is the first one behind the opening quote.
  have cut : ∀ {name : String} {rest : List Char}, '"' ∉ name.toList →
      Text.cutAtFirst? '"' ((quotedKey name).tail ++ rest) = some (name.toList, rest) := by
    intro name rest unquoted
    exact Text.cutAtFirst?_eq_some_iff.2 ⟨by simp [quotedKey], unquoted⟩
  have behind : (quotedKey other).tail ++ restOther = (quotedKey name).tail ++ rest :=
    congrArg List.tail same
  have sameCut := (cut unquoted).symm.trans (behind ▸ cut unquotedOther)
  exact String.toList_inj.1 (Prod.mk.inj (Option.some.inj sameCut)).1

/-- Behind an occurrence of one name no other name is passed over. -/
theorem filter_occurrences_behind {next : String} (within : cs <:+ text)
    (begins : beginsMember name cs = true) (unquoted : '"' ∉ name.toList)
    (unquotedNext : '"' ∉ next.toList) (differ : name ≠ next) :
    (occurrences next text).filter (offsetOf text cs + 1 ≤ ·) =
      (members next cs).map (offsetOf text) := by
  have quoted := beginsQuoted_of_beginsMember begins
  obtain ⟨behind, rfl⟩ := exists_cons_of_beginsQuoted quoted
  have notNext : ¬ beginsMember next ('"' :: behind) = true := fun beginsNext =>
    differ (eq_of_beginsQuoted unquoted unquotedNext quoted (beginsQuoted_of_beginsMember beginsNext))
  have step : offsetOf text ('"' :: behind) + 1 = offsetOf text behind :=
    offsetOf_add ['"'] behind within
  rw [step, filter_occurrences ((List.suffix_cons _ _).trans within), members_cons, if_neg notNext]

theorem seekPath_suffix {names : List String} (found : seekPath names cs = some rest) :
    rest <:+ cs := by
  induction names generalizing cs with
  | nil =>
    cases found
    exact List.suffix_refl _
  | cons name names inductionHypothesis =>
    obtain ⟨enclosing, here, found⟩ := Option.bind_eq_some_iff.1 found
    exact (inductionHypothesis found).trans (seekKey_suffix here)

/-- The end of a text at which the search for a path stops. -/
def seekBlock (seen : Nat) (name : String) (names : List String) (cs : List Char) :
    Option (List Char) :=
  (seekPath (name :: names).dropLast cs).bind fun found =>
    (seekKey (names.getLastD name) found).map (seekLater (names.getLastD name) seen)

theorem seekBlock_nil (seen : Nat) (name : String) (cs : List Char) :
    seekBlock seen name [] cs = (seekKey name cs).map (seekLater name seen) := rfl

theorem seekBlock_cons (seen : Nat) (name next : String) (names : List String) (cs : List Char) :
    seekBlock seen name (next :: names) cs =
      (seekKey name cs).bind (seekBlock seen next names) := by
  simp only [seekBlock, List.dropLast_cons_cons, List.getLastD_cons, seekPath, bind,
    Option.bind_assoc]
  rfl

theorem seekBlock_suffix {seen : Nat} {names : List String}
    (found : seekBlock seen name names cs = some rest) : rest <:+ cs := by
  obtain ⟨start, isStart, found⟩ := Option.bind_eq_some_iff.1 found
  obtain ⟨first, isFirst, rfl⟩ := Option.map_eq_some_iff.1 found
  exact (seekLater_suffix _ seen first).trans
    ((seekKey_suffix isFirst).trans (seekPath_suffix isStart))

theorem jsonLine?_eq (x : BlockIndex) (word : String) (labels : List String) (seen : Nat) :
    x.jsonLine? word labels seen =
      ((seekBlock seen word labels x.text).map (offsetOf x.text)).map (lineAt x.text) := by
  have lines : x.jsonLine? word labels seen =
      (seekBlock seen word labels x.text).map (lineOfRest x.text) := by
    simp only [BlockIndex.jsonLine?, seekBlock, List.getLastD_cons, bind, Option.map_bind]
    refine Option.bind_congr fun start _ => ?_
    rw [Function.comp_apply, Option.map_map]
    cases seekKey (labels.getLastD word) start <;> rfl
  rw [lines, Option.map_map]
  exact Option.map_congr fun found isFound => lineOfRest_eq (seekBlock_suffix isFound)

/-- The search for a path finds what the rule says. It seeks each name from an occurrence of the
enclosing one on. That is another name, so no occurrence of the name sought is there. -/
theorem seekBlock_eq {names : List String} (seen start : Nat) (within : cs <:+ text)
    (unquoted : ∀ other ∈ name :: names, '"' ∉ other.toList)
    (differ : (name :: names).IsChain (· ≠ ·))
    (apart : ∀ other ∈ name :: names, SearchedApart other text)
    (unpassed : (occurrences name text).filter (start ≤ ·) =
      (members name cs).map (offsetOf text)) :
    (seekBlock seen name names cs).map (offsetOf text) =
      pathOffset? text seen start (name :: names) := by
  induction names generalizing name cs start with
  | nil =>
    have apartHere := (apart name List.mem_cons_self).of_suffix within
    rw [pathOffset?, unpassed, List.getElem?_map, List.getLast?_map, seekBlock_nil,
      seekLater_eq apartHere]
    cases (members name cs)[seen]? <;> rfl
  | cons next names inductionHypothesis =>
    obtain ⟨unquotedName, unquotedRest⟩ := List.forall_mem_cons.1 unquoted
    obtain ⟨apartName, apartRest⟩ := List.forall_mem_cons.1 apart
    obtain ⟨different, differRest⟩ := List.isChain_cons_cons.1 differ
    have first : (occurrences name text).find? (start ≤ ·) =
        (members name cs).head?.map (offsetOf text) := by
      rw [← List.head?_filter, unpassed, List.head?_map]
    rw [pathOffset?, first, seekBlock_cons, seekKey_eq (apartName.of_suffix within)]
    cases found : (members name cs).head? with
    | none => rfl
    | some enclosing =>
      -- The rule goes on behind the enclosing name and the search at it, which is the same.
      obtain ⟨part, begins⟩ := mem_members_iff.1 (List.mem_of_head? found)
      exact inductionHypothesis _ (part.trans within) unquotedRest differRest apartRest
        (filter_occurrences_behind (part.trans within) begins unquotedName
          (unquotedRest next List.mem_cons_self) different)

/-! ## The law -/

def Header.path (h : Header) : List String := h.word :: h.labels

/-- After any look-ups in the index of a JSON file, the look-up of a path gives the line of the byte
that the rule finds, and the first line where it finds none. Earlier look-ups count by their words in
a row; where no word has a space in it, these are the look-ups of the same path. -/
theorem locate_json_member (filename text : String) (earlier : List Header) (query : Header)
    (unquoted : ∀ name ∈ query.path, '"' ∉ name.toList) (differ : query.path.IsChain (· ≠ ·))
    (apart : ∀ name ∈ query.path, QuotationsApart name text.toList) :
    let index := (BlockIndex.scan filename .json text).after earlier
    let seen := (earlier.map Header.key).count query.key
    (index.locate query.word query.labels).1 =
      ⟨filename, ((pathOffset? text.toList seen 0 query.path).map (lineAt text.toList)).getD 1⟩ ∧
    ((∀ h ∈ query :: earlier, h.Spaceless) → seen = earlier.count query) := by
  intro index seen
  constructor
  · have unpassed : (occurrences query.word text.toList).filter (0 ≤ ·) =
        (members query.word text.toList).map (offsetOf text.toList) :=
      List.filter_eq_self.2 fun _ _ => decide_eq_true (Nat.zero_le _)
    have found := seekBlock_eq seen 0 (List.suffix_refl text.toList) unquoted differ
      (fun name member => (apart name member).searchedApart) unpassed
    rw [BlockIndex.locate_after_json, jsonLine?_eq, Header.path, ← found]
    rfl
  · intro spaceless
    obtain ⟨spacelessQuery, spacelessEarlier⟩ := List.forall_mem_cons.1 spaceless
    exact Header.count_key spacelessQuery spacelessEarlier

/-- A file that declares one variable twice, and whose name is also the value of a default. -/
def repeatedMembers : String :=
  "\x7b\n\"variable\": [\n\x7b\"a\": \x7b\x7d\x7d,\n\x7b\"b\": \x7b\"default\": \"a\"\x7d\x7d,\n\x7b\"a\" : 1\x7d\n]\x7d"

theorem repeatedMembers_located :
    let a : Header := ⟨"variable", ["a"]⟩
    let b : Header := ⟨"variable", ["b"]⟩
    let located earlier (query : Header) :=
      (((BlockIndex.scan "main.tf.json" .json repeatedMembers).after earlier).locate query.word
        query.labels).1
    located [] a = ⟨"main.tf.json", 3⟩ ∧ located [a, b] a = ⟨"main.tf.json", 5⟩ ∧
      located [a, b, a] a = ⟨"main.tf.json", 5⟩ ∧ located [a, a] b = ⟨"main.tf.json", 4⟩ ∧
      [a, b].count a = ([a, b].map Header.key).count a.key := by
  intro a b located
  have apartA : ∀ name ∈ a.path, QuotationsApart name repeatedMembers.toList := by decide +kernel
  have apartB : ∀ name ∈ b.path, QuotationsApart name repeatedMembers.toList := by decide +kernel
  have ofA := fun earlier =>
    locate_json_member "main.tf.json" repeatedMembers earlier a (by decide) (by decide) apartA
  have ofB := fun earlier =>
    locate_json_member "main.tf.json" repeatedMembers earlier b (by decide) (by decide) apartB
  have lines : ∀ seen names line,
      (pathOffset? repeatedMembers.toList seen 0 names).map (lineAt repeatedMembers.toList) =
        some line → SourcePos.mk "main.tf.json" (((pathOffset? repeatedMembers.toList seen 0
          names).map (lineAt repeatedMembers.toList)).getD 1) = ⟨"main.tf.json", line⟩ := by
    intro seen names line found
    rw [found]
    rfl
  refine ⟨?_, ?_, ?_, ?_, ?_⟩
  · exact (ofA []).1.trans (lines 0 ["variable", "a"] 3 (by decide +kernel))
  · exact (ofA [a, b]).1.trans (lines 1 ["variable", "a"] 5 (by decide +kernel))
  · exact (ofA [a, b, a]).1.trans (lines 2 ["variable", "a"] 5 (by decide +kernel))
  · exact (ofB [a, a]).1.trans (lines 0 ["variable", "b"] 4 (by decide +kernel))
  · exact ((ofA [a, b]).2 (by decide)).symm

end ModuleSurvey
