import ModuleSurvey.Proofs.BlockIndex.Descent

/-! # Quotations that the search stops at

The search for a member stops at a quotation of its name, and where no colon follows, it goes on
behind the quotation. So it stops at quotations that do not overlap, each the first one behind the one
before. The member that it looks for may begin inside of a quotation that it has passed over, and then
it is missed: where a string ends in front of the name, the quotes around what stands between them can
be a quotation of the name, too.

* `spaced`, `find?_spaced_eq_iff` — offsets that lie apart, taken from the left, and when the first one
  that is sought is among them.
* `offsets_seekQuoted` — the search stops at such quotations, by induction along the search.
* `next_member_by_quotations` — which member is found, and when it is the next one.
-/

namespace ModuleSurvey

open Json.Fault (bytes)

/-! ## Offsets that lie apart -/

/-- Of increasing offsets those that are not before `start` and at least `width` behind one another,
taken from the left. -/
def spaced (width : Nat) : (start : Nat) → List Nat → List Nat
  | _, [] => []
  | start, i :: offsets =>
    if start ≤ i then i :: spaced width (i + width) offsets else spaced width start offsets

section

variable {width start other i : Nat} {offsets : List Nat}

theorem spaced_of_le (here : start ≤ i) :
    spaced width start (i :: offsets) = i :: spaced width (i + width) offsets := by
  rw [spaced, if_pos here]

theorem spaced_of_lt (before : i < start) :
    spaced width start (i :: offsets) = spaced width start offsets := by
  rw [spaced, if_neg (Nat.not_le.2 before)]

theorem spaced_congr (behind : ∀ i ∈ offsets, start ≤ i ∧ other ≤ i) :
    spaced width start offsets = spaced width other offsets := by
  cases offsets with
  | nil => rfl
  | cons i offsets =>
    obtain ⟨here, hereOther⟩ := behind i List.mem_cons_self
    rw [spaced_of_le here, spaced_of_le hereOther]

theorem mem_of_mem_spaced (member : i ∈ spaced width start offsets) : i ∈ offsets ∧ start ≤ i := by
  induction offsets generalizing start with
  | nil => cases member
  | cons first offsets inductionHypothesis =>
    rw [spaced] at member
    split at member
    case isTrue here =>
      rcases List.mem_cons.1 member with rfl | later
      · exact ⟨List.mem_cons_self, here⟩
      · obtain ⟨isOffset, behind⟩ := inductionHypothesis later
        exact ⟨List.mem_cons_of_mem _ isOffset, by omega⟩
    case isFalse =>
      obtain ⟨isOffset, behind⟩ := inductionHypothesis member
      exact ⟨List.mem_cons_of_mem _ isOffset, behind⟩

theorem pairwise_spaced (width start : Nat) (offsets : List Nat) :
    (spaced width start offsets).Pairwise (fun i j => i + width ≤ j) := by
  induction offsets generalizing start with
  | nil => exact .nil
  | cons first offsets inductionHypothesis =>
    rw [spaced]
    split
    · exact .cons (fun later member => (mem_of_mem_spaced member).2) (inductionHypothesis _)
    · exact inductionHypothesis _

theorem exists_spaced (increasing : offsets.Pairwise (· < ·)) (positive : 0 < width)
    (isOffset : i ∈ offsets) (behind : start ≤ i) :
    ∃ taken ∈ spaced width start offsets, taken ≤ i ∧ i < taken + width := by
  induction offsets generalizing start with
  | nil => cases isOffset
  | cons first offsets inductionHypothesis =>
    obtain ⟨least, increasingRest⟩ := List.pairwise_cons.1 increasing
    by_cases here : start ≤ first
    · rw [spaced_of_le here]
      by_cases inside : i < first + width
      · refine ⟨first, List.mem_cons_self, ?_, inside⟩
        rcases List.mem_cons.1 isOffset with rfl | later
        · exact Nat.le_refl _
        · exact Nat.le_of_lt (least i later)
      · -- The offset is behind the first one, so it is one of the others.
        have later : i ∈ offsets := (List.mem_cons.1 isOffset).resolve_left fun same => by omega
        obtain ⟨taken, member, bounds⟩ := inductionHypothesis increasingRest later (Nat.not_lt.1 inside)
        exact ⟨taken, List.mem_cons_of_mem _ member, bounds⟩
    · have later : i ∈ offsets := (List.mem_cons.1 isOffset).resolve_left fun same => by omega
      rw [spaced_of_lt (Nat.not_le.1 here)]
      exact inductionHypothesis increasingRest later behind

/-- An offset is taken if it is not within the width behind one that is. -/
theorem mem_spaced_iff (increasing : offsets.Pairwise (· < ·)) (positive : 0 < width)
    (isOffset : i ∈ offsets) (behind : start ≤ i) :
    i ∈ spaced width start offsets ↔
      ∀ taken ∈ spaced width start offsets, ¬ (taken < i ∧ i < taken + width) := by
  constructor
  · intro member taken isTaken inside
    have apart := pairwise_spaced width start offsets
    obtain ⟨before, later, split⟩ := List.append_of_mem member
    rw [split] at apart isTaken
    obtain ⟨-, apartLater, apartBefore⟩ := List.pairwise_append.1 apart
    rcases List.mem_append.1 isTaken with isBefore | isLater
    · have far := apartBefore taken isBefore i List.mem_cons_self
      omega
    · rcases List.mem_cons.1 isLater with rfl | isLater
      · omega
      · have far := List.rel_of_pairwise_cons apartLater isLater
        omega
  · intro outside
    obtain ⟨taken, isTaken, notBehind, inside⟩ := exists_spaced increasing positive isOffset behind
    have same : taken = i := by
      have noneInside := outside taken isTaken
      omega
    exact same ▸ isTaken

theorem find?_eq_some_iff_least {p : Nat → Prop} [DecidablePred p] {offsets : List Nat} {i : Nat}
    (increasing : offsets.Pairwise (· < ·)) :
    offsets.find? (fun j => decide (p j)) = some i ↔
      i ∈ offsets ∧ p i ∧ ∀ j ∈ offsets, p j → i ≤ j := by
  rw [List.find?_eq_some_iff_append]
  constructor
  · rintro ⟨holds, before, behind, rfl, none⟩
    refine ⟨by simp, of_decide_eq_true holds, fun j member holdsThere => ?_⟩
    rcases List.mem_append.1 member with earlier | later
    · have fails := none j earlier
      simp [holdsThere] at fails
    · have order := (List.pairwise_append.1 increasing).2.1
      rcases List.mem_cons.1 later with rfl | later
      · exact Nat.le_refl _
      · exact Nat.le_of_lt (List.rel_of_pairwise_cons order later)
  · rintro ⟨member, holds, least⟩
    obtain ⟨before, behind, rfl⟩ := List.append_of_mem member
    refine ⟨decide_eq_true holds, before, behind, rfl, fun j earlier => ?_⟩
    have less := (List.pairwise_append.1 increasing).2.2 j earlier i List.mem_cons_self
    simpa using fun holdsThere => Nat.not_le.2 less (least j (List.mem_append_left _ earlier) holdsThere)

/-- Of some of the offsets the first one from the start on is the first of them that is taken, if and
only if it is not within the width behind one that is taken. -/
theorem find?_spaced_eq_iff {found : List Nat} (increasing : offsets.Pairwise (· < ·))
    (positive : 0 < width) (part : found.Sublist offsets) :
    (spaced width start offsets).find? (· ∈ found) = found.find? (start ≤ ·) ↔
      ∀ i ∈ found.find? (start ≤ ·), ∀ taken ∈ spaced width start offsets,
        ¬ (taken < i ∧ i < taken + width) := by
  have apart : (spaced width start offsets).Pairwise (· < ·) :=
    (pairwise_spaced width start offsets).imp fun far => by omega
  cases next : found.find? (start ≤ ·) with
  | none =>
    -- What is taken is not before the start, so none of it is one of these.
    refine iff_of_true (List.find?_eq_none.2 fun taken isTaken isFound => ?_) nofun
    have behind := (mem_of_mem_spaced isTaken).2
    exact List.find?_eq_none.1 next taken (of_decide_eq_true isFound) (decide_eq_true behind)
  | some i =>
    obtain ⟨isFound, here, least⟩ := (find?_eq_some_iff_least (increasing.sublist part)).1 next
    simp only [Option.mem_some_iff, forall_eq']
    rw [find?_eq_some_iff_least apart, ← mem_spaced_iff increasing positive (part.subset isFound) here]
    refine ⟨And.left, fun isTaken => ⟨isTaken, isFound, fun taken member among => ?_⟩⟩
    exact least taken among (mem_of_mem_spaced member).2

end

/-! ## Where the search stops -/

variable {text cs : List Char} {name : String} {c : Char}

/-- The bytes of a text at which a quoted name begins within an end of it. -/
def quotationsIn (text : List Char) (name : String) (cs : List Char) : List Nat :=
  (cs.tails.filter (beginsQuoted name)).map (offsetOf text)

theorem quotationsIn_cons (text : List Char) (name : String) (c : Char) (cs : List Char) :
    quotationsIn text name (c :: cs) =
      if beginsQuoted name (c :: cs) then offsetOf text (c :: cs) :: quotationsIn text name cs
      else quotationsIn text name cs := by
  rw [quotationsIn, List.tails_cons, List.filter_cons]
  split <;> rfl

theorem le_of_mem_quotationsIn {i : Nat} (member : i ∈ quotationsIn text name cs) :
    offsetOf text cs ≤ i := by
  obtain ⟨rest, isRest, rfl⟩ := List.mem_map.1 member
  exact offsetOf_le ((List.mem_tails rest cs).1 (List.mem_filter.1 isRest).1)

theorem spaced_quotationsIn (width : Nat) (before : List Char) (within : before ++ cs <:+ text) :
    spaced width (offsetOf text cs) (quotationsIn text name (before ++ cs)) =
      spaced width (offsetOf text cs) (quotationsIn text name cs) := by
  induction before with
  | nil => rfl
  | cons c before inductionHypothesis =>
    have others := inductionHypothesis ((List.suffix_cons c _).trans within)
    have earlier : offsetOf text (c :: (before ++ cs)) < offsetOf text cs :=
      offsetOf_cons_lt within (List.suffix_append before cs)
    rw [List.cons_append, quotationsIn_cons]
    split
    · rw [spaced_of_lt earlier, others]
    · exact others

/-- The search stops at quotations that do not overlap, until a colon follows one. -/
theorem offsets_seekQuoted (within : cs <:+ text) (skip : Nat) :
    (seekQuoted (quotedKey name) skip cs).map (offsetOf text) =
      (spaced (bytes (quotedKey name)).length (offsetOf text (cs.drop skip))
        (quotationsIn text name cs)).find? (· ∈ occurrences name text) := by
  fun_induction seekQuoted (quotedKey name) skip cs with
  | case1 skip => simp [quotationsIn, spaced, beginsQuoted, quotedKey, Text.dropStart?]
  | case2 skip c cs inductionHypothesis =>
    -- A quotation that begins in front of where the search goes on is not taken.
    have passed : offsetOf text (c :: cs) < offsetOf text (cs.drop skip) :=
      offsetOf_cons_lt within (List.drop_suffix skip cs)
    rw [inductionHypothesis ((List.suffix_cons c cs).trans within), List.drop_succ_cons,
      quotationsIn_cons]
    split
    · rw [spaced_of_lt passed]
    · rfl
  | case3 c cs rest start colon =>
    -- The quotation at the front is taken, and the search ends at it.
    have quoted : beginsQuoted name (c :: cs) = true := by simp [beginsQuoted, start]
    have member : offsetOf text (c :: cs) ∈ occurrences name text := by
      rw [mem_occurrences_iff within]
      simp [beginsMember, start, colon]
    rw [List.drop_zero, quotationsIn_cons, if_pos quoted, spaced_of_le (Nat.le_refl _),
      List.find?_cons_of_pos (by simpa using member)]
    rfl
  | case4 c cs rest start noColon inductionHypothesis =>
    have quoted : beginsQuoted name (c :: cs) = true := by simp [beginsQuoted, start]
    have noMember : offsetOf text (c :: cs) ∉ occurrences name text := by
      rw [mem_occurrences_iff within]
      simp [beginsMember, start, noColon]
    -- The search goes on at the byte behind the quotation.
    have behind : offsetOf text (cs.drop ((quotedKey name).length - 1)) =
        offsetOf text (c :: cs) + (bytes (quotedKey name)).length := by
      have split := Text.dropStart?_eq_some_iff.1 start
      have dropped : cs.drop ((quotedKey name).length - 1) = rest := by
        have whole : (c :: cs).drop (quotedKey name).length = rest := by rw [split]; simp
        exact whole
      rw [dropped, split]
      exact (offsetOf_add (quotedKey name) rest (split ▸ within)).symm
    rw [inductionHypothesis ((List.suffix_cons c cs).trans within), behind, List.drop_zero,
      quotationsIn_cons, if_pos quoted, spaced_of_le (Nat.le_refl _),
      List.find?_cons_of_neg (by simpa using noMember)]
  | case5 c cs start inductionHypothesis =>
    -- None begins at the front, so taking can start one character later.
    have notQuoted : ¬ beginsQuoted name (c :: cs) = true := by simp [beginsQuoted, start]
    have earlier : offsetOf text (c :: cs) ≤ offsetOf text cs := offsetOf_le (List.suffix_cons c cs)
    rw [inductionHypothesis ((List.suffix_cons c cs).trans within), List.drop_zero, List.drop_zero,
      quotationsIn_cons, if_neg notQuoted]
    refine congrArg _ (spaced_congr fun i member => ?_)
    have later := le_of_mem_quotationsIn member
    exact ⟨later, Nat.le_trans earlier later⟩

/-! ## The next member -/

theorem occurrences_sublist_quotations (name : String) (text : List Char) :
    (occurrences name text).Sublist (quotations name text) :=
  (List.monotone_filter_right text.tails fun _ => beginsQuoted_of_beginsMember).map _

/-- From a place in a text on, the search for a name stops at quotations that do not overlap, each the
first one behind the one before, and it finds the first of them that a colon follows. This is the next
member of that name if and only if the next member does not begin inside of a quotation at which the
search stops; it is, where no quotation of the name begins inside of another one. -/
theorem next_member_by_quotations (name : String) (before cs : List Char) :
    let text := before ++ cs
    let start := (bytes before).length
    let width := (bytes (quotedKey name)).length
    let stops := spaced width start (quotations name text)
    let found := (seekKey name cs).map (offsetOf text)
    let next := (occurrences name text).find? (start ≤ ·)
    found = stops.find? (· ∈ occurrences name text) ∧
    (found = next ↔ ∀ i ∈ next, ∀ stop ∈ stops, ¬ (stop < i ∧ i < stop + width)) ∧
    (QuotationsApart name text → found = next) := by
  intro text start width stops found next
  have part := occurrences_sublist_quotations name text
  have stopping : found = stops.find? (· ∈ occurrences name text) := by
    have whole : stops = spaced width (offsetOf text cs) (quotationsIn text name cs) := by
      rw [← spaced_quotationsIn width before (List.suffix_refl text), offsetOf_append]
      rfl
    rw [whole]
    exact offsets_seekQuoted (List.suffix_append before cs) 0
  have exactly : found = next ↔ ∀ i ∈ next, ∀ stop ∈ stops, ¬ (stop < i ∧ i < stop + width) := by
    rw [stopping]
    exact find?_spaced_eq_iff (pairwise_offsets (beginsQuoted name) text) (length_quotedKey_pos name)
      part
  refine ⟨stopping, exactly, fun apart => exactly.2 fun i isNext stop isStop inside => ?_⟩
  have isQuotation := part.subset (List.mem_of_find?_eq_some isNext)
  have far := apart stop (mem_of_mem_spaced isStop).1 i isQuotation inside.1
  omega

/-- A file with a variable whose name is what stands between two quotes in front of it: behind the last
character of a value. -/
def bracedVariable : String :=
  "\x7b\"variable\": \x7b\n  \"a\": \x7b\"type\": \"string\"\x7d,\"\x7d,\": \x7b\x7d\n\x7d\x7d"

theorem bracedVariable_missed :
    let text := bracedVariable.toList
    let found name := (seekKey name text).map (offsetOf text)
    found "type" = (occurrences "type" text).find? (0 ≤ ·) ∧
    spaced 4 0 (quotations "\x7d," text) = [38] ∧ occurrences "\x7d," text = [41] ∧
    found "\x7d," ≠ (occurrences "\x7d," text).find? (0 ≤ ·) ∧
    ((BlockIndex.scan "main.tf.json" .json bracedVariable).locate "variable" ["\x7d,"]).1 =
      ⟨"main.tf.json", 1⟩ := by
  intro text found
  have ofType := next_member_by_quotations "type" [] text
  have ofBrace := next_member_by_quotations "\x7d," [] text
  have width : (bytes (quotedKey "\x7d,")).length = 4 := by decide +kernel
  have stops : spaced 4 0 (quotations "\x7d," text) = [38] := by decide +kernel
  have occurs : occurrences "\x7d," text = [41] := by decide +kernel
  refine ⟨ofType.2.2 (by decide +kernel), stops, occurs, fun same => ?_, by decide +kernel⟩
  have outside := ofBrace.2.1.1 same
  simp only [width, List.nil_append, occurs, show (bytes []).length = 0 from rfl, stops] at outside
  -- The member begins at the last byte of the quotation at which the search stops.
  exact outside 41 rfl 38 List.mem_cons_self (by omega)

/-- That the search finds the next member of a name is false: in the file above it finds none. -/
theorem member_behind_value_missed :
    ¬ ∀ (name : String) (before cs : List Char),
      (seekKey name cs).map (offsetOf (before ++ cs)) =
        (occurrences name (before ++ cs)).find? ((bytes before).length ≤ ·) := by
  intro finds
  have found := finds "\x7d," [] bracedVariable.toList
  have none : seekKey "\x7d," bracedVariable.toList = none := by decide +kernel
  have occurs : occurrences "\x7d," bracedVariable.toList = [41] := by decide +kernel
  rw [List.nil_append, none, occurs] at found
  cases found

end ModuleSurvey
