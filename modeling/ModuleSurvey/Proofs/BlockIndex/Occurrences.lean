import ModuleSurvey.Proofs.BlockIndex.Lookups
import ModuleSurvey.Proofs.Json.Faults

/-! # Occurrences of a name in a JSON text

Where a name stands between quotes with a colon behind it, a member may begin. The search for a name
goes from one of these occurrences to the next. It passes over a quotation without a colon as a whole,
so it finds all of them only where no quotation of the name begins inside of another one.

The search works on the ends of the text, and an end stands for the byte at which it begins.

* `offsetOf`, `lineAt` — the bytes of a text, and their lines.
* `quotations`, `occurrences` — where a name is quoted, and where a colon follows.
* `seekKey_eq`, `seekLater_eq` — the first occurrence, and the later ones.
-/

namespace ModuleSurvey

open Json.Fault (bytes bytes_append count_newline_bytes)

/-! ## Offsets -/

def offsetOf (text rest : List Char) : Nat := (bytes text).length - (bytes rest).length

def lineAt (text : List Char) (offset : Nat) : Nat := ((bytes text).take offset).count 10 + 1

variable {text cs rest : List Char} {c : Char} {name : String}

theorem offsetOf_append (before rest : List Char) :
    offsetOf (before ++ rest) rest = (bytes before).length := by
  simp [offsetOf]

theorem length_bytes_pos (notEmpty : cs ≠ []) : 0 < (bytes cs).length := by
  cases cs with
  | nil => exact absurd rfl notEmpty
  | cons c cs => simp [Json.Fault.bytes, Nat.add_pos_left c.utf8Size_pos]

theorem length_quotedKey_pos (name : String) : 0 < (bytes (quotedKey name)).length :=
  length_bytes_pos (List.cons_ne_nil _ _)

theorem length_bytes_le (part : rest <:+ cs) : (bytes rest).length ≤ (bytes cs).length := by
  obtain ⟨before, rfl⟩ := part
  simp

theorem offsetOf_le (part : rest <:+ cs) : offsetOf text cs ≤ offsetOf text rest :=
  Nat.sub_le_sub_left (length_bytes_le part) _

theorem offsetOf_add (before rest : List Char) (within : before ++ rest <:+ text) :
    offsetOf text (before ++ rest) + (bytes before).length = offsetOf text rest := by
  have bound := length_bytes_le within
  simp only [offsetOf, bytes_append, List.length_append] at bound ⊢
  omega

theorem offsetOf_cons_lt (within : c :: cs <:+ text) (part : rest <:+ cs) :
    offsetOf text (c :: cs) < offsetOf text rest := by
  have step := offsetOf_add [c] cs within
  have positive := length_bytes_pos (List.cons_ne_nil c [])
  exact Nat.lt_of_lt_of_le (by simp only [List.singleton_append] at step; omega) (offsetOf_le part)

theorem lineOfRest_eq (within : rest <:+ text) :
    lineOfRest text rest = lineAt text (offsetOf text rest) := by
  obtain ⟨before, rfl⟩ := within
  have front : (before ++ rest).take ((before ++ rest).length - rest.length) = before := by simp
  have frontBytes : (bytes (before ++ rest)).take (bytes before).length = bytes before := by simp
  rw [lineOfRest, lineAt, offsetOf_append, front, frontBytes, count_newline_bytes]

/-! ## Occurrences -/

def beginsQuoted (name : String) (cs : List Char) : Bool :=
  (Text.dropStart? (quotedKey name) cs).isSome

def beginsMember (name : String) (cs : List Char) : Bool :=
  (Text.dropStart? (quotedKey name) cs).any colonFollows

def quotations (name : String) (text : List Char) : List Nat :=
  (text.tails.filter (beginsQuoted name)).map (offsetOf text)

def members (name : String) (text : List Char) : List (List Char) :=
  text.tails.filter (beginsMember name)

def occurrences (name : String) (text : List Char) : List Nat :=
  (members name text).map (offsetOf text)

def QuotationsApart (name : String) (text : List Char) : Prop :=
  ∀ i ∈ quotations name text, ∀ j ∈ quotations name text, i < j →
    i + (bytes (quotedKey name)).length ≤ j

instance (name : String) (text : List Char) : Decidable (QuotationsApart name text) :=
  inferInstanceAs (Decidable (∀ i ∈ quotations name text, ∀ j ∈ quotations name text, i < j →
    i + (bytes (quotedKey name)).length ≤ j))

@[simp] theorem beginsMember_nil (name : String) : beginsMember name [] = false := rfl

theorem beginsQuoted_iff : beginsQuoted name cs = true ↔ quotedKey name <+: cs := by
  simp only [beginsQuoted, Option.isSome_iff_exists, Text.dropStart?_eq_some_iff]
  exact ⟨fun ⟨rest, split⟩ => ⟨rest, split.symm⟩, fun ⟨rest, split⟩ => ⟨rest, split.symm⟩⟩

theorem colonFollows_iff :
    colonFollows cs = true ↔ ∃ space rest, cs = space ++ ':' :: rest ∧ Text.IsBlank space := by
  rw [colonFollows, beq_iff_eq]
  constructor
  · intro colon
    obtain ⟨rest, front⟩ := List.head?_eq_some_iff.1 colon
    obtain ⟨space, blank, split⟩ := Text.exists_trimStart cs
    exact ⟨space, rest, front ▸ split, blank⟩
  · rintro ⟨space, rest, rfl, blank⟩
    rw [Text.trimStart_append blank, Text.trimStart_of_solid (by decide)]
    rfl

theorem beginsMember_iff :
    beginsMember name cs = true ↔
      ∃ space rest, cs = quotedKey name ++ (space ++ ':' :: rest) ∧ Text.IsBlank space := by
  rw [beginsMember, Option.any_eq_true]
  constructor
  · rintro ⟨behind, start, colon⟩
    obtain ⟨space, rest, rfl, blank⟩ := colonFollows_iff.1 colon
    exact ⟨space, rest, Text.dropStart?_eq_some_iff.1 start, blank⟩
  · rintro ⟨space, rest, split, blank⟩
    exact ⟨_, Text.dropStart?_eq_some_iff.2 split, colonFollows_iff.2 ⟨space, rest, rfl, blank⟩⟩

theorem beginsQuoted_of_beginsMember (begins : beginsMember name cs = true) :
    beginsQuoted name cs = true := by
  obtain ⟨space, rest, rfl, -⟩ := beginsMember_iff.1 begins
  exact beginsQuoted_iff.2 (List.prefix_append _ _)

theorem exists_cons_of_beginsQuoted (begins : beginsQuoted name cs = true) :
    ∃ behind, cs = '"' :: behind := by
  obtain ⟨rest, split⟩ := beginsQuoted_iff.1 begins
  exact ⟨_, split.symm⟩

theorem mem_members_iff : rest ∈ members name text ↔ rest <:+ text ∧ beginsMember name rest = true := by
  simp [members]

theorem members_cons (name : String) (c : Char) (cs : List Char) :
    members name (c :: cs) =
      if beginsMember name (c :: cs) then (c :: cs) :: members name cs else members name cs := by
  rw [members, List.tails_cons, List.filter_cons]
  rfl

theorem filter_occurrences (within : cs <:+ text) :
    (occurrences name text).filter (offsetOf text cs ≤ ·) =
      (members name cs).map (offsetOf text) := by
  have passed : ∀ before, before ++ cs <:+ text →
      ((members name (before ++ cs)).map (offsetOf text)).filter (offsetOf text cs ≤ ·) =
        (members name cs).map (offsetOf text) := by
    intro before within
    induction before with
    | nil =>
      refine List.filter_eq_self.2 ?_
      rintro _ member
      obtain ⟨rest, isMember, rfl⟩ := List.mem_map.1 member
      exact decide_eq_true (offsetOf_le (mem_members_iff.1 isMember).1)
    | cons c before inductionHypothesis =>
      have others := inductionHypothesis ((List.suffix_cons c _).trans within)
      rw [List.cons_append, members_cons]
      split
      · -- What begins in front of the rest is longer than it, so its offset is less.
        have earlier := offsetOf_cons_lt within (List.suffix_append before cs)
        rw [List.map_cons, List.filter_cons_of_neg (by simpa using earlier), others]
      · exact others
  obtain ⟨before, rfl⟩ := within
  exact passed before (List.suffix_refl _)

theorem pairwise_offsets (p : List Char → Bool) (text : List Char) :
    ((text.tails.filter p).map (offsetOf text)).Pairwise (· < ·) := by
  have ordered : ∀ cs, cs <:+ text → ((cs.tails.filter p).map (offsetOf text)).Pairwise (· < ·) := by
    intro cs within
    induction cs with
    | nil => cases holds : p [] <;> simp [holds]
    | cons c cs inductionHypothesis =>
      have others := inductionHypothesis ((List.suffix_cons c cs).trans within)
      rw [List.tails_cons, List.filter_cons]
      split
      · rw [List.map_cons, List.pairwise_cons]
        refine ⟨List.forall_mem_map.2 fun rest member => ?_, others⟩
        exact offsetOf_cons_lt within ((List.mem_tails rest cs).1 (List.mem_filter.1 member).1)
      · exact others
  exact ordered text (List.suffix_refl text)

/-! ## Searching -/

/-- No end of the text that begins with a quoted name has one more begin inside of that. -/
def SearchedApart (name : String) (cs : List Char) : Prop :=
  ∀ rest, rest <:+ cs → beginsQuoted name rest = true →
    ∀ n, 0 < n → n < (quotedKey name).length → beginsQuoted name (rest.drop n) = false

theorem SearchedApart.of_suffix (apart : SearchedApart name text) (part : cs <:+ text) :
    SearchedApart name cs :=
  fun rest within => apart rest (within.trans part)

theorem mem_quotations (within : rest <:+ text) (begins : beginsQuoted name rest = true) :
    offsetOf text rest ∈ quotations name text :=
  List.mem_map_of_mem (List.mem_filter.2 ⟨(List.mem_tails rest text).2 within, begins⟩)

theorem QuotationsApart.searchedApart (apart : QuotationsApart name text) :
    SearchedApart name text := by
  intro rest within begins n positive short
  refine Bool.eq_false_iff.2 fun beginsInside => ?_
  have split := List.take_append_drop n rest
  have withinInside : rest.drop n <:+ text := (List.drop_suffix n rest).trans within
  have between := offsetOf_add (rest.take n) (rest.drop n) (split.symm ▸ within)
  rw [split] at between
  obtain ⟨behind, rfl⟩ := beginsQuoted_iff.1 begins
  -- The first `n` characters are some of those of the quoted name, and not all of them.
  have front : (quotedKey name ++ behind).take n = (quotedKey name).take n :=
    List.take_append_of_le_length (Nat.le_of_lt short)
  have whole : (bytes ((quotedKey name).take n)).length + (bytes ((quotedKey name).drop n)).length =
      (bytes (quotedKey name)).length := by
    rw [← List.length_append, ← bytes_append, List.take_append_drop]
  have someLeft : 0 < (bytes ((quotedKey name).drop n)).length :=
    length_bytes_pos (by simpa using short)
  have somePassed : 0 < (bytes ((quotedKey name).take n)).length :=
    length_bytes_pos (by simp [Nat.ne_of_gt positive, quotedKey])
  rw [front] at between
  have far := apart _ (mem_quotations within begins) _ (mem_quotations withinInside beginsInside)
    (by omega)
  omega

theorem mem_members_of_seekQuoted {skip : Nat}
    (found : seekQuoted (quotedKey name) skip cs = some rest) : rest ∈ members name cs := by
  rw [mem_members_iff]
  fun_induction seekQuoted (quotedKey name) skip cs with
  | case1 => cases found
  | case3 c cs behind start colon =>
    cases found
    exact ⟨List.suffix_refl _, by simp [beginsMember, start, colon]⟩
  -- The search goes on behind the first character.
  | case2 | case4 | case5 =>
    rename_i inductionHypothesis
    obtain ⟨part, begins⟩ := inductionHypothesis found
    exact ⟨part.trans (List.suffix_cons _ _), begins⟩

theorem seekKey_suffix (found : seekKey name cs = some rest) : rest <:+ cs :=
  (mem_members_iff.1 (mem_members_of_seekQuoted found)).1

theorem seekLater_suffix (name : String) (more : Nat) (cs : List Char) :
    seekLater name more cs <:+ cs := by
  induction more generalizing cs with
  | zero => exact List.suffix_refl cs
  | succ more inductionHypothesis =>
    rw [seekLater]
    split
    case h_1 later found =>
      exact (inductionHypothesis _).trans ((seekKey_suffix found).trans (List.tail_suffix cs))
    case h_2 => exact List.suffix_refl cs

theorem find?_tails_drop {p : List Char → Bool} {n : Nat}
    (none : ∀ i < n, p (cs.drop i) = false) :
    cs.tails.find? p = (cs.drop n).tails.find? p := by
  induction n generalizing cs with
  | zero => rfl
  | succ n inductionHypothesis =>
    cases cs with
    | nil => rfl
    | cons c cs =>
      rw [List.tails_cons, List.find?_cons_of_neg (by simpa using none 0 (Nat.succ_pos n)),
        List.drop_succ_cons]
      exact inductionHypothesis fun i short => none (i + 1) (Nat.succ_lt_succ short)

/-- The search stops at the first occurrence. -/
theorem seekQuoted_eq (apart : SearchedApart name cs) (skip : Nat) :
    seekQuoted (quotedKey name) skip cs = (cs.drop skip).tails.find? (beginsMember name) := by
  fun_induction seekQuoted (quotedKey name) skip cs with
  | case1 skip => simp
  | case2 skip c cs inductionHypothesis =>
    exact inductionHypothesis (apart.of_suffix (List.suffix_cons c cs))
  | case3 c cs rest start colon =>
    have begins : beginsMember name (c :: cs) = true := by simp [beginsMember, start, colon]
    rw [List.drop_zero, List.tails_cons, List.find?_cons_of_pos begins]
  | case4 c cs rest start noColon inductionHypothesis =>
    have notMember : beginsMember name (c :: cs) = false := by simp [beginsMember, start, noColon]
    have quoted : beginsQuoted name (c :: cs) = true := by simp [beginsQuoted, start]
    -- The quotation is passed over as a whole, and no other one begins inside of it.
    have inside : ∀ i < (quotedKey name).length - 1, beginsMember name (cs.drop i) = false := by
      intro i short
      have notQuoted := apart (c :: cs) (List.suffix_refl _) quoted (i + 1) (Nat.succ_pos i) (by omega)
      exact Bool.eq_false_iff.2 fun begins =>
        Bool.false_ne_true (notQuoted.symm.trans (beginsQuoted_of_beginsMember begins))
    rw [inductionHypothesis (apart.of_suffix (List.suffix_cons c cs)), List.drop_zero, List.tails_cons,
      List.find?_cons_of_neg (by simp [notMember])]
    exact (find?_tails_drop inside).symm
  | case5 c cs start inductionHypothesis =>
    have notMember : beginsMember name (c :: cs) = false := by simp [beginsMember, start]
    rw [inductionHypothesis (apart.of_suffix (List.suffix_cons c cs)), List.drop_zero, List.drop_zero,
      List.tails_cons, List.find?_cons_of_neg (by simp [notMember])]

theorem seekKey_eq (apart : SearchedApart name cs) : seekKey name cs = (members name cs).head? := by
  rw [members, List.head?_filter]
  exact seekQuoted_eq apart 0

theorem members_of_head? {first : List Char} (found : (members name cs).head? = some first) :
    members name cs = first :: members name first.tail := by
  induction cs with
  | nil => cases found
  | cons c cs inductionHypothesis =>
    rw [members_cons] at found ⊢
    split
    case isTrue begins =>
      rw [if_pos begins] at found
      cases found
      rfl
    case isFalse passed =>
      rw [if_neg passed] at found
      exact inductionHypothesis found

/-- Going on from the first occurrence, the search stops at the one with the given number, or at the
last one. -/
theorem seekLater_eq (apart : SearchedApart name cs) (seen : Nat) :
    (seekKey name cs).map (seekLater name seen) =
      (members name cs)[seen]?.or (members name cs).getLast? := by
  rw [seekKey_eq apart]
  induction seen generalizing cs with
  | zero =>
    cases found : (members name cs).head? with
    | none => simp [List.head?_eq_none_iff.1 found]
    | some first => simp [members_of_head? found, seekLater]
  | succ seen inductionHypothesis =>
    cases found : (members name cs).head? with
    | none => simp [List.head?_eq_none_iff.1 found]
    | some first =>
      have within : first <:+ cs := (mem_members_iff.1 (List.mem_of_head? found)).1
      have apartLater := apart.of_suffix ((List.tail_suffix first).trans within)
      -- The others are the occurrences behind the first one, counted anew.
      have later := inductionHypothesis apartLater
      rw [members_of_head? found, List.getElem?_cons_succ, Option.map_some, seekLater,
        seekKey_eq apartLater]
      cases next : (members name first.tail).head? with
      | none => simp [List.head?_eq_none_iff.1 next]
      | some second =>
        rw [next, Option.map_some] at later
        rw [members_of_head? next] at later ⊢
        rw [List.getLast?_cons_cons]
        exact later

end ModuleSurvey
