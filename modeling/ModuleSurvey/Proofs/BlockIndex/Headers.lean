import ModuleSurvey.Proofs.BlockIndex.Lookups
import Mathlib.Data.List.Basic

/-! # Headers of native blocks

The grammar of a line that opens a block, and the proof that reading a line finds the header that the
grammar gives it. So the look-ups of a header go through the lines that it opens, one after the other.

* `Header.Opens` — the grammar.
* `Header.ofLine?_eq_some_iff` — a line is read as a header if and only if that header opens it.
* `locate_native_header` — the place that a look-up gives.
-/

namespace ModuleSurvey

namespace Header

open Text (IsBlank trimStart_append trimStart_of_solid exists_trimStart)

/-! ## The grammar -/

def IsName : List Char → Prop
  | [] => False
  | c :: cs => startsName c = true ∧ ∀ d ∈ cs, continuesName d = true

inductive WritesLabel : List Char → String → Prop
  | name {cs : List Char} (named : IsName cs) : WritesLabel cs (String.ofList cs)
  | quoted {cs : List Char} (unquoted : '"' ∉ cs) :
      WritesLabel ('"' :: cs ++ ['"']) (String.ofList cs)

inductive WritesLabels : List Char → List String → Prop
  | nil : WritesLabels [] []
  | cons {space written more : List Char} {label : String} {labels : List String}
      (blank : IsBlank space) (apart : space ≠ []) (first : WritesLabel written label)
      (others : WritesLabels more labels) :
      WritesLabels (space ++ (written ++ more)) (label :: labels)

/-- A line that opens a block: a name, labels and an opening brace, with white space in front of the
name and of the brace, and anything behind it. -/
def Opens (h : Header) (line : List Char) : Prop :=
  ∃ indent word labels space rest : List Char,
    line = indent ++ (word ++ (labels ++ (space ++ '\x7b' :: rest))) ∧
    IsBlank indent ∧ IsName word ∧ String.ofList word = h.word ∧
    WritesLabels labels h.labels ∧ IsBlank space

/-! ## Characters -/

def EndsName (rest : List Char) : Prop := ∀ c cs, rest = c :: cs → continuesName c = false

theorem continuesName_of_isBlank {c : Char} (blank : Text.isBlank c = true) :
    continuesName c = false := by
  refine Bool.eq_false_iff.2 fun continues => ?_
  simp only [Text.isBlank, continuesName, startsName, Text.isAsciiLetter, Char.isDigit,
    Bool.or_eq_true, Bool.and_eq_true, decide_eq_true_eq, beq_iff_eq, ← Char.toNat_inj,
    Char.le_def, UInt32.le_iff_toNat_le, Char.toNat_val, ge_iff_le] at blank continues
  simp only [Char.reduceToNat] at continues
  -- Both are ranges of code points by now.
  omega

theorem isBlank_of_startsName {c : Char} (starts : startsName c = true) :
    Text.isBlank c = false := by
  refine Bool.eq_false_iff.2 fun blank => ?_
  have continues : continuesName c = true := by simp [continuesName, starts]
  exact Bool.false_ne_true ((continuesName_of_isBlank blank).symm.trans continues)

theorem endsName_of_blank {space : List Char} (blank : IsBlank space) (apart : space ≠ [])
    (rest : List Char) : EndsName (space ++ rest) := by
  obtain ⟨d, space, rfl⟩ := List.exists_cons_of_ne_nil apart
  intro c cs same
  obtain ⟨rfl, -⟩ := List.cons.inj same
  exact continuesName_of_isBlank (blank d List.mem_cons_self)

theorem endsName_of_brace {space : List Char} (blank : IsBlank space) (rest : List Char) :
    EndsName (space ++ '\x7b' :: rest) := by
  cases space with
  | nil =>
    intro c cs same
    obtain ⟨rfl, -⟩ := List.cons.inj same
    decide
  | cons d space => exact endsName_of_blank blank (List.cons_ne_nil d space) _

/-! ## Names -/

theorem takeName?_append {name rest : List Char} (named : IsName name) (ends : EndsName rest) :
    takeName? (name ++ rest) = some (String.ofList name, rest) := by
  cases name with
  | nil => cases named
  | cons c cs =>
    obtain ⟨starts, continues⟩ := named
    have noMore : rest.takeWhile continuesName = [] ∧ rest.dropWhile continuesName = rest := by
      cases rest with
      | nil => exact ⟨rfl, rfl⟩
      | cons d rest => simp [ends d rest rfl]
    simp only [List.cons_append, takeName?, starts, if_true]
    rw [List.takeWhile_append_of_pos continues, List.dropWhile_append_of_pos continues, noMore.1,
      noMore.2, List.append_nil]

theorem isName_of_takeName? {cs rest : List Char} {name : String}
    (taken : takeName? cs = some (name, rest)) :
    IsName name.toList ∧ cs = name.toList ++ rest := by
  cases cs with
  | nil => cases taken
  | cons c cs =>
    by_cases starts : startsName c = true
    · simp only [takeName?, starts, if_true, Option.some.injEq, Prod.mk.injEq] at taken
      obtain ⟨rfl, rfl⟩ := taken
      rw [String.toList_ofList]
      refine ⟨⟨starts, fun d member => List.mem_takeWhile_imp member⟩, ?_⟩
      rw [List.cons_append, List.takeWhile_append_dropWhile]
    · simp [takeName?, starts] at taken

/-! ## Labels -/

variable {written : List Char} {label : String} {labels : List String}

theorem WritesLabel.exists_head (writes : WritesLabel written label) :
    ∃ c cs, written = c :: cs ∧ Text.isBlank c = false ∧ c ≠ '\x7b' := by
  cases writes with
  | name named =>
    cases written with
    | nil => cases named
    | cons c cs =>
      refine ⟨c, cs, rfl, isBlank_of_startsName named.1, ?_⟩
      rintro rfl
      exact absurd named.1 (by decide)
  | quoted unquoted => exact ⟨_, _, rfl, by decide, by decide⟩

theorem takeLabel?_append (writes : WritesLabel written label) {rest : List Char}
    (ends : EndsName rest) : takeLabel? (written ++ rest) = some (label, rest) := by
  cases writes with
  | name named =>
    have read := takeName?_append named ends
    cases written with
    | nil => cases named
    | cons c cs =>
      -- A name does not begin with a quote, so it is not taken for a label between quotes.
      have notQuote : c ≠ '"' := by
        rintro rfl
        exact absurd named.1 (by decide)
      rw [← read, takeLabel?.eq_def]
      split
      · simp_all
      · rfl
  | @quoted inside unquoted =>
    have cut : Text.cutAtFirst? '"' (inside ++ '"' :: rest) = some (inside, rest) :=
      Text.cutAtFirst?_eq_some_iff.2 ⟨rfl, unquoted⟩
    simp [takeLabel?, cut]

theorem writesLabel_of_takeLabel? {cs rest : List Char} (taken : takeLabel? cs = some (label, rest)) :
    ∃ written, WritesLabel written label ∧ cs = written ++ rest := by
  rw [takeLabel?.eq_def] at taken
  split at taken
  case h_1 cs =>
    obtain ⟨⟨inside, behind⟩, cut, same⟩ := Option.map_eq_some_iff.1 taken
    obtain ⟨rfl, unquoted⟩ := Text.cutAtFirst?_eq_some_iff.1 cut
    cases same
    exact ⟨_, .quoted unquoted, by simp⟩
  case h_2 =>
    obtain ⟨named, split⟩ := isName_of_takeName? taken
    refine ⟨label.toList, ?_, split⟩
    simpa using WritesLabel.name named

theorem WritesLabels.length_le (writes : WritesLabels written labels) :
    labels.length ≤ written.length := by
  induction writes with
  | nil => exact Nat.le_refl 0
  | @cons space written more label labels blank apart first others inductionHypothesis =>
    have notEmpty : 0 < space.length := List.length_pos_iff.2 apart
    simp only [List.length_cons, List.length_append]
    omega

theorem WritesLabels.endsName (writes : WritesLabels written labels) {rest : List Char}
    (ends : EndsName rest) : EndsName (written ++ rest) := by
  cases writes with
  | nil => exact ends
  | cons blank apart first others =>
    rw [List.append_assoc]
    exact endsName_of_blank blank apart _

theorem labelsOf?_of_brace {steps : Nat} {space : List Char} (blank : IsBlank space)
    (rest : List Char) : labelsOf? (steps + 1) (space ++ '\x7b' :: rest) = some [] := by
  rw [labelsOf?, trimStart_append blank, trimStart_of_solid (by decide)]
  rfl

theorem labelsOf?_of_label {steps : Nat} {space rest : List Char} (blank : IsBlank space)
    (apart : space ≠ []) (writes : WritesLabel written label) (ends : EndsName rest) :
    labelsOf? (steps + 1) (space ++ (written ++ rest)) =
      (labelsOf? steps rest).map fun labels => label :: labels := by
  have read := takeLabel?_append writes ends
  obtain ⟨c, cs, rfl, solid, notBrace⟩ := writes.exists_head
  -- The reader sees that there is white space by the text getting shorter.
  have longer : ¬ (c :: cs ++ rest).length = (space ++ (c :: cs ++ rest)).length := by
    have notEmpty : 0 < space.length := List.length_pos_iff.2 apart
    simp only [List.length_append]
    omega
  rw [List.cons_append] at *
  rw [labelsOf?, trimStart_append blank, trimStart_of_solid solid]
  split
  case h_1 same => exact absurd (List.cons.inj same).1 notBrace
  case h_2 =>
    rw [if_neg longer, read, Option.map_eq_bind]
    rfl

theorem labelsOf?_of_writes (writes : WritesLabels written labels) {space : List Char}
    (blankEnd : IsBlank space) (rest : List Char) {steps : Nat} (enough : labels.length < steps) :
    labelsOf? steps (written ++ (space ++ '\x7b' :: rest)) = some labels := by
  induction writes generalizing steps with
  | nil =>
    obtain ⟨steps, rfl⟩ := Nat.exists_eq_add_one.2 enough
    exact labelsOf?_of_brace blankEnd rest
  | @cons spaceFirst written more label labels blank apart first others inductionHypothesis =>
    obtain ⟨steps, rfl⟩ := Nat.exists_eq_add_one.2 (Nat.zero_lt_of_lt enough)
    have ends : EndsName (more ++ (space ++ '\x7b' :: rest)) :=
      others.endsName (endsName_of_brace blankEnd rest)
    rw [List.append_assoc, List.append_assoc, labelsOf?_of_label blank apart first ends,
      inductionHypothesis (Nat.lt_of_succ_lt_succ enough)]
    rfl

theorem writes_of_labelsOf? {steps : Nat} {cs : List Char}
    (read : labelsOf? steps cs = some labels) :
    ∃ written space rest, cs = written ++ (space ++ '\x7b' :: rest) ∧
      WritesLabels written labels ∧ IsBlank space := by
  induction steps generalizing cs labels with
  | zero => cases read
  | succ steps inductionHypothesis =>
    obtain ⟨space, blank, split⟩ := exists_trimStart cs
    rw [labelsOf?] at read
    split at read
    case h_1 rest opened =>
      cases read
      exact ⟨[], space, rest, opened ▸ split, .nil, blank⟩
    case h_2 =>
      split at read
      case isTrue => cases read
      case isFalse longer =>
        obtain ⟨⟨label, behind⟩, taken, read⟩ := Option.bind_eq_some_iff.1 read
        obtain ⟨more, readMore, same⟩ := Option.bind_eq_some_iff.1 read
        cases same
        obtain ⟨written, writesFirst, front⟩ := writesLabel_of_takeLabel? taken
        obtain ⟨others, spaceEnd, rest, rfl, writesMore, blankEnd⟩ := inductionHypothesis readMore
        have apart : space ≠ [] := by
          rintro rfl
          exact longer (congrArg List.length split).symm
        refine ⟨space ++ (written ++ others), spaceEnd, rest, ?_,
          .cons blank apart writesFirst writesMore, blankEnd⟩
        rw [split, front]
        simp

/-! ## Lines -/

/-- A line is read as the header that opens it, and as none if there is none. -/
theorem ofLine?_eq_some_iff {line : List Char} {h : Header} :
    ofLine? line = some h ↔ h.Opens line := by
  constructor
  · intro read
    obtain ⟨⟨word, behind⟩, taken, read⟩ := Option.bind_eq_some_iff.1 read
    obtain ⟨labels, readLabels, same⟩ := Option.bind_eq_some_iff.1 read
    cases same
    obtain ⟨indent, blank, split⟩ := exists_trimStart line
    obtain ⟨named, front⟩ := isName_of_takeName? taken
    obtain ⟨written, space, rest, rfl, writes, blankEnd⟩ := writes_of_labelsOf? readLabels
    exact ⟨indent, word.toList, written, space, rest, front ▸ split, blank, named,
      String.ofList_toList, writes, blankEnd⟩
  · rintro ⟨indent, word, written, space, rest, rfl, blank, named, sameWord, writes, blankEnd⟩
    have ends : EndsName (written ++ (space ++ '\x7b' :: rest)) :=
      writes.endsName (endsName_of_brace blankEnd rest)
    have taken := takeName?_append named ends
    have trimmed : Text.trimStart (word ++ (written ++ (space ++ '\x7b' :: rest))) =
        word ++ (written ++ (space ++ '\x7b' :: rest)) := by
      cases word with
      | nil => cases named
      | cons c cs => exact trimStart_of_solid (isBlank_of_startsName named.1)
    -- Each label takes up a character at least, so the steps suffice for all of them.
    have enough : h.labels.length <
        (indent ++ (word ++ (written ++ (space ++ '\x7b' :: rest)))).length + 1 := by
      have bound := writes.length_le
      simp only [List.length_append]
      omega
    simp only [ofLine?, trimStart_append blank, trimmed, taken, bind, Option.bind,
      labelsOf?_of_writes writes blankEnd rest enough, sameWord]
    rfl

instance (h : Header) (line : List Char) : Decidable (h.Opens line) :=
  decidable_of_iff (ofLine? line = some h) ofLine?_eq_some_iff

/-- The numbers of the lines that a header opens, which count from one. -/
def linesIn (text : List Char) (h : Header) : List Nat :=
  (((Text.lines text).zipIdx 1).filter fun (line, _) => h.Opens line).map (·.2)

end Header

/-! ## Look-ups -/

theorem Header.opens_iff_of_ofLine? {line : List Char} {h other : Header}
    (read : ofLine? line = some other) : h.Opens line ↔ other = h := by
  rw [← ofLine?_eq_some_iff, read, Option.some.injEq]

/-- Where its headers have no spaces in them, the headers of a text with the key of `h` are on the
lines that `h` opens. -/
theorem Header.filter_ofText_key {text : List Char} {h : Header} (spaceless : h.Spaceless)
    (spacelessText : ∀ line ∈ Text.lines text, ∀ other : Header, other.Opens line → other.Spaceless) :
    (((ofText text).map fun (h, number) => (h.key, number)).filter (·.1 == h.key)).map (·.2) =
      h.linesIn text := by
  have onLine : ∀ entry ∈ (Text.lines text).zipIdx,
      ((((ofLine? entry.1).map fun other => (other, entry.2 + 1)).map fun (other, number) =>
        (other.key, number)).filter (·.1 == h.key)).map (·.2) =
      if h.Opens entry.1 then some (entry.2 + 1) else none := by
    rintro ⟨line, i⟩ member
    have isLine : line ∈ Text.lines text := List.mem_of_getElem? (List.mem_zipIdx_iff_getElem?.1 member)
    cases read : ofLine? line with
    | none =>
      have notOpened : ¬ h.Opens line := fun opens => by
        rw [ofLine?_eq_some_iff.2 opens] at read
        cases read
      simp [notOpened]
    | some other =>
      -- Neither header has spaces, so the keys are the same only if the headers are.
      have spacelessOther := spacelessText line isLine other (ofLine?_eq_some_iff.1 read)
      simp only [Option.map_some, opens_iff_of_ofLine? read, ← key_inj spacelessOther spaceless]
      by_cases same : other.key = h.key <;> simp [same]
  unfold ofText linesIn
  rw [List.map_filterMap, List.filter_filterMap, List.map_filterMap, List.zipIdx_succ, List.filter_map,
    List.map_map, ← List.filterMap_eq_map, ← List.filterMap_eq_filter, List.filterMap_filterMap]
  refine List.filterMap_congr fun entry member => (onLine entry member).trans ?_
  by_cases opens : h.Opens entry.1 <;> simp [Option.guard, opens]

/-- After any look-ups in the index of a native file, the look-up of a header gives the number of a
line that this header opens: of the first such line if the header was not looked up before, of the next
one with each further look-up, and of the last one when there are no more. If it opens no line, that is
the first line of the file. -/
theorem locate_native_header (filename text : String) (earlier : List Header) (query : Header)
    (spaceless : ∀ h ∈ query :: earlier, h.Spaceless)
    (spacelessText : ∀ line ∈ Text.lines text.toList, ∀ h : Header, h.Opens line → h.Spaceless) :
    let index := (BlockIndex.scan filename .native text).after earlier
    let found := query.linesIn text.toList
    (index.locate query.word query.labels).1 =
      ⟨filename, (found[earlier.count query]?.or found.getLast?).getD 1⟩ := by
  intro index found
  obtain ⟨spacelessQuery, spacelessEarlier⟩ := List.forall_mem_cons.1 spaceless
  have sameLines := Header.filter_ofText_key spacelessQuery spacelessText
  rw [BlockIndex.locate_after_native, Header.count_key spacelessQuery spacelessEarlier]
  simp only [BlockIndex.nativeLine?, BlockIndex.scan, sameLines]
  rfl

def repeatedHeaders : String :=
  "# regions\nvariable \"a\" \x7b\x7d\n  data aws_ami \"b\" \x7b\n\x7d\nvariable a\x7b\n\x7d\n"

theorem repeatedHeaders_located :
    let a : Header := ⟨"variable", ["a"]⟩
    let b : Header := ⟨"data", ["aws_ami", "b"]⟩
    let located earlier (query : Header) :=
      (((BlockIndex.scan "main.tf" .native repeatedHeaders).after earlier).locate query.word
        query.labels).1
    located [] a = ⟨"main.tf", 2⟩ ∧ located [a, b] a = ⟨"main.tf", 5⟩ ∧
      located [a, b, a] a = ⟨"main.tf", 5⟩ ∧ located [a, a] b = ⟨"main.tf", 3⟩ ∧
      located [a] ⟨"output", ["a"]⟩ = ⟨"main.tf", 1⟩ := by
  intro a b located
  have spacelessText : ∀ line ∈ Text.lines repeatedHeaders.toList, ∀ h : Header, h.Opens line →
      h.Spaceless := by
    intro line member h opens
    have checked : ∀ line ∈ Text.lines repeatedHeaders.toList,
        ∀ h ∈ Header.ofLine? line, h.Spaceless := by decide +kernel
    exact checked line member h (Header.ofLine?_eq_some_iff.2 opens)
  have law := fun earlier query spaceless =>
    locate_native_header "main.tf" repeatedHeaders earlier query spaceless spacelessText
  have linesOfA : a.linesIn repeatedHeaders.toList = [2, 5] := by decide +kernel
  have linesOfB : b.linesIn repeatedHeaders.toList = [3] := by decide +kernel
  have noOutput : (⟨"output", ["a"]⟩ : Header).linesIn repeatedHeaders.toList = [] := by
    decide +kernel
  refine ⟨?_, ?_, ?_, ?_, ?_⟩
  · exact (law [] a (by decide)).trans (by rw [linesOfA]; rfl)
  · exact (law [a, b] a (by decide)).trans (by rw [linesOfA]; rfl)
  · exact (law [a, b, a] a (by decide)).trans (by rw [linesOfA]; rfl)
  · exact (law [a, a] b (by decide)).trans (by rw [linesOfB]; rfl)
  · exact (law [a] ⟨"output", ["a"]⟩ (by decide)).trans (by rw [noOutput]; rfl)

end ModuleSurvey
