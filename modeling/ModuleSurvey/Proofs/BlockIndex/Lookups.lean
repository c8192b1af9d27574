import ModuleSurvey.BlockIndex
import Mathlib.Data.List.TakeWhile

/-! # Look-ups in an index

An index remembers the keys of its look-ups and changes in nothing else. So the place that a look-up
gives is settled by the text of the file and by how often the same key was looked up before. Whatever
is looked up, the place is on a line of the text.

* `BlockIndex.after` — the index after some look-ups.
* `Text.piecesAt`, `Text.joined_eq_iff` — what words in a row tell of the words.
* `Header.pieces`, `Header.key_eq_iff` — what the key of a header tells of it.
* `Header.Spaceless`, `Header.key_inj` — headers that their keys tell apart.
* `Text.lastLine`, `BlockIndex.locate_inText` — the lines of a text, and of a place.
-/

namespace ModuleSurvey

namespace Text

/-! ## White space -/

def IsBlank (cs : List Char) : Prop := ∀ c ∈ cs, isBlank c = true

theorem trimStart_append {space cs : List Char} (blank : IsBlank space) :
    trimStart (space ++ cs) = trimStart cs :=
  List.dropWhile_append_of_pos blank

theorem exists_trimStart (cs : List Char) :
    ∃ space, IsBlank space ∧ cs = space ++ trimStart cs :=
  ⟨cs.takeWhile isBlank, fun _ member => List.mem_takeWhile_imp member,
    List.takeWhile_append_dropWhile.symm⟩

/-! ## Lines -/

/-- The number of the line on which a text ends: a line feed at its end begins one more line. -/
def lastLine (cs : List Char) : Nat := cs.count '\n' + 1

theorem length_splitOn (sep : Char) (cs : List Char) :
    (splitOn sep cs).length = cs.count sep + 1 := by
  induction cs with
  | nil => rfl
  | cons c cs inductionHypothesis =>
    by_cases same : c = sep
    · simp [splitOn, same, inductionHypothesis]
    · rw [splitOn, if_neg same, List.count_cons_of_ne same, ← inductionHypothesis]
      cases split : splitOn sep cs with
      | nil => simp [split] at inductionHypothesis
      | cons piece pieces => rfl

theorem length_lines_le (cs : List Char) : (lines cs).length ≤ lastLine cs := by
  have pieces := length_splitOn '\n' cs
  unfold lines
  dsimp only
  split <;> simp [lastLine] <;> omega

theorem lastLine_mono {cs ds : List Char} (part : cs.Sublist ds) : lastLine cs ≤ lastLine ds :=
  Nat.add_le_add_right (part.count_le '\n') 1

/-! ## Words in a row -/

/-- Words, cut at a character that may stand in them, too. -/
def piecesAt (sep : Char) (words : List String) : List (List Char) :=
  words.flatMap (·.toList.splitOn sep)

variable {sep : Char} {joint : String}

theorem splitOn_joined (single : joint.toList = [sep]) (word : String) (words : List String) :
    (joint.intercalate (word :: words)).toList.splitOn sep = piecesAt sep (word :: words) := by
  induction words generalizing word with
  | nil => simp [piecesAt]
  | cons next words inductionHypothesis =>
    have joined : (joint.intercalate (word :: next :: words)).toList =
        word.toList ++ sep :: (joint.intercalate (next :: words)).toList := by
      simp [String.intercalate_cons_cons, single]
    rw [joined, List.splitOn_append_cons_self, inductionHypothesis]
    rfl

/-- A character within words looks like one between them, so words in a row tell the pieces of the
words, and nothing else. -/
theorem joined_eq_iff (single : joint.toList = [sep]) {word other : String}
    {words others : List String} :
    joint.intercalate (word :: words) = joint.intercalate (other :: others) ↔
      piecesAt sep (word :: words) = piecesAt sep (other :: others) := by
  constructor
  · intro same
    rw [← splitOn_joined single, ← splitOn_joined single, same]
  · intro same
    have rejoined (word : String) (words : List String) :
        [sep].intercalate (piecesAt sep (word :: words)) =
          (joint.intercalate (word :: words)).toList := by
      rw [← splitOn_joined single, List.intercalate_splitOn]
    rw [← String.toList_inj, ← rejoined, ← rejoined, same]

end Text

/-! ## Keys -/

namespace Header

def Spaceless (h : Header) : Prop := ∀ word ∈ h.word :: h.labels, ' ' ∉ word.toList

instance (h : Header) : Decidable h.Spaceless :=
  inferInstanceAs (Decidable (∀ word ∈ h.word :: h.labels, ' ' ∉ word.toList))

def pieces (h : Header) : List (List Char) :=
  (h.word :: h.labels).flatMap (·.toList.splitOn ' ')

theorem key_eq_iff {h other : Header} : h.key = other.key ↔ h.pieces = other.pieces :=
  Text.joined_eq_iff rfl

theorem Spaceless.pieces_eq {h : Header} (spaceless : h.Spaceless) :
    h.pieces = (h.word :: h.labels).map String.toList := by
  have whole : ∀ word ∈ h.word :: h.labels, word.toList.splitOn ' ' = [word.toList] :=
    fun word member => List.splitOn_eq_singleton (spaceless word member)
  rw [pieces, List.flatMap_def, List.map_congr_left whole, ← List.flatMap_def, List.map_eq_flatMap]

theorem key_inj {h other : Header} (spaceless : h.Spaceless) (spacelessOther : other.Spaceless) :
    h.key = other.key ↔ h = other := by
  rw [key_eq_iff, spaceless.pieces_eq, spacelessOther.pieces_eq,
    List.map_inj_right fun _ _ => String.toList_inj.1]
  obtain ⟨word, labels⟩ := h
  obtain ⟨otherWord, otherLabels⟩ := other
  simp

theorem count_key {headers : List Header} {h : Header} (spaceless : h.Spaceless)
    (spacelessAll : ∀ other ∈ headers, other.Spaceless) :
    (headers.map key).count h.key = headers.count h := by
  rw [List.count, List.countP_map, List.count]
  refine List.countP_congr fun other member => ?_
  simp [key_inj (spacelessAll other member) spaceless]

end Header

/-! ## The index after look-ups -/

namespace BlockIndex

def after (x : BlockIndex) (queries : List Header) : BlockIndex :=
  queries.foldl (fun x query => (x.locate query.word query.labels).2) x

theorem after_eq (x : BlockIndex) (queries : List Header) :
    x.after queries = { x with asked := (queries.map Header.key).reverse ++ x.asked } := by
  induction queries generalizing x with
  | nil => rfl
  | cons query queries inductionHypothesis =>
    rw [after, List.foldl_cons, ← after, inductionHypothesis]
    simp [locate]

variable {filename : String} {text : String} (queries : List Header) (query : Header)

theorem locate_after_native :
    (((scan filename .native text).after queries).locate query.word query.labels).1 =
      ⟨filename, ((scan filename .native text).nativeLine? query.key
        ((queries.map Header.key).count query.key)).getD 1⟩ := by
  rw [after_eq, ← List.count_reverse]
  simp only [locate, scan, List.append_nil]
  rfl

theorem locate_after_json :
    (((scan filename .json text).after queries).locate query.word query.labels).1 =
      ⟨filename, ((scan filename .json text).jsonLine? query.word query.labels
        ((queries.map Header.key).count query.key)).getD 1⟩ := by
  rw [after_eq, ← List.count_reverse]
  simp only [locate, scan, List.append_nil]
  rfl

/-! ## Places -/

def HeadersInText (x : BlockIndex) : Prop :=
  ∀ entry ∈ x.headers, 1 ≤ entry.2 ∧ entry.2 ≤ Text.lastLine x.text

def InText (x : BlockIndex) (pos : SourcePos) : Prop :=
  pos.filename = x.filename ∧ 1 ≤ pos.line ∧ pos.line ≤ Text.lastLine x.text

theorem headersInText_scan (filename : String) (format : FileFormat) (text : String) :
    (scan filename format text).HeadersInText := by
  intro entry member
  cases format with
  | json => cases member
  | native =>
    obtain ⟨⟨h, number⟩, isHeader, rfl⟩ := List.mem_map.1 member
    obtain ⟨⟨line, i⟩, isLine, opened⟩ := List.mem_filterMap.1 isHeader
    obtain ⟨_, -, same⟩ := Option.map_eq_some_iff.1 opened
    cases same
    have inLines : i < (Text.lines text.toList).length := by
      simpa using (List.mem_zipIdx isLine).2.1
    exact ⟨Nat.le_add_left 1 i, Nat.le_trans inLines (Text.length_lines_le text.toList)⟩

variable {x : BlockIndex}

theorem inText_filePos (x : BlockIndex) : x.InText x.filePos :=
  ⟨rfl, Nat.le_refl 1, Nat.le_add_left 1 _⟩

theorem lineOfRest_le (text rest : List Char) : lineOfRest text rest ≤ Text.lastLine text :=
  Text.lastLine_mono (List.take_sublist _ text)

theorem mem_headers_of_nativeLine? {key : String} {seen line : Nat}
    (found : x.nativeLine? key seen = some line) : (key, line) ∈ x.headers := by
  have member : line ∈ (x.headers.filter (·.1 == key)).map (·.2) := by
    rcases Option.or_eq_some_iff.1 found with here | ⟨-, last⟩
    · exact List.mem_of_getElem? here
    · exact List.mem_of_getLast? last
  obtain ⟨⟨_, _⟩, kept, rfl⟩ := List.mem_map.1 member
  obtain ⟨isHeader, same⟩ := List.mem_filter.1 kept
  exact beq_iff_eq.1 same ▸ isHeader

theorem nativeLine?_eq_none_iff {key : String} {seen : Nat} :
    x.nativeLine? key seen = none ↔ ∀ line, (key, line) ∉ x.headers := by
  have nothing : x.nativeLine? key seen = none ↔ x.headers.filter (·.1 == key) = [] := by
    simp only [nativeLine?, Option.or_eq_none_iff, List.getLast?_eq_none_iff, List.map_eq_nil_iff]
    exact ⟨And.right, fun empty => ⟨by simp [empty], empty⟩⟩
  rw [nothing, List.filter_eq_nil_iff]
  constructor
  · intro others line isHeader
    exact others _ isHeader (beq_self_eq_true key)
  · rintro others ⟨_, line⟩ isHeader same
    exact others line (beq_iff_eq.1 same ▸ isHeader)

theorem locate_inText (headers : x.HeadersInText) (word : String) (labels : List String) :
    x.InText (x.locate word labels).1 := by
  obtain ⟨-, first⟩ := inText_filePos x
  refine ⟨rfl, ?_⟩
  simp only [locate]
  cases x.format with
  | native =>
    dsimp only
    cases found : x.nativeLine? (Header.mk word labels).key
        (x.asked.count (Header.mk word labels).key) with
    | none => exact first
    | some line => exact headers _ (mem_headers_of_nativeLine? found)
  | json =>
    dsimp only
    cases found : x.jsonLine? word labels (x.asked.count (Header.mk word labels).key) with
    | none => exact first
    | some line =>
      obtain ⟨start, -, found⟩ := Option.bind_eq_some_iff.1 found
      obtain ⟨later, -, found⟩ := Option.bind_eq_some_iff.1 found
      cases found
      exact ⟨Nat.le_add_left 1 _, lineOfRest_le x.text _⟩

end BlockIndex

end ModuleSurvey
