import ModuleSurvey.Proofs.BlockIndex.Headers
import ModuleSurvey.Proofs.Statement

/-! # Look-ups of different blocks

An index counts the look-ups of a block under the words of the block in a row, and a native header
stands in it under its words in a row. A label may have spaces in it, and then two blocks can have the
same words in a row: their look-ups count together, and each is found where the other one is written.
Blocks whose words differ also after they are cut at their spaces have nothing to do with each other.

* `BlockIndex.answers` — the places that a run of look-ups gives.
* `BlockIndex.answers_filter` — look-ups of other keys give the same places with and without those of
  one key.
* `Header.mem_linesIn_iff`, `BlockIndex.native_answer` — the header lines that answer a look-up.
* `lookups_apart_by_pieces` — which look-ups have to do with each other.
-/

namespace ModuleSurvey

theorem filter_filter_of_imp {α : Type} {p q : α → Bool} (implies : ∀ a, p a = true → q a = true)
    (l : List α) : (l.filter q).filter p = l.filter p := by
  rw [List.filter_filter]
  refine List.filter_congr fun a _ => ?_
  cases holds : p a with
  | false => rfl
  | true => rw [Bool.true_and, implies a holds]

namespace BlockIndex

/-! ## Runs of look-ups -/

/-- Looks up one block after the other, and gives each with its place. -/
def answers (x : BlockIndex) : List Header → List (Header × SourcePos)
  | [] => []
  | query :: queries =>
    let (pos, next) := x.locate query.word query.labels
    (query, pos) :: next.answers queries

variable {x y : BlockIndex} {key : String}

theorem exists_after_of_mem_answers {queries : List Header} {query : Header} {pos : SourcePos}
    (answered : (query, pos) ∈ x.answers queries) :
    ∃ earlier, pos = ((x.after earlier).locate query.word query.labels).1 := by
  induction queries generalizing x with
  | nil => cases answered
  | cons first queries inductionHypothesis =>
    rcases List.mem_cons.1 answered with same | later
    · cases same
      exact ⟨[], rfl⟩
    · obtain ⟨earlier, found⟩ := inductionHypothesis later
      exact ⟨first :: earlier, found⟩

/-- Where the look-ups of one key are left out, those of other keys give the same places. -/
theorem answers_filter (agree : AgreeApart key x y) (queries : List Header) :
    (x.answers queries).filter (·.1.key ≠ key) = y.answers (queries.filter (·.key ≠ key)) := by
  induction queries generalizing x y with
  | nil => rfl
  | cons query queries inductionHypothesis =>
    by_cases same : query.key = key
    · have leftOut : AgreeApart key (x.locate query.word query.labels).2 y := by
        subst same
        exact (agreeApart_locate x query.word query.labels).trans agree
      simpa [answers, same] using inductionHypothesis leftOut
    · obtain ⟨samePlace, agreeNext⟩ := agree.locate same
      simpa [answers, same, samePlace] using inductionHypothesis agreeNext

theorem answers_without {first second : Header} (different : second.key ≠ first.key)
    (x : BlockIndex) (queries : List Header) :
    (x.answers queries).filter (·.1 = second) =
      (x.answers ((queries.filter (· ≠ first)).filter (·.key ≠ first.key))).filter
        (·.1 = second) := by
  have isOther : ∀ answer : Header × SourcePos, answer.1 = second → answer.1.key ≠ first.key := by
    rintro _ rfl
    exact different
  have notFirst : ∀ query : Header, query.key ≠ first.key → query ≠ first := by
    rintro _ differentKey rfl
    exact differentKey rfl
  rw [filter_filter_of_imp (by simpa using notFirst), ← answers_filter ⟨rfl, fun _ _ => rfl⟩,
    filter_filter_of_imp (by simpa using isOther)]

/-- The place that a look-up gives is settled by the number of look-ups of its key before it. -/
theorem locate_after_congr {first second : List Header} {query : Header}
    (sameCount : (first.map Header.key).count query.key = (second.map Header.key).count query.key) :
    ((x.after first).locate query.word query.labels).1 =
      ((x.after second).locate query.word query.labels).1 := by
  rw [after_eq, after_eq]
  apply locate_congr
  case file => rfl
  case seen => simp only [List.count_append, List.count_reverse, sameCount]

end BlockIndex

/-! ## Lines of native headers -/

namespace Header

theorem mem_linesIn_iff {text : List Char} {h : Header} {number : Nat} :
    number ∈ h.linesIn text ↔
      1 ≤ number ∧ ∃ line, (Text.lines text)[number - 1]? = some line ∧ h.Opens line := by
  simp only [linesIn, List.mem_map, List.mem_filter, Prod.exists, List.mem_zipIdx_iff_le_and_getElem?_sub,
    decide_eq_true_eq]
  constructor
  · rintro ⟨line, _, ⟨isLine, opens⟩, rfl⟩
    exact ⟨isLine.1, line, isLine.2, opens⟩
  · rintro ⟨positive, line, isLine, opens⟩
    exact ⟨line, number, ⟨⟨positive, isLine⟩, opens⟩, rfl⟩

theorem mem_ofText_iff {text : List Char} {h : Header} {number : Nat} :
    (h, number) ∈ ofText text ↔ number ∈ h.linesIn text := by
  simp only [ofText, List.mem_filterMap, Prod.exists, List.mem_zipIdx_iff_getElem?,
    Option.map_eq_some_iff, Prod.mk.injEq, ofLine?_eq_some_iff, mem_linesIn_iff]
  constructor
  · rintro ⟨line, i, isLine, _, opens, rfl, rfl⟩
    exact ⟨Nat.le_add_left 1 i, line, isLine, opens⟩
  · rintro ⟨positive, line, isLine, opens⟩
    exact ⟨line, number - 1, isLine, h, opens, rfl, Nat.sub_add_cancel positive⟩

theorem eq_of_mem_linesIn {text : List Char} {h other : Header} {number : Nat}
    (isLine : number ∈ h.linesIn text) (isLineOther : number ∈ other.linesIn text) : h = other := by
  obtain ⟨-, line, here, opens⟩ := mem_linesIn_iff.1 isLine
  obtain ⟨-, lineOther, hereOther, opensOther⟩ := mem_linesIn_iff.1 isLineOther
  have sameLine : line = lineOther := Option.some.inj (here.symm.trans hereOther)
  subst sameLine
  exact Option.some.inj ((ofLine?_eq_some_iff.2 opens).symm.trans (ofLine?_eq_some_iff.2 opensOther))

end Header

namespace BlockIndex

theorem mem_headers_scan {filename text key : String} {number : Nat} :
    (key, number) ∈ (scan filename .native text).headers ↔
      ∃ h : Header, h.key = key ∧ number ∈ h.linesIn text.toList := by
  simp only [scan, List.mem_map, Prod.mk.injEq, Prod.exists, Header.mem_ofText_iff]
  constructor
  · rintro ⟨h, _, isLine, same, rfl⟩
    exact ⟨h, same, isLine⟩
  · rintro ⟨h, same, isLine⟩
    exact ⟨h, number, isLine, same, rfl⟩

/-- A look-up in a native file gives the number of a line that a header with the key of the look-up
opens, and the first line if there is none. -/
theorem native_answer {filename text : String} {queries : List Header} {query : Header}
    {pos : SourcePos} (answered : (query, pos) ∈ (scan filename .native text).answers queries) :
    (∃ h : Header, h.key = query.key ∧ pos.line ∈ h.linesIn text.toList) ∨
      pos.line = 1 ∧ ∀ h : Header, h.key = query.key → h.linesIn text.toList = [] := by
  obtain ⟨earlier, rfl⟩ := exists_after_of_mem_answers answered
  rw [locate_after_native]
  cases found : (scan filename .native text).nativeLine? query.key
      ((earlier.map Header.key).count query.key) with
  | some line =>
    left
    exact mem_headers_scan.1 (mem_headers_of_nativeLine? found)
  | none =>
    right
    refine ⟨rfl, fun h sameKey => List.eq_nil_iff_forall_not_mem.2 fun number isLine => ?_⟩
    exact nativeLine?_eq_none_iff.1 found number (mem_headers_scan.2 ⟨h, sameKey, isLine⟩)

end BlockIndex

/-! ## Apart or not -/

theorem Header.count_key_eq_countP (queries : List Header) (query : Header) :
    (queries.map key).count query.key = queries.countP (·.pieces = query.pieces) := by
  rw [List.count, List.countP_map]
  refine List.countP_congr fun other _ => ?_
  simp [key_eq_iff]

/-- The look-ups of two blocks have to do with each other if and only if the words of the blocks are
the same pieces when they are cut at their spaces. A look-up gives the place that it gives if all
earlier look-ups with its pieces were look-ups of the same block and there were no others. So if two
blocks have different pieces, look-ups of the one can be put in and left out without changing a place
that is given for the other, and in a native file the place of the other is never on a line that opens
the one, but for the first line where nothing is found. If they have the same pieces, a native file
gives the same place for either. -/
theorem lookups_apart_by_pieces (filename text : String) (format : FileFormat)
    (first second : Header) :
    let index := BlockIndex.scan filename format text
    let located (earlier : List Header) :=
      ((index.after earlier).locate second.word second.labels).1
    (∀ earlier, located earlier =
      located (List.replicate (earlier.countP (·.pieces = second.pieces)) second)) ∧
    (first.pieces ≠ second.pieces → ∀ queries others,
      queries.filter (· ≠ first) = others.filter (· ≠ first) →
      (index.answers queries).filter (·.1 = second) =
        (index.answers others).filter (·.1 = second)) ∧
    (first.pieces ≠ second.pieces → format = .native → ∀ queries pos,
      (second, pos) ∈ index.answers queries →
        (∃ h : Header, h.pieces = second.pieces ∧ pos.line ∈ h.linesIn text.toList ∧
          pos.line ∉ first.linesIn text.toList) ∨
        pos.line = 1 ∧ ∀ h : Header, h.pieces = second.pieces → h.linesIn text.toList = []) ∧
    (first.pieces = second.pieces → format = .native → ∀ earlier,
      ((index.after earlier).locate first.word first.labels).1 = located earlier) := by
  intro index located
  refine ⟨?_, ?_, ?_, ?_⟩
  · intro earlier
    apply BlockIndex.locate_after_congr
    rw [Header.count_key_eq_countP, Header.count_key_eq_countP, List.countP_replicate]
    exact (if_pos (decide_eq_true rfl)).symm
  · intro apart queries others sameOthers
    have differentKey : second.key ≠ first.key := fun same => apart (Header.key_eq_iff.1 same.symm)
    rw [index.answers_without differentKey queries, index.answers_without differentKey others,
      sameOthers]
  · rintro apart rfl queries pos answered
    have answer := BlockIndex.native_answer answered
    simp only [Header.key_eq_iff] at answer
    rcases answer with ⟨h, samePieces, isLine⟩ | nothing
    · refine .inl ⟨h, samePieces, isLine, fun isLineOfFirst => apart ?_⟩
      exact Header.eq_of_mem_linesIn isLine isLineOfFirst ▸ samePieces
    · exact .inr nothing
  · rintro together rfl earlier
    have sameKey := Header.key_eq_iff.2 together
    simp only [located, index, BlockIndex.locate_after_native, sameKey]

def spacedHeaders : String :=
  "resource \"a b\" \"c\" \x7b\n\x7d\nresource \"a\" \"b c\" \x7b\n\x7d\noutput \"a\" \x7b\n\x7d\n"

theorem spacedHeaders_answers :
    let index := BlockIndex.scan "main.tf" .native spacedHeaders
    let early : Header := ⟨"resource", ["a b", "c"]⟩
    let late : Header := ⟨"resource", ["a", "b c"]⟩
    let output : Header := ⟨"output", ["a"]⟩
    early.pieces ≠ output.pieces ∧ early.pieces = late.pieces ∧
      (index.answers [early, output, late]).filter (·.1 = output) =
        (index.answers [output, late, early]).filter (·.1 = output) ∧
      ((index.after [early]).locate late.word late.labels).1 =
        ((index.after [late]).locate late.word late.labels).1 ∧
      (index.locate early.word early.labels).1 = (index.locate late.word late.labels).1 := by
  intro index early late output
  have apart : early.pieces ≠ output.pieces := by decide +kernel
  have together : early.pieces = late.pieces := by decide +kernel
  obtain ⟨-, put, -, -⟩ := lookups_apart_by_pieces "main.tf" spacedHeaders .native early output
  obtain ⟨settled, -, -, same⟩ := lookups_apart_by_pieces "main.tf" spacedHeaders .native early late
  refine ⟨apart, together, put apart _ _ (by decide), ?_, same together rfl []⟩
  exact (settled [early]).trans (settled [late]).symm

/-- The look-up of a resource gives the line that another one opens, and its own line only after a
look-up of the other one. -/
theorem spaced_labels_interfere :
    let index := BlockIndex.scan "main.tf" .native spacedHeaders
    let early : Header := ⟨"resource", ["a b", "c"]⟩
    let late : Header := ⟨"resource", ["a", "b c"]⟩
    early ≠ late ∧ early.linesIn spacedHeaders.toList = [1] ∧
      late.linesIn spacedHeaders.toList = [3] ∧
      (index.answers [late]).filter (·.1 = late) = [(late, ⟨"main.tf", 1⟩)] ∧
      (index.answers [early, late]).filter (·.1 = late) = [(late, ⟨"main.tf", 3⟩)] := by
  decide +kernel

end ModuleSurvey
