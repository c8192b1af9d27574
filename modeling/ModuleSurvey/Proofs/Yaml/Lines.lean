import ModuleSurvey.Proofs.Yaml.Lexer

/-! # Lines taken apart into tokens

A text that is laid out by indentation is a list of lines. Behind each of them a lexer stands at the
next one, where the collections that are indented more have been closed.

* `Line`, `textOf` — lines, and their text.
* `AtLines` — a lexer that stands at the first of some lines.
* `step_plain`, `step_quoted`, `step_item` — a scalar at the end of its line.
* `steps_sectionLine`, `steps_wordLine`, `steps_itemLine` — the three kinds of lines.
-/

namespace ModuleSurvey.Yaml

/-! ## Lines -/

structure Line where
  column : Nat
  content : List Char

def textOf (lines : List Line) : List Char :=
  lines.flatMap fun l => List.replicate l.column ' ' ++ (l.content ++ ['\n'])

def frontColumn : List Line → Nat
  -- Behind all lines it is the first column.
  | [] => 0
  | l :: _ => l.column

def front : List Line → List Char
  | [] => []
  | l :: more => l.content ++ '\n' :: textOf more

theorem textOf_eq (lines : List Line) :
    textOf lines = List.replicate (frontColumn lines) ' ' ++ front lines := by
  cases lines <;> simp [textOf, frontColumn, front]

theorem textOf_append (lines more : List Line) :
    textOf (lines ++ more) = textOf lines ++ textOf more :=
  List.flatMap_append

theorem length_front_le (lines : List Line) : (front lines).length ≤ (textOf lines).length := by
  simp [textOf_eq]

/-! ## The end of a line -/

variable {c : Char} {cs rest : List Char} {lines more : List Line} {mark : Mark} {allowed : Bool}

theorem Lexer.skipGap_replicate (n : Nat) :
    skipGap false false allowed mark (List.replicate n ' ' ++ cs) =
      skipGap false false allowed (mark.skip n) cs := by
  induction n generalizing mark with
  | zero => rfl
  | succ n inductionHypothesis =>
    rw [List.replicate_succ, List.cons_append, skipGap]
    simp [isBreak, inductionHypothesis, Mark.next_skip]

theorem Lexer.skipGap_lines (solid : Solid (front lines)) :
    skipGap false false allowed mark ('\n' :: textOf lines) =
      (front lines, ⟨mark.line + 1, frontColumn lines⟩, true) := by
  rw [skipGap, textOf_eq]
  simp [isBreak, skipGap_replicate, skipGap_of_solid solid]

theorem readPlain_replicate {indent : Nat} (first more : List Char) (n : Nat) :
    readPlain false indent (.lines first more) mark (List.replicate n ' ' ++ cs) =
      readPlain false indent (.lines first more) (mark.skip n) cs := by
  induction n generalizing mark with
  | zero => rfl
  | succ n inductionHypothesis =>
    rw [List.replicate_succ, List.cons_append, readPlain_space]
    simp only [Gap.addSpace, inductionHypothesis, Mark.next_skip]

/-- A plain scalar that is followed by lines that are not indented more ends with its line. -/
theorem readPlain_lines {indent : Nat} (solid : Solid (front lines))
    (outside : frontColumn lines < indent) :
    readPlain false indent .none mark ('\n' :: textOf lines) =
      some ⟨[], front lines, ⟨mark.line + 1, frontColumn lines⟩, true⟩ := by
  have passed : readPlain false indent .none mark ('\n' :: textOf lines) =
      readPlain false indent (.lines ['\n'] []) ⟨mark.line + 1, frontColumn lines⟩
        (front lines) := by
    rw [readPlain, textOf_eq]
    simp [isSpace, isBreak, Gap.addBreak, readPlain_replicate]
  rw [passed]
  cases content : front lines with
  | nil => rfl
  | cons c cs =>
    obtain ⟨notSpace, notBreak, -⟩ := solid c (by simp [content])
    have ends : plainEnds false indent (.lines ['\n'] []) ⟨mark.line + 1, frontColumn lines⟩
        (c :: cs) = true := by
      simp [plainEnds, outside]
    simp [readPlain, notSpace, notBreak, ends, Gap.hasBreak]

/-! ## Where a line begins -/

namespace Lexer

/-- The lexer stands at the first of these lines. The open collections that are indented more have
been closed. -/
def AtLines (lines : List Line) (columns : List Nat) (tokens : List Token) (s : Lexer) : Prop :=
  ∃ line made, s = laidOut (front lines) ⟨line, frontColumn lines⟩ made
      (columns.dropWhile (frontColumn lines < ·)) true none ∧
    tokensOf made = tokens ++ (columns.takeWhile (frontColumn lines < ·)).map fun _ => .blockEnd

variable {made : List Lexeme} {columns outer : List Nat} {key : Option KeyPlace} {column : Nat}
  {start tokens : List Token} {s : Lexer}

theorem AtLines.close (outside : frontColumn lines < column)
    (here : AtLines lines (column :: columns) tokens s) :
    AtLines lines columns (tokens ++ [.blockEnd]) s := by
  obtain ⟨line, made, rfl, isTokens⟩ := here
  refine ⟨line, made, ?_, ?_⟩
  · simp [outside]
  · simp [isTokens, outside]

theorem AtLines.inside (here : AtLines lines columns tokens s)
    (inside : ∀ column ∈ columns.head?, column ≤ frontColumn lines) :
    ∃ line made, s = laidOut (front lines) ⟨line, frontColumn lines⟩ made columns true none ∧
      tokensOf made = tokens := by
  obtain ⟨line, made, rfl, isTokens⟩ := here
  obtain ⟨noneTaken, allLeft⟩ := noneClosed inside
  exact ⟨line, made, by rw [allLeft], by simp [isTokens, noneTaken]⟩

/-- At the end of a line the place of a key is forgotten, as no colon was met behind it. -/
theorem advance?_lines {l : Nat} (behindStart : mark ≠ .start)
    (gap : skipGap false false allowed mark rest = (front lines, ⟨l, frontColumn lines⟩, true))
    (late : ∀ k ∈ key, k.required = false ∧ k.mark.line < l) :
    ∃ t, (laidOut rest mark made columns allowed key).advance? = some t ∧
      AtLines lines columns (tokensOf made) t := by
  have kept : (if key.any (KeyPlace.isStale · ⟨l, frontColumn lines⟩) then dropPlace? key
      else some key) = some none := by
    cases key with
    | none => rfl
    | some k =>
      obtain ⟨notRequired, before⟩ := late k rfl
      simp [KeyPlace.isStale, dropPlace?, before, notRequired]
  refine ⟨_, advance?_laidOut (absurd · behindStart) gap kept, _, _, rfl, ?_⟩
  simp [closings, tokensOf, List.map_const']

/-! ## Scalars at the end of a line -/

theorem step_scalar {read : ScalarText} {style : ScalarStyle} {allowed' : Bool}
    (taken : (laidOut (c :: cs) mark made columns allowed none).token? c cs =
      some ((laidOut (c :: cs) mark made columns allowed (heldKey allowed made mark)).addScalar
        style read allowed'))
    (gap : skipGap false false allowed' read.mark read.rest =
      (front lines, ⟨mark.line + 1, frontColumn lines⟩, true))
    (behindStart : read.mark ≠ .start) (shorter : (front lines).length ≤ cs.length) :
    ∃ t, Step (laidOut (c :: cs) mark made columns allowed none) t ∧
      AtLines lines columns (tokensOf made ++ [.scalar style (String.ofList read.text)]) t := by
  have late : ∀ k ∈ heldKey allowed made mark,
      k.required = false ∧ k.mark.line < mark.line + 1 := by
    cases allowed <;> simp [heldKey]
  obtain ⟨t, next, atLines⟩ := advance?_lines behindStart gap late
  refine ⟨t, ⟨c, cs, _, rfl, taken, next, ?_⟩, ?_⟩
  · obtain ⟨line, made, rfl, -⟩ := atLines
    exact Nat.lt_succ_of_le shorter
  · rw [← tokensOf_cons ⟨.scalar style (String.ofList read.text), mark⟩]
    exact atLines

/-- A plain scalar takes the end of its line too. -/
theorem step_plain (run : PlainRun (c :: cs)) (starts : StartsPlain c (cs ++ '\n' :: textOf lines))
    (solid : Solid (front lines)) (deeper : column < mark.column)
    (outside : frontColumn lines ≤ column) :
    ∃ t, Step (laidOut (c :: (cs ++ '\n' :: textOf lines)) mark made (column :: outer)
        allowed none) t ∧
      AtLines lines (column :: outer)
        (tokensOf made ++ [.scalar .plain (String.ofList (c :: cs))]) t := by
  have notFirst : mark.column ≠ 0 := Nat.ne_zero_of_lt deeper
  have further : (column :: outer).head? ≠ some mark.column := by simpa using Nat.ne_of_lt deeper
  -- The reader looks for more words in the next lines before it knows that the scalar is over.
  let text := cs ++ '\n' :: textOf lines
  have read : readPlain false (column + 1) .none mark (c :: text) =
      some ⟨c :: cs, front lines, ⟨mark.line + 1, frontColumn lines⟩, true⟩ := by
    rw [← List.cons_append, readPlain_append run (by simp) Gap.isWithinLine_none (by simp)
      (fun _ => deeper) (fun atStart => absurd atStart notFirst),
      readPlain_lines solid (Nat.lt_succ_of_le outside)]
    simp [ScalarText.prepend, Gap.text]
  have taken : (laidOut (c :: text) mark made (column :: outer) allowed none).token? c text =
      some ((laidOut (c :: text) mark made (column :: outer) allowed
        (heldKey allowed made mark)).addScalar .plain
          ⟨c :: cs, front lines, ⟨mark.line + 1, frontColumn lines⟩, true⟩ true) := by
    rw [token?_of_startsPlain rfl starts fun atStart => absurd atStart notFirst, plainScalar?,
      saveKey?_laidOut further]
    simp [laidOut, flow, indent, read]
  refine step_scalar taken (skipGap_of_solid solid) (by simp [Mark.start]) ?_
  have := length_front_le lines
  simp [text]
  omega

def readQuoted (style : ScalarStyle) : Mark → List Char → Option ScalarText :=
  if style = .singleQuoted then readSingleQuoted .none else readDoubleQuoted (.text .none)

/-- A quoted scalar leaves the end of its line. -/
theorem step_quoted {style : ScalarStyle} {text : String} {n : Nat} (notFirst : mark.column ≠ 0)
    (further : columns.head? ≠ some mark.column) (solid : Solid (front lines))
    (isQuote : ∀ s : Lexer, s.mark.column ≠ 0 → s.token? c rest = s.quotedScalar? style)
    (read : readQuoted style mark.next rest =
      some ⟨text.toList, '\n' :: textOf lines, mark.skip n, false⟩)
    (shorter : (textOf lines).length ≤ rest.length) :
    ∃ t, Step (laidOut (c :: rest) mark made columns allowed none) t ∧
      AtLines lines columns (tokensOf made ++ [.scalar style text]) t := by
  have taken : (laidOut (c :: rest) mark made columns allowed none).token? c rest =
      some ((laidOut (c :: rest) mark made columns allowed (heldKey allowed made mark)).addScalar
        style ⟨text.toList, '\n' :: textOf lines, mark.skip n, false⟩ false) := by
    rw [isQuote _ notFirst, quotedScalar?, saveKey?_laidOut further]
    unfold readQuoted at read
    split at read
    case isTrue single => simp [single, laidOut, read]
    case isFalse double => simp [double, laidOut, read]
  have behindStart : mark.skip n ≠ .start := by
    intro atStart
    have : mark.column + n = 0 := congrArg Mark.column atStart
    omega
  have atEnd := Nat.le_trans (length_front_le lines) shorter
  simpa using step_scalar taken (skipGap_lines solid) behindStart atEnd

theorem step_item {item : String} (inline : InlineText item.toList) (solid : Solid (front lines))
    (deeper : column < mark.column) (outside : frontColumn lines ≤ column) :
    ∃ t, Step (laidOut (scalarBody item ++ '\n' :: textOf lines) mark made (column :: outer)
        allowed none) t ∧
      AtLines lines (column :: outer) (tokensOf made ++ [.scalar (chosenStyle item) item]) t := by
  have notFirst : mark.column ≠ 0 := Nat.ne_zero_of_lt deeper
  have further : (column :: outer).head? ≠ some mark.column := by simpa using Nat.ne_of_lt deeper
  rcases chosenStyle_of_inline inline with ⟨style, nonempty, plain⟩ | ⟨style, -⟩ | style
  · have same : String.ofList item.toList = item := String.ofList_toList
    obtain ⟨c, cs, form⟩ := List.exists_cons_of_ne_nil nonempty
    simp only [scalarBody, style]
    rw [form] at inline plain same ⊢
    rw [← same]
    exact step_plain (plainRun_of_plainAllowed inline plain)
      (startsPlain_of_plainAllowed inline plain _) solid deeper outside
  · have read : readQuoted .singleQuoted mark.next
        (doubled item.toList ++ '\x27' :: '\n' :: textOf lines) = some ⟨item.toList,
          '\n' :: textOf lines, mark.skip ((doubled item.toList).length + 2), false⟩ := by
      rw [readQuoted, if_pos rfl, readSingleQuoted_doubled inline Gap.isWithinLine_none (by simp)
        (by simp), Mark.next_skip]
      rfl
    simp only [scalarBody, style, List.cons_append, List.append_assoc, List.nil_append]
    exact step_quoted notFirst further solid (fun _ => token?_singleQuote) read (by simp; omega)
  · have read : readQuoted .doubleQuoted mark.next
        (item.toList.flatMap escapedChar ++ '"' :: '\n' :: textOf lines) = some ⟨item.toList,
          '\n' :: textOf lines, mark.skip ((item.toList.flatMap escapedChar).length + 2),
            false⟩ := by
      rw [readQuoted, if_neg (by decide), readDoubleQuoted_escaped inline Gap.isWithinLine_none
        (by simp), Mark.next_skip]
      rfl
    simp only [scalarBody, style, List.cons_append, List.append_assoc, List.nil_append]
    exact step_quoted notFirst further solid (fun _ => token?_doubleQuote) read (by simp; omega)

theorem solid_scalarBody {item : String} (inline : InlineText item.toList) :
    Solid (scalarBody item ++ rest) := by
  rcases chosenStyle_of_inline inline with ⟨style, nonempty, plain⟩ | ⟨style, -⟩ | style
  · obtain ⟨c, cs, form⟩ := List.exists_cons_of_ne_nil nonempty
    rw [form] at inline plain
    simp only [scalarBody, style, form]
    exact (startsPlain_of_plainAllowed inline plain rest).solid
  all_goals
    simp only [scalarBody, style]
    rintro d ⟨⟩
    decide

/-! ## The kinds of lines -/

variable {name word : String}

theorem tokensOf_keyTokens :
    tokensOf (keyTokens name.toList start mark ++ made) =
      tokensOf made ++ start ++ [.key, .scalar .plain name, .value] := by
  rw [tokensOf_append]
  simp [keyTokens, tokensOf, Function.comp_def]

theorem steps_sectionLine (isName : IsName name.toList) (solid : Solid (front more))
    (opens : Opens column columns outer start)
    (here : AtLines (⟨column, name.toList ++ [':']⟩ :: more) columns tokens s) :
    ∃ t, Steps s t ∧
      AtLines more (column :: outer)
        (tokens ++ start ++ [.key, .scalar .plain name, .value]) t := by
  obtain ⟨line, made, rfl, rfl⟩ := here.inside opens.inside
  let keyMade := keyTokens name.toList start ⟨line, column⟩ ++ made
  let behind : Mark := Mark.skip ⟨line, column⟩ (name.toList.length + 1)
  have behindStart : behind ≠ .start := by simp [behind, Mark.skip, Mark.start]
  obtain ⟨t, next, atLines⟩ : ∃ t, (laidOut ('\n' :: textOf more) behind keyMade (column :: outer)
      false none).advance? = some t ∧ AtLines more (column :: outer) _ t :=
    advance?_lines behindStart (skipGap_lines solid) (by simp)
  rw [tokensOf_keyTokens] at atLines
  refine ⟨t, ?_, atLines⟩
  obtain ⟨line', made', rfl, -⟩ := atLines
  simp only [front, frontColumn, List.append_assoc, List.singleton_append]
  exact steps_key isName rfl opens next (Nat.le_succ_of_le (length_front_le more))

theorem steps_wordLine (isName : IsName name.toList) (isWord : IsName word.toList)
    (solid : Solid (front more)) (outside : frontColumn more ≤ column)
    (opens : Opens column columns outer start)
    (here : AtLines (⟨column, name.toList ++ ':' :: ' ' :: word.toList⟩ :: more) columns tokens s) :
    ∃ t, Steps s t ∧ AtLines more (column :: outer)
      (tokens ++ start ++ [.key, .scalar .plain name, .value, .scalar .plain word]) t := by
  obtain ⟨line, made, rfl, rfl⟩ := here.inside opens.inside
  obtain ⟨c, cs, form⟩ := List.exists_cons_of_ne_nil isWord.nonempty
  have starts := startsPlain_of_isNameChar (isWord.letters c (by simp [form]))
  have isRun := isWord.plainRun
  have same : String.ofList (c :: cs) = word := by rw [← form, String.ofList_toList]
  rw [form] at isRun
  let keyMade := keyTokens name.toList start ⟨line, column⟩ ++ made
  let behind : Mark := Mark.skip ⟨line, column⟩ (name.toList.length + 1)
  obtain ⟨t, step, atLines⟩ : ∃ t, Step (laidOut (c :: (cs ++ '\n' :: textOf more)) behind.next
      keyMade (column :: outer) false none) t ∧ AtLines more (column :: outer) _ t :=
    step_plain isRun (starts _) solid (by simp only [behind, Mark.column_next, Mark.column_skip]; omega) outside
  rw [tokensOf_keyTokens, same] at atLines
  refine ⟨t, .tail ?_ step, by simpa using atLines⟩
  have next : (laidOut (' ' :: (c :: (cs ++ '\n' :: textOf more))) behind keyMade (column :: outer)
      false none).advance? = some _ := advance?_space (starts []).solid (by simp [behind])
  simp only [front, frontColumn, form, List.append_assoc, List.cons_append]
  exact steps_key isName rfl opens next (by simp [laidOut])

/-- A hyphen and the scalar behind it. The hyphen stands in the column of the mapping around it, so
that no collection begins there. -/
theorem steps_itemLine {item : String} (inline : InlineText item.toList)
    (solid : Solid (front more)) (outside : frontColumn more ≤ column)
    (here : AtLines (⟨column, '-' :: ' ' :: scalarBody item⟩ :: more) (column :: outer) tokens s) :
    ∃ t, Steps s t ∧ AtLines more (column :: outer)
      (tokens ++ [.blockEntry, .scalar (chosenStyle item) item]) t := by
  obtain ⟨line, made, rfl, rfl⟩ := here.inside (by simp [frontColumn])
  let text := scalarBody item ++ '\n' :: textOf more
  let hyphen : Mark := ⟨line, column⟩
  obtain ⟨t, step, atLines⟩ : ∃ t, Step (laidOut text hyphen.next.next
      (⟨.blockEntry, hyphen⟩ :: made) (column :: outer) true none) t ∧
        AtLines more (column :: outer) _ t :=
    step_item inline solid (by simp only [hyphen, Mark.column_next]; omega) outside
  have next : (laidOut (' ' :: text) hyphen.next (⟨.blockEntry, hyphen⟩ :: made) (column :: outer)
      true none).advance? = some _ := advance?_space (solid_scalarBody inline) (by simp [hyphen])
  refine ⟨t, .head ⟨'-', ' ' :: text, _, rfl, ?_, next, ?_⟩ (.single step), by simpa using atLines⟩
  · rw [token?_hyphen]
    exact blockEntry?_laidOut
  · simp only [laidOut, front, text, List.length_append, List.length_cons]
    omega

end Lexer

end ModuleSurvey.Yaml
