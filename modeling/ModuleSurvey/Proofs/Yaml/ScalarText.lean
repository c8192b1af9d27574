import ModuleSurvey.Yaml.Print
import ModuleSurvey.Yaml.Token.Text

/-! # Scalars of one line read back

A text without control characters and line breaks is written within one line. Whatever style is
chosen for it, the reader of that style takes back the text and stops right behind it.

* `isInline`, `InlineText` — the texts that stay within a line.
* `PlainRun` — texts that no plain scalar ends in.
* `readPlain_append`, `readSingleQuoted_doubled`, `readDoubleQuoted_escaped` — reading each style.
* `IsName`, `readPlain_name` — names, and how far they are read.
* `scalarBody`, `scalarLines_eq` — a text in the style that is chosen for it.
-/

namespace ModuleSurvey.Yaml

/-! ## Characters within a line -/

def isControl (c : Char) : Bool := c.toNat < 0x20 || (0x7F ≤ c.toNat && c.toNat ≤ 0x9F)

/-- The characters that are neither control characters nor line or paragraph separators. -/
def isInline (c : Char) : Bool := !isControl c && c ≠ '\u2028' && c ≠ '\u2029'

abbrev InlineText (cs : List Char) : Prop := ∀ c ∈ cs, isInline c = true

variable {c : Char} {cs : List Char}

theorem isAnyBreak_of_isInline (inline : isInline c = true) : isAnyBreak c = false := by
  simp only [isAnyBreak, isBreak, Bool.or_eq_false_iff, beq_eq_false_iff_ne]
  and_intros <;> (rintro rfl; simp [isInline, isControl] at inline)

theorem isBreak_of_isInline (inline : isInline c = true) : isBreak c = false := by
  have := isAnyBreak_of_isInline inline
  simp_all [isAnyBreak]

theorem isSpace_of_isInline (inline : isInline c = true) : isSpace c = (c == ' ') := by
  have noTab : c ≠ '\t' := by
    rintro rfl
    simp [isInline, isControl] at inline
  simp [isSpace, noTab]

theorem atGap_cons_of_isInline (inline : isInline c = true) : atGap (c :: cs) = (c == ' ') := by
  simp [atGap, isSpace_of_isInline inline, isBreak_of_isInline inline]

/-! ## Marks -/

@[simp] theorem Mark.column_skip (mark : Mark) (n : Nat) : (mark.skip n).column = mark.column + n :=
  rfl

@[simp] theorem Mark.column_next (mark : Mark) : mark.next.column = mark.column + 1 := rfl

@[simp] theorem Mark.skip_skip (mark : Mark) (m n : Nat) :
    (mark.skip m).skip n = mark.skip (m + n) := by
  simp [skip, Nat.add_assoc]

@[simp] theorem Mark.line_skip (mark : Mark) (n : Nat) : (mark.skip n).line = mark.line := rfl

@[simp] theorem Mark.nextLine_skip (mark : Mark) (n : Nat) :
    mark.nextLine.skip n = ⟨mark.line + 1, n⟩ := by
  simp [nextLine, skip]

theorem Mark.next_skip (mark : Mark) (n : Nat) : mark.next.skip n = mark.skip (n + 1) := by
  simp [next, Nat.add_comm]

/-! ## White space within a line -/

@[simp] theorem ScalarText.prepend_prepend (more : List Char) (text : ScalarText) :
    (text.prepend cs).prepend more = text.prepend (more ++ cs) := by
  simp [prepend]

/-- The gap is within one line, so that it stands for itself. -/
def Gap.IsWithinLine (gap : Gap) : Prop := gap.hasBreak = false

theorem Gap.isWithinLine_none : Gap.none.IsWithinLine := rfl

theorem Gap.IsWithinLine.addSpace {gap : Gap} (within : gap.IsWithinLine) :
    (gap.addSpace c).IsWithinLine ∧ (gap.addSpace c).text = gap.text ++ [c] := by
  cases gap with
  | none => exact ⟨rfl, rfl⟩
  | spaces cs => exact ⟨rfl, rfl⟩
  | lines first more => cases within

/-! ## Plain scalars -/

/-- Neighbours that end a plain scalar between them. -/
abbrev endsBetween (a b : Char) : Bool := (a == ':' && b == ' ') || (a == ' ' && b == '#')

/-- A text of one line that no plain scalar ends in: there is no colon before white space and no
comment. -/
structure PlainRun (cs : List Char) : Prop where
  inline : InlineText cs
  lastNotSpace : cs.getLast? ≠ some ' '
  lastNotColon : cs.getLast? ≠ some ':'
  noPair : anyPair endsBetween cs = false

namespace PlainRun

variable {d : Char}

theorem tail (run : PlainRun (c :: d :: cs)) : PlainRun (d :: cs) where
  inline := fun x member => run.inline x (List.mem_cons_of_mem _ member)
  lastNotSpace := by simpa using run.lastNotSpace
  lastNotColon := by simpa using run.lastNotColon
  noPair := by
    have := run.noPair
    simp_all [anyPair]

theorem not_atGap (run : PlainRun (c :: cs)) (rest : List Char) :
    (c == ':' && atGap (cs ++ rest)) = false := by
  rw [Bool.and_eq_false_imp, beq_iff_eq]
  rintro rfl
  cases cs with
  | nil => exact absurd rfl run.lastNotColon
  | cons d cs =>
    have notSpace := run.noPair
    simp only [anyPair, endsBetween, Bool.or_eq_false_iff] at notSpace
    rw [List.cons_append, atGap_cons_of_isInline (run.inline d (by simp))]
    simpa using notSpace.1.1

end PlainRun

section Plain

variable {indent : Nat} {gap : Gap} {mark : Mark} {rest : List Char}

theorem readPlain_space :
    readPlain false indent gap mark (' ' :: rest) =
      readPlain false indent (gap.addSpace ' ') mark.next rest := by
  rw [readPlain]
  simp [isSpace]

theorem readPlain_char (inline : isInline c = true) (notSpace : c ≠ ' ')
    (goesOn : plainEnds false indent gap mark (c :: rest) = false) :
    readPlain false indent gap mark (c :: rest) =
      (readPlain false indent .none mark.next rest).map (.prepend (gap.text ++ [c])) := by
  rw [readPlain]
  simp [isSpace_of_isInline inline, isBreak_of_isInline inline, notSpace, goesOn]

theorem readPlain_append (run : PlainRun cs) (nonempty : cs ≠ []) (within : gap.IsWithinLine)
    (noComment : gap ≠ .none → cs.head? ≠ some '#')
    (deep : gap ≠ .none ∨ ' ' ∈ cs → indent ≤ mark.column)
    (noMark : mark.column = 0 → isDocumentMark (cs ++ rest) = false) :
    readPlain false indent gap mark (cs ++ rest) =
      (readPlain false indent .none (mark.skip cs.length) rest).map
        (.prepend (gap.text ++ cs)) := by
  -- A space joins the gap, which becomes part of the text once another character is met.
  induction cs generalizing gap mark with
  | nil => exact absurd rfl nonempty
  | cons c cs inductionHypothesis =>
    by_cases space : c = ' '
    · subst space
      cases cs with
      | nil => exact absurd rfl run.lastNotSpace
      | cons d cs =>
        have noComment : d ≠ '#' := by
          have := run.noPair
          simp_all [anyPair]
        have read := @inductionHypothesis (gap.addSpace ' ') mark.next run.tail
          (by simp) within.addSpace.1 (by simp [noComment])
          (fun _ => Nat.le_succ_of_le (deep (.inr List.mem_cons_self))) (by simp)
        rw [List.cons_append, readPlain_space, read, within.addSpace.2, Mark.next_skip]
        simp
    · have goesOn : plainEnds false indent gap mark (c :: (cs ++ rest)) = false := by
        have inWord := run.not_atGap rest
        have behindGap (isGap : gap ≠ .none) : indent ≤ mark.column ∧ c ≠ '#' :=
          ⟨deep (.inl isGap), by simpa using noComment isGap⟩
        simpa [plainEnds, inWord] using ⟨behindGap, noMark⟩
      rw [List.cons_append, readPlain_char (run.inline c List.mem_cons_self) space goesOn]
      cases cs with
      | nil => rfl
      | cons d cs =>
        have read := @inductionHypothesis .none mark.next run.tail
          (by simp) rfl (by simp)
          (fun spaced => Nat.le_succ_of_le (deep (.inr (by simp_all)))) (by simp)
        rw [read, Mark.next_skip]
        simp [Gap.text, Function.comp_def]

end Plain

/-! ## Quoted scalars -/

abbrev doubled (cs : List Char) : List Char :=
  cs.flatMap fun c => if c = '\x27' then ['\x27', '\x27'] else [c]

section Quoted

variable {gap : Gap} {mark : Mark} {rest : List Char}

theorem readSingleQuoted_space :
    readSingleQuoted gap mark (' ' :: rest) =
      readSingleQuoted (gap.addSpace ' ') mark.next rest := by
  rw [readSingleQuoted.eq_def]
  simp [isSpace]

theorem readSingleQuoted_char (inline : isInline c = true) (notSpace : c ≠ ' ')
    (notQuote : c ≠ '\x27') (notFirst : mark.column ≠ 0) :
    readSingleQuoted gap mark (c :: rest) =
      (readSingleQuoted .none mark.next rest).map (.prepend (gap.text ++ [c])) := by
  rw [readSingleQuoted.eq_def]
  split
  case h_4 same =>
    obtain ⟨rfl, rfl⟩ := List.cons.inj same
    simp [isSpace_of_isInline inline, isBreak_of_isInline inline, notSpace, notFirst]
  all_goals simp_all

theorem readSingleQuoted_end (ends : rest.head? ≠ some '\x27') :
    readSingleQuoted gap mark ('\x27' :: rest) = some ⟨gap.text, rest, mark.next, false⟩ := by
  cases rest with
  | nil => simp [readSingleQuoted]
  | cons d rest =>
    have notQuote : d ≠ '\x27' := by simpa using ends
    rw [readSingleQuoted]
    simp [notQuote]

/-- A reader behind a single quote takes a text up to the quote that is not doubled. -/
theorem readSingleQuoted_doubled (inline : InlineText cs) (within : gap.IsWithinLine)
    (notFirst : mark.column ≠ 0) (ends : rest.head? ≠ some '\x27') :
    readSingleQuoted gap mark (doubled cs ++ '\x27' :: rest) =
      some ⟨gap.text ++ cs, rest, mark.skip ((doubled cs).length + 1), false⟩ := by
  induction cs generalizing gap mark with
  | nil => simpa [Mark.next] using readSingleQuoted_end ends
  | cons c cs inductionHypothesis =>
    have inlineBehind : InlineText cs := (List.forall_mem_cons.1 inline).2
    by_cases quote : c = '\x27'
    · have read := @inductionHypothesis .none (mark.skip 2) inlineBehind rfl (by simp)
      have twice : doubled (c :: cs) = '\x27' :: '\x27' :: doubled cs := by simp [doubled, quote]
      rw [twice, List.cons_append, List.cons_append, readSingleQuoted, read]
      simp [ScalarText.prepend, Gap.text, quote, Nat.add_comm 2]
    · have once : doubled (c :: cs) = c :: doubled cs := by simp [doubled, quote]
      rw [once, List.cons_append]
      by_cases space : c = ' '
      · have read := @inductionHypothesis (gap.addSpace ' ') mark.next inlineBehind
          within.addSpace.1 (by simp)
        rw [space, readSingleQuoted_space, read, within.addSpace.2, Mark.next_skip]
        simp
      · have read := @inductionHypothesis .none mark.next inlineBehind rfl (by simp)
        rw [readSingleQuoted_char (inline c List.mem_cons_self) space quote notFirst, read,
          Mark.next_skip]
        simp [ScalarText.prepend, Gap.text]

theorem eq_of_not_isPrintable (inline : isInline c = true) (hidden : isPrintable c = false) :
    c = '\ufeff' ∨ c = '\ufffe' ∨ c = '\uffff' := by
  have code : c.toNat = 0xFEFF ∨ c.toNat = 0xFFFE ∨ c.toNat = 0xFFFF := by
    simp [isInline, isControl, isPrintable] at inline hidden
    omega
  rcases code with code | code | code
  · exact .inl (Char.toNat_inj.1 code)
  · exact .inr (.inl (Char.toNat_inj.1 code))
  · exact .inr (.inr (Char.toNat_inj.1 code))

/-- A character of one line stands for itself, stands behind a backslash, or is one of the few whose
number is written. -/
theorem escapedChar_cases (inline : isInline c = true) :
    ((c ≠ '"' ∧ c ≠ '\\') ∧ isPrintable c = true ∧ escapedChar c = [c]) ∨
      ((c = '"' ∨ c = '\\') ∧ escapedChar c = ['\\', c]) ∨
      (c = '\ufeff' ∨ c = '\ufffe' ∨ c = '\uffff') := by
  by_cases quote : c = '"'
  · exact .inr (.inl ⟨.inl quote, by rw [quote]; rfl⟩)
  by_cases backslash : c = '\\'
  · exact .inr (.inl ⟨.inr backslash, by rw [backslash]; rfl⟩)
  by_cases shown : isPrintable c
  · refine .inl ⟨⟨quote, backslash⟩, shown, ?_⟩
    unfold escapedChar
    split <;> simp_all [isInline, isControl]
  · exact .inr (.inr (eq_of_not_isPrintable inline (by simpa using shown)))

theorem readDoubleQuoted_space :
    readDoubleQuoted (.text gap) mark (' ' :: rest) =
      readDoubleQuoted (.text (gap.addSpace ' ')) mark.next rest := by
  rw [readDoubleQuoted.eq_def]
  simp [isSpace]

theorem readDoubleQuoted_char (inline : isInline c = true) (notSpace : c ≠ ' ') (notQuote : c ≠ '"')
    (notBackslash : c ≠ '\\') (notFirst : mark.column ≠ 0) :
    readDoubleQuoted (.text gap) mark (c :: rest) =
      (readDoubleQuoted (.text .none) mark.next rest).map (.prepend (gap.text ++ [c])) := by
  rw [readDoubleQuoted.eq_def]
  simp [isSpace_of_isInline inline, isBreak_of_isInline inline, notSpace, notBackslash, notFirst]

theorem bind_prepend (x : Option ScalarText) (more : List Char) :
    (x.bind fun text => some (text.prepend more)) = x.map (.prepend more) := by
  cases x <;> rfl

theorem readDoubleQuoted_number {a b d e : Char} {m n p q : Nat} (first : Json.hexValue? a = some m)
    (second : Json.hexValue? b = some n) (third : Json.hexValue? d = some p)
    (fourth : Json.hexValue? e = some q)
    (isChar : charOf? (16 * (16 * (16 * m + n) + p) + q) = some c) :
    readDoubleQuoted (.text gap) mark ('\\' :: 'u' :: a :: b :: d :: e :: rest) =
      (readDoubleQuoted (.text .none) (mark.skip 6) rest).map (.prepend (gap.text ++ [c])) := by
  have escape : escape? 'u' = some (.code 4) := by decide
  simp [readDoubleQuoted, escape, isBreak, first, second, third, fourth, isChar, bind_prepend,
    Function.comp_def, Mark.next]

theorem readDoubleQuoted_escapedChar (inline : isInline c = true) (notSpace : c ≠ ' ')
    (notFirst : mark.column ≠ 0) :
    readDoubleQuoted (.text gap) mark (escapedChar c ++ rest) =
      (readDoubleQuoted (.text .none) (mark.skip (escapedChar c).length) rest).map
        (.prepend (gap.text ++ [c])) := by
  rcases escapedChar_cases inline with
    ⟨⟨notQuote, notBackslash⟩, -, itself⟩ | ⟨isSign, behind⟩ | hidden
  · rw [itself]
    exact readDoubleQuoted_char inline notSpace notQuote notBackslash notFirst
  · rw [behind]
    rcases isSign with rfl | rfl <;>
      simp [readDoubleQuoted, escape?, isBreak, bind_prepend]
  · rcases hidden with rfl | rfl | rfl <;>
      exact readDoubleQuoted_number rfl rfl rfl rfl (by decide)

/-- A reader behind a double quote takes a text up to the quote that is not escaped. -/
theorem readDoubleQuoted_escaped (inline : InlineText cs) (within : gap.IsWithinLine)
    (notFirst : mark.column ≠ 0) :
    readDoubleQuoted (.text gap) mark (cs.flatMap escapedChar ++ '"' :: rest) =
      some ⟨gap.text ++ cs, rest, mark.skip ((cs.flatMap escapedChar).length + 1), false⟩ := by
  induction cs generalizing gap mark with
  | nil => simp [readDoubleQuoted, Mark.next]
  | cons c cs inductionHypothesis =>
    have inlineBehind : InlineText cs := (List.forall_mem_cons.1 inline).2
    rw [List.flatMap_cons, List.append_assoc]
    by_cases space : c = ' '
    · have read := @inductionHypothesis (gap.addSpace ' ') mark.next inlineBehind
        within.addSpace.1 (by simp)
      have itself : escapedChar ' ' = [' '] := by decide
      rw [space, itself, List.cons_append, List.nil_append, readDoubleQuoted_space, read,
        within.addSpace.2, Mark.next_skip]
      simp
    · have read := @inductionHypothesis .none (mark.skip (escapedChar c).length)
        inlineBehind rfl (by simp [notFirst])
      rw [readDoubleQuoted_escapedChar (inline c List.mem_cons_self) space notFirst, read]
      simp [ScalarText.prepend, Gap.text, Nat.add_assoc]

end Quoted

/-! ## Where a plain scalar begins -/

/-- A plain scalar begins with this character, and nothing else does. -/
structure StartsPlain (c : Char) (rest : List Char) : Prop where
  notSpace : isSpace c = false
  notBreak : isBreak c = false
  notLeading : isLeadingIndicator c = false
  inWord : c = '-' ∨ c = '?' ∨ c = ':' → atGap rest = false

/-! ## Names -/

def isNameChar (c : Char) : Bool := c.isLower || c == '_'

/-- A name, which is so short that a colon may stand behind it. -/
structure IsName (cs : List Char) : Prop where
  nonempty : cs ≠ []
  letters : ∀ c ∈ cs, isNameChar c = true
  short : cs.length ≤ 1024

instance : Decidable (IsName cs) :=
  decidable_of_iff (cs ≠ [] ∧ cs.all isNameChar = true ∧ cs.length ≤ 1024)
    ⟨fun ⟨nonempty, letters, short⟩ => ⟨nonempty, List.all_eq_true.1 letters, short⟩,
      fun name => ⟨name.nonempty, List.all_eq_true.2 name.letters, name.short⟩⟩

theorem ne_of_isNameChar {d : Char} (letter : isNameChar c = true) (other : isNameChar d = false) :
    c ≠ d := by
  rintro rfl
  simp [letter] at other

theorem toNat_of_isNameChar (letter : isNameChar c = true) : 0x5F ≤ c.toNat ∧ c.toNat ≤ 0x7A := by
  rcases Bool.or_eq_true_iff.1 letter with lower | isLine
  · obtain ⟨low, high⟩ := Bool.and_eq_true_iff.1 lower
    have above : 97 ≤ c.toNat := of_decide_eq_true low
    exact ⟨Nat.le_trans (by decide) above, of_decide_eq_true high⟩
  · obtain rfl := beq_iff_eq.1 isLine
    decide

theorem isInline_of_isNameChar (letter : isNameChar c = true) : isInline c = true := by
  have notLine : c ≠ '\u2028' := ne_of_isNameChar letter (by decide)
  have notParagraph : c ≠ '\u2029' := ne_of_isNameChar letter (by decide)
  have := toNat_of_isNameChar letter
  simp [isInline, isControl, notLine, notParagraph]
  omega

theorem isPrintable_of_isNameChar (letter : isNameChar c = true) : isPrintable c = true := by
  have := toNat_of_isNameChar letter
  simp [isPrintable]
  omega

theorem startsPlain_of_isNameChar (letter : isNameChar c = true) (rest : List Char) :
    StartsPlain c rest where
  notSpace := by
    rw [isSpace_of_isInline (isInline_of_isNameChar letter)]
    exact beq_eq_false_iff_ne.2 (ne_of_isNameChar letter (by decide))
  notBreak := isBreak_of_isInline (isInline_of_isNameChar letter)
  notLeading := by
    simp only [isLeadingIndicator, isFlowIndicator, Bool.or_eq_false_iff, beq_eq_false_iff_ne]
    and_intros <;> exact ne_of_isNameChar letter (by decide)
  inWord := by
    rintro (rfl | rfl | rfl) <;> simp [isNameChar] at letter

theorem anyPair_eq_false {p : Char → Char → Bool} (none : ∀ a ∈ cs, ∀ b, p a b = false) :
    anyPair p cs = false := by
  induction cs with
  | nil => rfl
  | cons a cs inductionHypothesis =>
    cases cs with
    | nil => rfl
    | cons b cs =>
      rw [anyPair, none a (by simp), inductionHypothesis fun x member => none x (by simp_all)]
      rfl

theorem IsName.plainRun (name : IsName cs) : PlainRun cs where
  inline c member := isInline_of_isNameChar (name.letters c member)
  lastNotSpace last := ne_of_isNameChar (name.letters _ (List.mem_of_getLast? last)) (by decide) rfl
  lastNotColon last := ne_of_isNameChar (name.letters _ (List.mem_of_getLast? last)) (by decide) rfl
  noPair := by
    refine anyPair_eq_false fun a member b => ?_
    have notColon : a ≠ ':' := ne_of_isNameChar (name.letters a member) (by decide)
    have notSpace : a ≠ ' ' := ne_of_isNameChar (name.letters a member) (by decide)
    simp [endsBetween, notColon, notSpace]

section Names

variable {indent : Nat} {mark : Mark} {rest : List Char}

theorem not_isDocumentMark (notHyphen : c ≠ '-') (notPoint : c ≠ '.') :
    isDocumentMark (c :: cs) = false := by
  rw [isDocumentMark.eq_def]
  split <;> simp_all

theorem not_isDocumentMark_of_isName (name : IsName cs) (rest : List Char) :
    isDocumentMark (cs ++ rest) = false := by
  cases cs with
  | nil => exact absurd rfl name.nonempty
  | cons c cs =>
    have letter := name.letters c List.mem_cons_self
    exact not_isDocumentMark (ne_of_isNameChar letter (by decide))
      (ne_of_isNameChar letter (by decide))

theorem readPlain_colon (gap : atGap rest = true) :
    readPlain false indent .none mark (':' :: rest) = some ⟨[], ':' :: rest, mark, false⟩ := by
  have ends : plainEnds false indent .none mark (':' :: rest) = true := by simp [plainEnds, gap]
  rw [readPlain]
  simp [isSpace, isBreak, ends, Gap.hasBreak]

theorem readPlain_name (name : IsName cs) (gap : atGap rest = true) :
    readPlain false indent .none mark (cs ++ ':' :: rest) =
      some ⟨cs, ':' :: rest, mark.skip cs.length, false⟩ := by
  have noSpace : ' ' ∉ cs := fun member => by simpa [isNameChar] using name.letters _ member
  rw [readPlain_append name.plainRun name.nonempty Gap.isWithinLine_none (by simp)
    (by simp [noSpace]) fun _ => not_isDocumentMark_of_isName name _, readPlain_colon gap]
  simp [ScalarText.prepend, Gap.text]

end Names

/-! ## The style of a text -/

def scalarBody (text : String) : List Char :=
  match chosenStyle text with
  | .plain => text.toList
  | .singleQuoted => '\x27' :: doubled text.toList ++ ['\x27']
  | _ => '"' :: text.toList.flatMap escapedChar ++ ['"']

variable {text : String}

/-- A text of one line is plain, or it is in single quotes if all of it can be shown, or else in
double quotes. -/
theorem chosenStyle_of_inline (inline : InlineText text.toList) :
    (chosenStyle text = .plain ∧ text.toList ≠ [] ∧ plainAllowed text.toList = true) ∨
      (chosenStyle text = .singleQuoted ∧ text.toList.all isPrintable = true) ∨
      chosenStyle text = .doubleQuoted := by
  have oneLine : text.toList.contains '\n' = false := by
    simp only [List.contains_eq_mem, decide_eq_false_iff_not]
    intro member
    exact absurd (inline _ member) (by decide)
  simp only [chosenStyle, oneLine, Bool.false_eq_true, if_false]
  split
  case isTrue plain =>
    simp only [Bool.and_eq_true, Bool.not_eq_true'] at plain
    refine .inl ⟨rfl, ?_, plain.2⟩
    intro empty
    have isEmpty : text = "" := by simpa using empty
    simp [needsQuotes, Scalar.ofPlain, isEmpty] at plain
  · split
    case isTrue single =>
      simp only [singleAllowed, Bool.and_eq_true] at single
      exact .inr (.inl ⟨rfl, single.1⟩)
    · exact .inr (.inr rfl)

theorem indented_of_inline (inline : InlineText cs) : indented false cs = cs := by
  induction cs with
  | nil => rfl
  | cons c cs inductionHypothesis =>
    have noBreak := isAnyBreak_of_isInline (inline c List.mem_cons_self)
    simp [indented, noBreak, inductionHypothesis (List.forall_mem_cons.1 inline).2]

theorem mem_doubled : c ∈ doubled cs ↔ c ∈ cs := by
  simp only [doubled, List.mem_flatMap]
  constructor
  · rintro ⟨d, member, isSame⟩
    split at isSame <;> simp_all
  · intro member
    exact ⟨c, member, by split <;> simp_all⟩

theorem scalarLines_eq (inline : InlineText text.toList) :
    scalarLines text = scalarBody text ++ ['\n'] := by
  have noBreak : text.toList.getLast?.any isAnyBreak = false := by
    cases last : text.toList.getLast? with
    | none => rfl
    | some c => exact isAnyBreak_of_isInline (inline c (List.mem_of_getLast? last))
  have inlineDoubled : InlineText (doubled text.toList) := fun c member =>
    inline c (mem_doubled.1 member)
  unfold scalarLines scalarBody
  rcases chosenStyle_of_inline inline with ⟨style, -, -⟩ | ⟨style, -⟩ | style
  · simp [style]
  · simp [style, singleQuoted, noBreak, indented_of_inline inlineDoubled]
  · simp [style, doubleQuoted]

theorem isPrintable_of_mem_escapedChar (inline : isInline c = true) {d : Char}
    (member : d ∈ escapedChar c) : isPrintable d = true := by
  rcases escapedChar_cases inline with ⟨-, shown, itself⟩ | ⟨isSign, behind⟩ | hidden
  · rw [itself, List.mem_singleton] at member
    rwa [member]
  · rw [behind] at member
    have shown : ['\\', c].all isPrintable = true := by rcases isSign with rfl | rfl <;> decide
    exact List.all_eq_true.1 shown d member
  · have shown : (escapedChar c).all isPrintable = true := by
      rcases hidden with rfl | rfl | rfl <;> decide
    exact List.all_eq_true.1 shown d member

theorem isPrintable_of_mem_scalarBody (inline : InlineText text.toList)
    (member : c ∈ scalarBody text) : isPrintable c = true := by
  unfold scalarBody at member
  rcases chosenStyle_of_inline inline with ⟨style, -, allowed⟩ | ⟨style, shown⟩ | style
  · rw [style] at member
    simp only [plainAllowed, Bool.and_eq_true, List.all_eq_true] at allowed
    exact (allowed.1.1.1 c member).1
  · rw [style] at member
    simp only [List.cons_append, List.mem_cons, List.mem_append, List.not_mem_nil, or_false,
      mem_doubled] at member
    rcases member with rfl | member | rfl
    · decide
    · exact List.all_eq_true.1 shown c member
    · decide
  · rw [style] at member
    simp only [List.cons_append, List.mem_cons, List.mem_append, List.not_mem_nil, or_false,
      List.mem_flatMap] at member
    rcases member with rfl | ⟨d, isIn, member⟩ | rfl
    · decide
    · exact isPrintable_of_mem_escapedChar (inline d isIn) member
    · decide

/-- A text that is written plainly is a run, and begins as a plain scalar does. -/
theorem plainRun_of_plainAllowed (inline : InlineText cs) (allowed : plainAllowed cs = true) :
    PlainRun cs := by
  simp only [plainAllowed, hasIndicator, Bool.and_eq_true, Bool.not_eq_true', bne_iff_ne, ne_eq,
    Bool.or_eq_false_iff, beq_eq_false_iff_ne] at allowed
  exact ⟨inline, allowed.1.2, allowed.2.1.2, allowed.2.2⟩

theorem startsPlain_of_plainAllowed (inline : InlineText (c :: cs))
    (allowed : plainAllowed (c :: cs) = true) (rest : List Char) : StartsPlain c (cs ++ rest) := by
  have run := plainRun_of_plainAllowed inline allowed
  simp only [plainAllowed, hasIndicator, Bool.and_eq_true, Bool.not_eq_true', Bool.or_eq_false_iff,
    List.head?_cons, Option.any_some, List.drop_succ_cons, List.drop_zero] at allowed
  obtain ⟨⟨⟨-, notSpace⟩, -⟩, ⟨⟨⟨-, notLeading⟩, notSign⟩, -⟩, -⟩ := allowed
  refine ⟨?_, isBreak_of_isInline (inline c List.mem_cons_self), notLeading, ?_⟩
  · rw [isSpace_of_isInline (inline c List.mem_cons_self)]
    simpa using notSpace
  · intro sign
    by_cases colon : c = ':'
    · simpa [colon] using run.not_atGap rest
    · cases cs with
      | nil => simp_all
      | cons d cs =>
        have goesOn : d ≠ ' ' := by
          rintro rfl
          rcases sign with rfl | rfl | rfl <;> simp_all
        simp [atGap_cons_of_isInline (inline d (by simp)), goesOn]

end ModuleSurvey.Yaml
