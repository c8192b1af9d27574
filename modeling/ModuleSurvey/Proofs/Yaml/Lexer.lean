import Mathlib.Logic.Relation
import ModuleSurvey.Proofs.Yaml.ScalarText
import ModuleSurvey.Yaml.Token.Lexer

/-! # A lexer outside of flow collections

Outside of flow collections the columns decide what a line belongs to. A lexer that goes on to the
next token closes what is indented more, and the key of an entry opens a mapping where its column is
a new one.

* `laidOut` — a lexer outside of flow collections, by what it has left and what it has made.
* `advance?_laidOut`, `advance?_inside` — going on to the next token.
* `Steps`, `run?_of_steps` — a run of the lexer, token by token.
* `Opens`, `steps_key` — a name and a colon, and the mapping that they belong to.
-/

namespace ModuleSurvey.Yaml

/-- A token begins here or the text is over: there is no white space and no comment. -/
def Solid (cs : List Char) : Prop :=
  ∀ c ∈ cs.head?, isSpace c = false ∧ isBreak c = false ∧ c ≠ '#'

variable {c : Char} {cs rest : List Char} {mark : Mark} {allowed : Bool}

theorem StartsPlain.solid (starts : StartsPlain c rest) : Solid (c :: cs) := by
  rintro d ⟨⟩
  refine ⟨starts.notSpace, starts.notBreak, ?_⟩
  rintro rfl
  exact absurd starts.notLeading (by decide)

namespace Lexer

/-! ## Going on to the next token -/

/-- A lexer outside of flow collections. -/
def laidOut (rest : List Char) (mark : Mark) (made : List Lexeme) (columns : List Nat)
    (keyAllowed : Bool) (key : Option KeyPlace) : Lexer :=
  { rest, mark, made, count := made.length, columns, keyAllowed, key, outerKeys := [] }

def tokensOf (made : List Lexeme) : List Token := (made.map (·.token)).reverse

@[simp] theorem tokensOf_cons (x : Lexeme) (made : List Lexeme) :
    tokensOf (x :: made) = tokensOf made ++ [x.token] := by
  simp [tokensOf]

theorem tokensOf_append (later made : List Lexeme) :
    tokensOf (later ++ made) = tokensOf made ++ tokensOf later := by
  simp [tokensOf]

variable {made : List Lexeme} {columns outer : List Nat} {key : Option KeyPlace} {column : Nat}

theorem skipGap_of_solid (solid : Solid cs) :
    skipGap false false allowed mark cs = (cs, mark, allowed) := by
  cases cs with
  | nil => rfl
  | cons c cs =>
    obtain ⟨notSpace, notBreak, notSign⟩ := solid c rfl
    simp only [isSpace, Bool.or_eq_false_iff] at notSpace
    simp [skipGap, notSpace, notBreak, notSign]

def closings (columns : List Nat) (mark : Mark) : List Lexeme :=
  (columns.takeWhile (mark.column < ·)).map fun _ => ⟨.blockEnd, mark⟩

theorem advance?_laidOut {rest' : List Char} {mark' : Mark} {allowed' : Bool}
    {key' : Option KeyPlace} (behindStart : mark = .start → rest.head? ≠ some '\ufeff')
    (gap : skipGap false false allowed mark rest = (rest', mark', allowed'))
    (kept : (if key.any (KeyPlace.isStale · mark') then dropPlace? key else some key) = some key') :
    (laidOut rest mark made columns allowed key).advance? =
      some (laidOut rest' mark' (closings columns mark' ++ made)
        (columns.dropWhile (mark'.column < ·)) allowed' key') := by
  have noMark : (laidOut rest mark made columns allowed key).skipByteOrderMark =
      laidOut rest mark made columns allowed key :=
    if_neg fun ⟨atStart, isMark⟩ => behindStart atStart isMark
  simp only [advance?, noMark]
  simp only [laidOut, flow, List.isEmpty_nil, Bool.not_true, gap, dropStaleKeys?, kept,
    List.mapM_nil, closeBlocks, closings]
  simp [Nat.add_comm]

theorem noneClosed {n : Nat} (inside : ∀ column ∈ columns.head?, column ≤ n) :
    columns.takeWhile (n < ·) = [] ∧ columns.dropWhile (n < ·) = columns := by
  cases columns with
  | nil => exact ⟨rfl, rfl⟩
  | cons column columns => simp [Nat.not_lt.2 (inside column rfl)]

/-- In the column of the innermost open collection, or further on, nothing is closed. -/
theorem advance?_inside {rest' : List Char} {mark' : Mark} {allowed' : Bool}
    {key' : Option KeyPlace} (behindStart : mark = .start → rest.head? ≠ some '\ufeff')
    (gap : skipGap false false allowed mark rest = (rest', mark', allowed'))
    (kept : (if key.any (KeyPlace.isStale · mark') then dropPlace? key else some key) = some key')
    (inside : ∀ column ∈ columns.head?, column ≤ mark'.column) :
    (laidOut rest mark made columns allowed key).advance? =
      some (laidOut rest' mark' made columns allowed' key') := by
  rw [advance?_laidOut behindStart gap kept, closings, (noneClosed inside).1, (noneClosed inside).2]
  rfl

theorem advance?_space (solid : Solid cs) (inside : column ≤ mark.column) :
    (laidOut (' ' :: cs) mark made (column :: outer) allowed none).advance? =
      some (laidOut cs mark.next made (column :: outer) allowed none) := by
  refine advance?_inside (by simp) ?_ rfl (by simp; omega)
  rw [skipGap]
  simpa [isBreak] using skipGap_of_solid solid

/-! ## Steps -/

/-- One token: it is read and the lexer goes on to the next one, which is further on in the text. -/
def Step (s t : Lexer) : Prop :=
  ∃ c cs u, s.rest = c :: cs ∧ s.token? c cs = some u ∧ u.advance? = some t ∧
    t.rest.length < s.rest.length

abbrev Steps : Lexer → Lexer → Prop := Relation.ReflTransGen Step

theorem run?_of_steps {s t u : Lexer} {n : Nat} (advanced : s.advance? = some t) (steps : Steps t u)
    (ended : u.rest = []) (enough : t.rest.length < n) : run? n s = u.finish? := by
  induction steps using Relation.ReflTransGen.head_induction_on generalizing s n with
  | refl =>
    obtain ⟨n, rfl⟩ := Nat.exists_eq_succ_of_ne_zero (Nat.ne_zero_of_lt enough)
    simp [run?, advanced, ended]
  | @head t v step _ inductionHypothesis =>
    obtain ⟨n, rfl⟩ := Nat.exists_eq_succ_of_ne_zero (Nat.ne_zero_of_lt enough)
    obtain ⟨c, cs, u, form, read, advancedBehind, shorter⟩ := step
    simp only [run?, advanced, form, read, Option.bind_eq_bind, Option.bind_some]
    exact inductionHypothesis advancedBehind (by omega)

/-! ## Which token begins -/

theorem token?_of_startsPlain {s : Lexer} (noFlow : s.flow = false) (starts : StartsPlain c cs)
    (noMark : s.mark.column = 0 → isDocumentMark (c :: cs) = false) :
    s.token? c cs = s.plainScalar? := by
  obtain ⟨notSpace, notBreak, notLeading, inWord⟩ := starts
  simp only [isLeadingIndicator, isFlowIndicator, Bool.or_eq_false_iff, beq_eq_false_iff_ne]
    at notLeading
  have begins : beginsPlain false c cs = true := by
    by_cases sign : c = '-' ∨ c = '?' ∨ c = ':'
    · rcases sign with rfl | rfl | rfl <;> simp [beginsPlain, inWord]
    · simp_all [beginsPlain, isIndicator, isFlowIndicator]
  have noDocument : ¬ (s.mark.column = 0 ∧ isDocumentMark (c :: cs) = true) := by
    rintro ⟨atStart, isMark⟩
    simp [noMark atStart] at isMark
  have noSign {d : Char} (sign : d = '-' ∨ d = '?' ∨ d = ':') : ¬ (c = d ∧ atGap cs = true) := by
    rintro ⟨rfl, gap⟩
    simp [inWord sign] at gap
  simp [token?, notLeading, noFlow, begins]
  -- What is left are a mark between documents, and the signs that need white space behind them.
  rw [if_neg noDocument, if_neg (noSign (.inl rfl)), if_neg (noSign (.inr (.inl rfl))),
    if_neg (noSign (.inr (.inr rfl)))]

theorem token?_colon {s : Lexer} (behind : s.mark.column ≠ 0) (gap : atGap cs = true) :
    s.token? ':' cs = s.valueSign? := by
  simp [token?, behind, gap]

theorem token?_singleQuote {s : Lexer} (notFirst : s.mark.column ≠ 0) :
    s.token? '\x27' cs = s.quotedScalar? .singleQuoted := by
  simp [token?, notFirst]

theorem token?_doubleQuote {s : Lexer} (notFirst : s.mark.column ≠ 0) :
    s.token? '"' cs = s.quotedScalar? .doubleQuoted := by
  simp [token?, notFirst]

/-- The place before a scalar that is not the first one in its line, which might be a key's. -/
def heldKey (allowed : Bool) (made : List Lexeme) (mark : Mark) : Option KeyPlace :=
  if allowed then some ⟨false, made.length, mark⟩ else none

theorem saveKey?_laidOut (further : columns.head? ≠ some mark.column) :
    (laidOut rest mark made columns allowed none).saveKey? =
      some (laidOut rest mark made columns allowed (heldKey allowed made mark)) := by
  cases allowed <;> simp [saveKey?, dropKey?, dropPlace?, laidOut, heldKey, further]

theorem indentsMore_laidOut :
    (laidOut rest mark made columns allowed key).indentsMore column = true ↔
      ∀ c ∈ columns.head?, c < column := by
  cases columns with
  | nil => simp [indentsMore, laidOut, flow, indent]
  | cons column' outer =>
    have deeper : (laidOut rest mark made (column' :: outer) allowed key).indentsMore column =
        true ↔ column' + 1 ≤ column := by
      unfold indentsMore
      rw [Bool.and_eq_true_iff, decide_eq_true_iff]
      exact ⟨And.right, .intro rfl⟩
    rw [deeper, Nat.add_one_le_iff]
    simp

theorem token?_hyphen {s : Lexer} : s.token? '-' (' ' :: cs) = s.blockEntry? := by
  simp [token?, isDocumentMark, atGap, isSpace]

theorem blockEntry?_laidOut :
    blockEntry? (laidOut ('-' :: rest) mark made (mark.column :: outer) true none) =
      some (laidOut rest mark.next (⟨.blockEntry, mark⟩ :: made) (mark.column :: outer) true
        none) := by
  have noSequence : (laidOut ('-' :: rest) mark made (mark.column :: outer) true none).openBlock
      .blockSequenceStart = laidOut ('-' :: rest) mark made (mark.column :: outer) true none :=
    if_neg fun more => absurd (indentsMore_laidOut.1 more _ rfl) (Nat.lt_irrefl _)
  simp only [ blockEntry?, noSequence]
  rfl

/-! ## Keys -/

/-- The open collections before the key of an entry: the mapping of the entry is the innermost one,
or it begins here. -/
inductive Opens (column : Nat) : (before outer : List Nat) → (start : List Token) → Prop
  | again {outer : List Nat} : Opens column (column :: outer) outer []
  | fresh {outer : List Nat} (deeper : ∀ c ∈ outer.head?, c < column) :
    Opens column outer outer [.blockMappingStart]

variable {start : List Token} {place : Mark} {required : Bool} {x : Lexeme}

theorem Opens.inside (opens : Opens column columns outer start) :
    ∀ c ∈ columns.head?, c ≤ column := by
  cases opens with
  | again => simp
  | fresh deeper => exact fun c isHead => Nat.le_of_lt (deeper c isHead)

theorem insert_laidOut (later : List Lexeme) :
    (laidOut rest mark (later ++ made) columns allowed key).insert made.length x =
      laidOut rest mark (later ++ x :: made) columns allowed key := by
  simp [insert, laidOut, Nat.add_assoc]

theorem openMappingBefore_laidOut (opens : Opens place.column columns outer start)
    (later : List Lexeme) :
    (laidOut rest mark (later ++ made) columns allowed key).openMappingBefore
        ⟨required, made.length, place⟩ =
      laidOut rest mark (later ++ (start.reverse.map (⟨·, place⟩) ++ made)) (place.column :: outer)
        allowed key := by
  cases opens with
  | again => exact if_neg (by simp [indentsMore_laidOut])
  | fresh deeper =>
    refine (if_pos (indentsMore_laidOut.2 deeper)).trans ?_
    rw [insert_laidOut]
    rfl

/-- A colon turns the scalar before it into a key. -/
theorem valueSign?_laidOut (opens : Opens place.column columns outer start) :
    (laidOut (':' :: rest) mark (x :: made) columns false
      (some ⟨required, made.length, place⟩)).valueSign? =
      some (laidOut rest mark.next
        (⟨.value, mark⟩ :: x :: ⟨.key, place⟩ :: (start.reverse.map (⟨·, place⟩) ++ made))
        (place.column :: outer) false none) := by
  let key : Option KeyPlace := some ⟨required, made.length, place⟩
  have inserted : (laidOut (':' :: rest) mark (x :: made) columns false key).insert made.length
      ⟨.key, place⟩ = laidOut (':' :: rest) mark ([x, ⟨.key, place⟩] ++ made) columns false key :=
    insert_laidOut [x]
  simp only [valueSign?]
  change some { (((laidOut (':' :: rest) mark (x :: made) columns false key).insert made.length
    ⟨.key, place⟩).openMappingBefore ⟨required, made.length, place⟩ |>.add .value).pass 1 with
      key := none, keyAllowed := false } = _
  rw [inserted, openMappingBefore_laidOut opens]
  rfl

/-- A name is read as a scalar, and the place before it is kept for the key. -/
theorem step_name (name : IsName cs) (gap : atGap rest = true)
    (inside : ∀ column ∈ columns.head?, column ≤ mark.column) :
    Step (laidOut (cs ++ ':' :: rest) mark made columns true none)
      (laidOut (':' :: rest) (mark.skip cs.length)
        (⟨.scalar .plain (String.ofList cs), mark⟩ :: made) columns false
        (some ⟨columns.head? = some mark.column, made.length, mark⟩)) := by
  obtain ⟨c, cs, rfl⟩ := List.exists_cons_of_ne_nil name.nonempty
  refine ⟨c, cs ++ ':' :: rest, laidOut (':' :: rest) (mark.skip (cs.length + 1))
    (⟨.scalar .plain (String.ofList (c :: cs)), mark⟩ :: made) columns false
    (some ⟨columns.head? = some mark.column, made.length, mark⟩), rfl, ?_, ?_, ?_⟩
  · rw [token?_of_startsPlain rfl]
    · have read (indent : Nat) : readPlain false indent .none mark (c :: (cs ++ ':' :: rest)) = _ :=
        readPlain_name name gap
      simp [laidOut, flow, plainScalar?, saveKey?, dropKey?, dropPlace?, read, addScalar, add]
    · exact startsPlain_of_isNameChar (name.letters c List.mem_cons_self) _
    · intro _
      exact not_isDocumentMark_of_isName name _
  · -- The colon is in the line of the name and near to it, so that the place is not given up.
    refine advance?_inside (fun atStart => ?_) (skipGap_of_solid ?_) ?_ ?_
    · simp [Mark.skip, Mark.start] at atStart
    · rintro d ⟨⟩
      decide
    · have short := name.short
      simp [KeyPlace.isStale, Mark.skip] at short ⊢
      omega
    · exact fun column isHead => Nat.le_add_right_of_le (inside column isHead)
  · simp only [laidOut, List.length_append, List.length_cons]
    omega

def keyTokens (name : List Char) (start : List Token) (place : Mark) : List Lexeme :=
  ⟨.value, place.skip name.length⟩ :: ⟨.scalar .plain (String.ofList name), place⟩ ::
    ⟨.key, place⟩ :: start.reverse.map (⟨·, place⟩)

/-- A name and a colon are the key of an entry, whose mapping begins before it or there. -/
theorem steps_key {t : Lexer} (name : IsName cs) (gap : atGap rest = true)
    (opens : Opens mark.column columns outer start)
    (next : (laidOut rest (mark.skip (cs.length + 1)) (keyTokens cs start mark ++ made)
      (mark.column :: outer) false none).advance? = some t)
    (shorter : t.rest.length ≤ rest.length) :
    Steps (laidOut (cs ++ ':' :: rest) mark made columns true none) t := by
  refine .head (step_name name gap opens.inside) (.single ?_)
  refine ⟨':', rest, _, rfl, ?_, next, ?_⟩
  · have behind : (mark.skip cs.length).column ≠ 0 := by simp [name.nonempty]
    rw [token?_colon behind gap, valueSign?_laidOut opens]
    simp [keyTokens, Mark.next]
  · simp [laidOut]
    omega

end Lexer

end ModuleSurvey.Yaml
