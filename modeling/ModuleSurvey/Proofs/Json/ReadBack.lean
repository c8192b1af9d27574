import ModuleSurvey.Proofs.Json.Lexeme
import ModuleSurvey.Json.Reader
import Mathlib.Data.List.Forall2

/-! # Reading values back

A reader reads a value back when it takes the text of the value off the front of any text, however
the text is laid out, and leaves what stands behind it.

* `ReadsAs` — a reader, a value, and what the reader makes of it.
* `readsAs_string`, `readsAs_bool`, `readsAs_natural`, `readsAs_variant` — scalars.
* `readsAs_nullable`, `readsAs_nullable_null` — what may be `null`.
* `items_cons`, `items_itemsChars`, `readsAs_listOf` — one item, all items, and a list.
* `members_cons`, `members_membersChars`, `readsAs_mapOf` — the same for objects.
* `decodeChars_chars` — a whole text.
-/

namespace ModuleSurvey.Json

variable {α β σ : Type}

/-! ## What begins a text -/

/-- Whether a value is a number whose text is rounded. -/
def Value.isRounded : Value → Bool
  | .number (.double d) => .double d ≠ Number.minusZero
  | _ => false

/-- The first character of a value's text is not white space, and tells the value from the end of
a bracket, from the next item and from `null`. -/
structure Begins (v : Value) (c : Char) : Prop where
  solid : isBlank c = false
  notComma : c ≠ ','
  notEnd : c ≠ ']'
  null : c = 'n' ↔ v = .null

theorem begins_of_isDigit {c : Char} (digit : c.isDigit = true) (n : Number) :
    Begins (.number n) c := by
  have different : ∀ d : Char, d.isDigit = false → c ≠ d := by
    rintro d notDigit rfl
    exact Bool.false_ne_true (notDigit.symm.trans digit)
  refine ⟨?_, different _ rfl, different _ rfl, ?_⟩
  · simp [isBlank, different ' ' rfl, different '\n' rfl, different '\t' rfl, different '\r' rfl]
  · simp [different 'n' rfl]

theorem begins_intText (n : Int) :
    ∃ c cs, intText n = c :: cs ∧ Begins (.number (.int n)) c := by
  have decimal : ∀ k, ∃ c cs, Nat.toDigits 10 k = c :: cs ∧ c.isDigit = true := by
    intro k
    obtain ⟨c, cs, digits⟩ := List.exists_cons_of_ne_nil (Nat.toDigits_ne_nil (n := k) (b := 10))
    exact ⟨c, cs, digits, isDigit_of_mem_decimal (n := k) (by simp [digits])⟩
  unfold intText
  split
  case isTrue negative => exact ⟨'-', _, rfl, ⟨rfl, by decide, by decide, by simp⟩⟩
  case isFalse natural =>
    obtain ⟨c, cs, digits, digit⟩ := decimal n.toNat
    exact ⟨c, cs, digits, begins_of_isDigit digit _⟩

theorem begins_chars (l : Layout) (level : Nat) :
    ∀ {v : Value}, v.isRounded = false → ∃ c cs, v.chars l level = c :: cs ∧ Begins v c
  | .null, _ => ⟨'n', _, rfl, ⟨rfl, by decide, by decide, by simp⟩⟩
  | .bool true, _ => ⟨'t', _, rfl, ⟨rfl, by decide, by decide, by simp⟩⟩
  | .bool false, _ => ⟨'f', _, rfl, ⟨rfl, by decide, by decide, by simp⟩⟩
  | .number (.int n), _ => begins_intText n
  | .number (.double d), whole => by
    have isMinusZero : Number.double d = .minusZero := by simpa [Value.isRounded] using whole
    exact isMinusZero ▸ ⟨'-', ['0', '.', '0'], rfl, ⟨rfl, by decide, by decide, by simp⟩⟩
  | .string _, _ => ⟨'"', _, rfl, ⟨rfl, by decide, by decide, by simp⟩⟩
  | .array _, _ => ⟨'[', _, rfl, ⟨rfl, by decide, by decide, by simp⟩⟩
  | .object _, _ => ⟨'\x7b', _, rfl, ⟨rfl, by decide, by decide, by simp⟩⟩

theorem isBlank_nil : IsBlank [] := by
  intro c member
  cases member

theorem skipBlanks_chars (l : Layout) (level : Nat) {v : Value} (whole : v.isRounded = false)
    {blanks : List Char} (blank : IsBlank blanks) (rest : List Char) :
    skipBlanks (blanks ++ (v.chars l level ++ rest)) = v.chars l level ++ rest := by
  obtain ⟨c, cs, text, begins⟩ := begins_chars l level whole
  rw [skipBlanks_append blank, text]
  exact skipBlanks_cons_of_not begins.solid _

/-! ## The text of a scalar -/

theorem null_chars_append (l : Layout) (level : Nat) (rest : List Char) :
    Value.null.chars l level ++ rest = 'n' :: (['u', 'l', 'l'] ++ rest) := rfl

theorem true_chars_append (l : Layout) (level : Nat) (rest : List Char) :
    (Value.bool true).chars l level ++ rest = 't' :: (['r', 'u', 'e'] ++ rest) := rfl

theorem false_chars_append (l : Layout) (level : Nat) (rest : List Char) :
    (Value.bool false).chars l level ++ rest = 'f' :: (['a', 'l', 's', 'e'] ++ rest) := rfl

theorem natural_chars (l : Layout) (level n : Nat) :
    (Value.number (.int n)).chars l level = Nat.toDigits 10 n := by
  simp [Value.chars, Number.chars, intText]

theorem string_chars_append (l : Layout) (level : Nat) (s : String) (rest : List Char) :
    (Value.string s).chars l level ++ rest = '"' :: (escaped s.toList ++ '"' :: rest) := by
  simp [Value.chars, quoted]

/-! ## Reading back -/

/-- Whether a reader takes the text of a value for `a`, however it is laid out, behind any white
space and in front of whatever may follow a value. -/
structure ReadsAs (reader : Reader α) (v : Value) (a : α) : Prop where
  whole : v.isRounded = false
  run : ∀ (l : Layout) (level : Nat) (b : Bounds) (blanks rest : List Char), IsBlank blanks →
    Delimited rest → v.depth < b.depth → v.width < b.steps →
    reader b (blanks ++ (v.chars l level ++ rest)) = .ok (a, rest)

theorem ReadsAs.map {reader : Reader α} {v : Value} {a : α} (reads : ReadsAs reader v a)
    (f : α → β) :
    ReadsAs (fun b cs => do let (a, cs) ← reader b cs; return (f a, cs)) v (f a) where
  whole := reads.whole
  run l level b blanks rest blank delimited deep wide := by
    have read := reads.run l level b blanks rest blank delimited deep wide
    simp only [read, bind, Except.bind, pure, Except.pure]

theorem readsAs_string (s : String) : ReadsAs string (.string s) s where
  whole := rfl
  run l level b blanks rest blank _ _ _ := by
    have front := skipBlanks_chars l level (v := .string s) rfl blank rest
    simp only [string, front]
    simp only [string_chars_append, readString_escaped, bind, Except.bind, pure, Except.pure,
      String.ofList_toList]

theorem readsAs_bool (x : Bool) : ReadsAs bool (.bool x) x where
  whole := rfl
  run l level b blanks rest blank _ _ _ := by
    have front := skipBlanks_chars l level (v := .bool x) rfl blank rest
    simp only [bool, front]
    cases x with
    | true => simp only [true_chars_append, readWord_append, bind, Except.bind, pure, Except.pure]
    | false => simp only [false_chars_append, readWord_append, bind, Except.bind, pure, Except.pure]

theorem readsAs_natural {n : Nat} (small : n < Nat.pow 2 64) :
    ReadsAs natural (.number (.int n)) n where
  whole := rfl
  run l level b blanks rest blank delimited _ _ := by
    have front := skipBlanks_chars l level (v := .number (.int n)) rfl blank rest
    obtain ⟨c, cs, digits⟩ := List.exists_cons_of_ne_nil (Nat.toDigits_ne_nil (n := n) (b := 10))
    have digit : c.isDigit = true := isDigit_of_mem_decimal (n := n) (by simp [digits])
    have notMinus : c ≠ '-' := by
      rintro rfl
      cases digit
    have read := readNumber_toDigits small delimited
    simp only [natural, front]
    rw [natural_chars]
    rw [digits] at read ⊢
    simp_all [bind, Except.bind]

theorem readsAs_nullable {item : Reader α} {v : Value} {a : α} (reads : ReadsAs item v a)
    (given : v ≠ .null) : ReadsAs (nullable item) v (some a) where
  whole := reads.whole
  run l level b blanks rest blank delimited deep wide := by
    have front := skipBlanks_chars l level reads.whole blank rest
    obtain ⟨c, cs, text, begins⟩ := begins_chars l level reads.whole
    have notNull : c ≠ 'n' := fun isNull => given (begins.null.1 isNull)
    have read := reads.run l level b [] rest isBlank_nil delimited deep wide
    simp only [nullable, front]
    rw [text] at read ⊢
    simp_all [bind, Except.bind, pure, Except.pure]

theorem readsAs_nullable_null {item : Reader α} : ReadsAs (nullable item) .null none where
  whole := rfl
  run l level b blanks rest blank _ _ _ := by
    have front := skipBlanks_chars l level (v := .null) rfl blank rest
    simp only [nullable, front]
    simp only [null_chars_append, readWord_append, bind, Except.bind, pure, Except.pure]

theorem readsAs_variant {known : List (String × α)} {name : String} {a : α}
    (isKnown : SortedMap.lookupEntry name known = some a) :
    ReadsAs (variant known) (.string name) a where
  whole := rfl
  run l level b blanks rest blank _ _ _ := by
    have front := skipBlanks_chars l level (v := .string name) rfl blank rest
    simp only [variant, front]
    simp only [string_chars_append, readString_escaped, chosen, isKnown, bind, Except.bind,
      String.ofList_toList]

/-! ## Lists -/

theorem itemsChars_nil_append (l : Layout) (level : Nat) (rest : List Char) :
    Value.itemsChars l level false [] ++ rest = l.gap level ++ (']' :: rest) := by
  simp [Value.itemsChars]

theorem delimited_itemsChars (l : Layout) (level : Nat) (vs : List Value) (rest : List Char) :
    Delimited (Value.itemsChars l level false vs ++ rest) := by
  cases vs with
  | nil =>
    rw [itemsChars_nil_append]
    exact (delimited_cons (.inr (.inr (.inl rfl))) rest).append (l.blank_gap level)
  | cons v vs =>
    simp only [Value.itemsChars, Bool.false_eq_true, if_false, List.cons_append]
    exact delimited_cons (.inr (.inl rfl)) _

theorem skipBlanks_comma (cs : List Char) : skipBlanks (',' :: cs) = ',' :: cs :=
  skipBlanks_cons_of_not rfl cs

/-- Behind the comma of an item, and behind the bracket for the first one, the item is found. -/
theorem nextItem_chars (l : Layout) (level : Nat) (first : Bool) {blanks : List Char}
    (blank : IsBlank blanks) {v : Value} (whole : v.isRounded = false) (rest : List Char) :
    nextItem first ((if first then [] else [',']) ++ (blanks ++ (v.chars l level ++ rest))) =
      .ok (some (v.chars l level ++ rest)) := by
  have front := skipBlanks_chars l level whole blank rest
  obtain ⟨c, cs, text, begins⟩ := begins_chars l level whole
  have notComma := begins.notComma
  have notEnd := begins.notEnd
  rw [text, List.cons_append] at front ⊢
  -- What begins a value is neither the comma nor the end of the list, which are looked for first.
  cases first with
  | true =>
    simp only [if_true, List.nil_append, nextItem, front]
    split <;> simp_all
  | false =>
    simp only [Bool.false_eq_true, if_false, List.cons_append, List.nil_append, nextItem,
      skipBlanks_comma, front]
    split <;> simp_all

theorem closesList (l : Layout) (level : Nat) (first : Bool) (rest : List Char) :
    skipBlanks (Value.itemsChars l level first [] ++ rest) = ']' :: rest := by
  cases first with
  | true => simp [Value.itemsChars]; rfl
  | false =>
    rw [itemsChars_nil_append, skipBlanks_append (l.blank_gap level)]
    rfl

theorem items_cons {item : Reader α} {v : Value} {a : α} (reads : ReadsAs item v a) (l : Layout)
    (level : Nat) (b : Bounds) (deep : v.depth < b.depth) (wide : v.width < b.steps)
    (steps : Nat) (first : Bool) (vs : List Value) (rest : List Char) :
    items (item b) (steps + 1) first (Value.itemsChars l level first (v :: vs) ++ rest) =
      (items (item b) steps false (Value.itemsChars l level false vs ++ rest)).map
        fun more => (a :: more.1, more.2) := by
  have found := nextItem_chars l (level + 1) first (l.blank_gap (level + 1)) reads.whole
    (Value.itemsChars l level false vs ++ rest)
  have front := reads.run l (level + 1) b [] (Value.itemsChars l level false vs ++ rest)
    isBlank_nil (delimited_itemsChars l level vs rest) deep wide
  rw [List.nil_append] at front
  simp only [Value.itemsChars, List.append_assoc, items, found, front, bind, Except.bind]
  rfl

theorem items_itemsChars {item : Reader α} (l : Layout) (level : Nat) (b : Bounds)
    (rest : List Char) {vs : List Value} {as : List α} (reads : List.Forall₂ (ReadsAs item) vs as)
    (deep : Value.depthItems vs < b.depth) (wide : Value.widthItems vs < b.steps) :
    ∀ (steps : Nat) (first : Bool), vs.length < steps →
      ∃ tail, items (item b) steps first (Value.itemsChars l level first vs ++ rest) =
          .ok (as, tail) ∧ endList tail = .ok rest := by
  -- The induction is on the items: each takes one step, and the end of the list one more.
  induction reads with
  | nil =>
    intro steps first enough
    obtain ⟨steps, rfl⟩ := Nat.exists_eq_add_of_lt enough
    have closes := closesList l level first rest
    refine ⟨Value.itemsChars l level first [] ++ rest, ?_, ?_⟩
    · simp only [items, nextItem, closes, bind, Except.bind, pure, Except.pure]
    · simp only [endList, closes]
  | @cons v a vs as read reads inductionHypothesis =>
    intro steps first enough
    simp only [Value.depthItems, Value.widthItems] at deep wide
    obtain ⟨steps, rfl⟩ : ∃ fewer, steps = fewer + 1 := ⟨steps - 1, by omega⟩
    obtain ⟨tail, more, ends⟩ := inductionHypothesis (by omega) (by omega) steps false
      (Nat.lt_of_succ_lt_succ enough)
    refine ⟨tail, ?_, ends⟩
    rw [items_cons read l level b (by omega) (by omega), more]
    rfl

theorem enter_of_lt {b : Bounds} {k : Nat} (deep : k + 1 < b.depth) (rest : List Char) :
    enter b rest = .ok ⟨b.steps, b.depth - 1⟩ := by
  obtain ⟨d, depth⟩ : ∃ d, b.depth = d + 2 := ⟨b.depth - 2, by omega⟩
  simp only [enter, depth]
  rfl

theorem readsAs_listOf {item : Reader α} {vs : List Value} {as : List α}
    (reads : List.Forall₂ (ReadsAs item) vs as) : ReadsAs (listOf item) (.array vs) as where
  whole := rfl
  run l level b blanks rest blank _ deep wide := by
    simp only [Value.depth, Value.width] at deep wide
    have front := skipBlanks_chars l level (v := .array vs) rfl blank rest
    have inner := enter_of_lt deep ('[' :: (Value.itemsChars l level true vs ++ rest))
    obtain ⟨tail, read, ends⟩ := items_itemsChars l level ⟨b.steps, b.depth - 1⟩ rest reads
      (by simp only; omega) (by simp only; omega) b.steps true (by omega)
    simp only [listOf, front]
    simp only [Value.chars, List.cons_append, inner, read, ends, bind, Except.bind, pure,
      Except.pure]

/-! ## Objects -/

theorem membersChars_nil_append (l : Layout) (level : Nat) (rest : List Char) :
    Value.membersChars l level false [] ++ rest = l.gap level ++ ('\x7d' :: rest) := by
  simp [Value.membersChars]

theorem delimited_membersChars (l : Layout) (level : Nat) (ms : Members) (rest : List Char) :
    Delimited (Value.membersChars l level false ms ++ rest) := by
  cases ms with
  | nil =>
    rw [membersChars_nil_append]
    exact (delimited_cons (.inr (.inr (.inr rfl))) rest).append (l.blank_gap level)
  | cons m ms =>
    simp only [Value.membersChars, Bool.false_eq_true, if_false, List.cons_append]
    exact delimited_cons (.inr (.inl rfl)) _

theorem nextMember_quoted (first : Bool) {blanks : List Char} (blank : IsBlank blanks)
    (name : String) (rest : List Char) :
    nextMember first ((if first then [] else [',']) ++ (blanks ++ (quoted name ++ rest))) =
      .ok (some (escaped name.toList ++ '"' :: rest)) := by
  have front : skipBlanks (blanks ++ (quoted name ++ rest)) =
      '"' :: (escaped name.toList ++ '"' :: rest) := by
    rw [skipBlanks_append blank]
    simp [quoted, skipBlanks, isBlank]
  cases first with
  | true =>
    simp only [if_true, List.nil_append, nextMember, front]
    rfl
  | false =>
    simp only [Bool.false_eq_true, if_false, List.cons_append, List.nil_append, nextMember,
      skipBlanks_comma, front]

theorem closesObject (l : Layout) (level : Nat) (first : Bool) (rest : List Char) :
    skipBlanks (Value.membersChars l level first [] ++ rest) = '\x7d' :: rest := by
  cases first with
  | true => simp [Value.membersChars]; rfl
  | false =>
    rw [membersChars_nil_append, skipBlanks_append (l.blank_gap level)]
    rfl

theorem readColon_colon (cs : List Char) : readColon (':' :: cs) = .ok cs := rfl

theorem members_cons {item : Reader α} {v : Value} {a : α} (reads : ReadsAs item v a) (l : Layout)
    (level : Nat) (b : Bounds) (deep : v.depth < b.depth) (wide : v.width < b.steps)
    (steps : Nat) (first : Bool) (name : String) (ms : Members) (rest : List Char) :
    members (item b) (steps + 1) first
        (Value.membersChars l level first ((name, v) :: ms) ++ rest) =
      (members (item b) steps false (Value.membersChars l level false ms ++ rest)).map
        fun more => ((name, a) :: more.1, more.2) := by
  have found := nextMember_quoted first (l.blank_gap (level + 1)) name
    (':' :: (l.space ++ (v.chars l (level + 1) ++ (Value.membersChars l level false ms ++ rest))))
  have front := reads.run l (level + 1) b l.space (Value.membersChars l level false ms ++ rest)
    l.blank_space (delimited_membersChars l level ms rest) deep wide
  simp only [Value.membersChars, List.append_assoc, List.cons_append, members, found,
    readString_escaped, readColon_colon, front, String.ofList_toList, bind, Except.bind]
  rfl

theorem members_membersChars {item : Reader α} (l : Layout) (level : Nat) (b : Bounds)
    (rest : List Char) {ms : Members} {es : List (String × α)}
    (reads : List.Forall₂ (fun m e => m.1 = e.1 ∧ ReadsAs item m.2 e.2) ms es)
    (deep : Value.depthMembers ms < b.depth) (wide : Value.widthMembers ms < b.steps) :
    ∀ (steps : Nat) (first : Bool), ms.length < steps →
      ∃ tail, members (item b) steps first (Value.membersChars l level first ms ++ rest) =
          .ok (es, tail) ∧ endObject tail = .ok rest := by
  induction reads with
  | nil =>
    intro steps first enough
    obtain ⟨steps, rfl⟩ := Nat.exists_eq_add_of_lt enough
    have closes := closesObject l level first rest
    refine ⟨Value.membersChars l level first [] ++ rest, ?_, ?_⟩
    · simp only [members, nextMember, closes, bind, Except.bind, pure, Except.pure]
    · simp only [endObject, closes]
  | @cons m e ms es read reads inductionHypothesis =>
    intro steps first enough
    obtain ⟨name, v⟩ := m
    obtain ⟨_, a⟩ := e
    obtain ⟨rfl, read⟩ : name = _ ∧ ReadsAs item v a := read
    simp only [Value.depthMembers, Value.widthMembers] at deep wide
    obtain ⟨steps, rfl⟩ : ∃ fewer, steps = fewer + 1 := ⟨steps - 1, by omega⟩
    obtain ⟨tail, more, ends⟩ := inductionHypothesis (by omega) (by omega) steps false
      (Nat.lt_of_succ_lt_succ enough)
    refine ⟨tail, ?_, ends⟩
    rw [members_cons read l level b (by omega) (by omega), more]
    rfl

theorem readsAs_mapOf {item : Reader α} {ms : Members} {es : List (String × α)}
    (reads : List.Forall₂ (fun m e => m.1 = e.1 ∧ ReadsAs item m.2 e.2) ms es) :
    ReadsAs (mapOf item) (.object ms) es where
  whole := rfl
  run l level b blanks rest blank _ deep wide := by
    simp only [Value.depth, Value.width] at deep wide
    have front := skipBlanks_chars l level (v := .object ms) rfl blank rest
    have inner := enter_of_lt deep ('\x7b' :: (Value.membersChars l level true ms ++ rest))
    obtain ⟨tail, read, ends⟩ := members_membersChars l level ⟨b.steps, b.depth - 1⟩ rest reads
      (by simp only; omega) (by simp only; omega) b.steps true (by omega)
    simp only [mapOf, front]
    simp only [Value.chars, List.cons_append, inner, read, ends, bind, Except.bind, pure,
      Except.pure]

/-! ## Whole texts -/

theorem decodeChars_chars {reader : Reader α} {v : Value} {a : α} (reads : ReadsAs reader v a)
    (deep : v.depth < maxDepth) (l : Layout) : decodeChars reader (v.chars l 0) = .ok a := by
  have wide : v.width < (v.chars l 0).length + 1 :=
    Nat.lt_succ_of_le (Value.width_le_length l 0 v)
  have read := reads.run l 0 ⟨(v.chars l 0).length + 1, maxDepth⟩ [] [] isBlank_nil
    delimited_nil deep wide
  rw [List.nil_append, List.append_nil] at read
  simp only [decodeChars, read, bind, Except.bind, pure, Except.pure]
  rfl

end ModuleSurvey.Json
