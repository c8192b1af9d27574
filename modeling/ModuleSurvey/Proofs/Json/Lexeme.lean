import ModuleSurvey.Proofs.Json.Layout

/-! # Reading lexemes back

The strings and numbers that are written into a JSON text are read back from the front of it.

* `readString_escaped` — a string up to its closing quote.
* `Delimited` — what stands behind a value: only so is the end of a number known.
* `readNumber_toDigits`, `readNumber_minusZero` — the digits of a whole number of 64 bits, and a zero
  behind a sign.
-/

namespace ModuleSurvey.Json

/-! ## White space and words -/

theorem skipBlanks_append {blanks : List Char} (blank : IsBlank blanks) (cs : List Char) :
    skipBlanks (blanks ++ cs) = skipBlanks cs :=
  List.dropWhile_append_of_pos blank

theorem skipBlanks_cons_of_not {c : Char} (solid : isBlank c = false) (cs : List Char) :
    skipBlanks (c :: cs) = c :: cs :=
  List.dropWhile_cons_of_neg (by simp [solid])

theorem readWord_append (word rest : List Char) : readWord word (word ++ rest) = .ok rest := by
  induction word with
  | nil => rfl
  | cons c word inductionHypothesis => simpa [readWord] using inductionHypothesis

/-! ## Strings -/

theorem hexNumber?_control : ∀ n < 0x20,
    hexNumber? '0' '0' (hexDigit (n / 16)) (hexDigit n) = some n := by decide

theorem readString_plain {c : Char} (notQuote : c ≠ '"') (notBackslash : c ≠ '\\')
    (shown : ¬ c.toNat < 0x20) (rest : List Char) :
    readString (c :: rest) = consRead c (readString rest) := by
  rw [readString.eq_def]
  split
  case h_7 same =>
    obtain ⟨rfl, rfl⟩ := List.cons.inj same
    exact if_neg shown
  all_goals simp_all

theorem readString_escapedChar (c : Char) (rest : List Char) :
    readString (escapedChar c ++ rest) = consRead c (readString rest) := by
  unfold escapedChar
  split
  case h_8 =>
    rename_i notQuote notBackslash _ _ _ _ _
    split
    case isTrue control =>
      -- A control character is below the surrogates, so its four digits stand for it alone.
      have read := hexNumber?_control c.toNat control
      have notLow : isLowSurrogate c.toNat = false := by simp [isLowSurrogate]; omega
      have notHigh : isHighSurrogate c.toNat = false := by simp [isHighSurrogate]; omega
      simp [readString, read, notLow, notHigh]
    case isFalse shown => exact readString_plain notQuote notBackslash shown rest
  all_goals simp [readString, simpleEscape?]

theorem readString_escaped (s rest : List Char) :
    readString (escaped s ++ '"' :: rest) = .ok (s, rest) := by
  induction s with
  | nil => simp [escaped, readString]
  | cons c s inductionHypothesis =>
    have split : escaped (c :: s) ++ '"' :: rest = escapedChar c ++ (escaped s ++ '"' :: rest) := by
      simp [escaped]
    rw [split, readString_escapedChar, inductionHypothesis]
    rfl

/-! ## What stands behind a value -/

/-- What may stand behind a value: white space, a comma, or the end of a bracket. -/
def Delimited (rest : List Char) : Prop :=
  ∀ c ∈ rest.head?, isBlank c = true ∨ c = ',' ∨ c = ']' ∨ c = '\x7d'

theorem delimited_nil : Delimited [] := by
  intro c head
  cases head

theorem delimited_cons {c : Char} (ends : isBlank c = true ∨ c = ',' ∨ c = ']' ∨ c = '\x7d')
    (rest : List Char) : Delimited (c :: rest) := by
  intro d head
  obtain rfl : c = d := by simpa using head
  exact ends

theorem Delimited.append {blanks rest : List Char} (blank : IsBlank blanks)
    (delimited : Delimited rest) : Delimited (blanks ++ rest) := by
  cases blanks with
  | nil => exact delimited
  | cons c blanks => exact delimited_cons (.inl (blank c (by simp))) _

theorem Delimited.not_isDigit {rest : List Char} (delimited : Delimited rest) :
    ∀ c ∈ rest.head?, c.isDigit = false := by
  intro c head
  rcases delimited c head with blank | rfl | rfl | rfl
  · simp only [isBlank, Bool.or_eq_true, beq_iff_eq] at blank
    rcases blank with ((rfl | rfl) | rfl) | rfl <;> rfl
  all_goals rfl

/-! ## Numbers -/

theorem splitDigits_append {digits rest : List Char} (areDigits : ∀ c ∈ digits, c.isDigit = true)
    (delimited : Delimited rest) : splitDigits (digits ++ rest) = (digits, rest) := by
  have stops : rest.takeWhile Char.isDigit = [] ∧ rest.dropWhile Char.isDigit = rest := by
    cases rest with
    | nil => simp
    | cons c rest =>
      have notDigit := delimited.not_isDigit c rfl
      simp [notDigit]
  rw [splitDigits, List.takeWhile_append_of_pos areDigits, List.dropWhile_append_of_pos areDigits,
    stops.1, stops.2, List.append_nil]

theorem scanExponent_of_delimited (atEnd : Cause) {rest : List Char}
    (delimited : Delimited rest) : scanExponent atEnd rest = .ok (none, rest) := by
  cases rest with
  | nil => rfl
  | cons c rest =>
    have notMark : ¬ (c = 'e' ∨ c = 'E') := by
      rintro (rfl | rfl) <;> simpa [isBlank] using delimited _ rfl
    simp [scanExponent, notMark]

theorem scanFraction_of_delimited (atEnd : Cause) {rest : List Char}
    (delimited : Delimited rest) : scanFraction atEnd rest = .ok ([], rest) := by
  rw [scanFraction.eq_def]
  split
  case h_1 => simpa [isBlank] using delimited _ rfl
  case h_2 => rfl

theorem isDigit_of_mem_decimal {n : Nat} {c : Char} (member : c ∈ Nat.toDigits 10 n) :
    c.isDigit = true :=
  Nat.isDigit_of_mem_toDigits (by omega) (by omega) member

theorem head?_toDigits_of_pos {n : Nat} (positive : 0 < n) :
    (Nat.toDigits 10 n).head? ≠ some '0' := by
  induction n using Nat.strongRecOn with
  | ind n inductionHypothesis =>
    rcases Nat.lt_or_ge n 10 with small | large
    · rw [Nat.toDigits_of_lt_base small]
      simp
      omega
    · have shorter := inductionHypothesis (n / 10) (by omega) (by omega)
      rw [Nat.toDigits_of_base_le (by omega) large]
      rwa [List.head?_append, Option.or_of_isSome]
      exact List.isSome_head?.2 Nat.toDigits_ne_nil

theorem scanWhole_toDigits (atEnd : Cause) (n : Nat) {rest : List Char}
    (delimited : Delimited rest) :
    scanWhole atEnd (Nat.toDigits 10 n ++ rest) = .ok (Nat.toDigits 10 n, rest) := by
  rcases Nat.eq_zero_or_pos n with rfl | positive
  · cases rest with
    | nil => rfl
    | cons c rest =>
      have notDigit := delimited.not_isDigit c rfl
      simp [Nat.toDigits_zero, scanWhole, notDigit]
  · -- The digits do not begin with a zero, which would be read alone.
    have noZero := head?_toDigits_of_pos positive
    have split := splitDigits_append (fun c => isDigit_of_mem_decimal (n := n)) delimited
    obtain ⟨d, ds, digits⟩ := List.exists_cons_of_ne_nil (Nat.toDigits_ne_nil (n := n) (b := 10))
    rw [digits] at noZero split ⊢
    have notZero : d ≠ '0' := by simpa using noZero
    rw [scanWhole.eq_def]
    split <;> simp_all

theorem scanNumber_toDigits (atEnd : Cause) (negative : Bool) (n : Nat) {rest : List Char}
    (delimited : Delimited rest) :
    scanNumber atEnd negative (Nat.toDigits 10 n ++ rest) =
      .ok (⟨negative, Nat.toDigits 10 n, [], none⟩, rest) := by
  have whole := scanWhole_toDigits atEnd n delimited
  have fraction := scanFraction_of_delimited atEnd delimited
  have exponent := scanExponent_of_delimited atEnd delimited
  simp only [scanNumber, whole, fraction, exponent, bind, Except.bind, pure, Except.pure]

theorem le_ofDigitChars (digits : List Char) (n : Nat) : n ≤ Nat.ofDigitChars 10 digits n := by
  have split : Nat.ofDigitChars 10 digits n =
      10 ^ digits.length * n + Nat.ofDigitChars 10 digits 0 :=
    Nat.ofDigitChars_eq_ofDigitChars_zero
  have scaled : n ≤ 10 ^ digits.length * n := Nat.le_mul_of_pos_left n (Nat.pow_pos (by omega))
  omega

/-- Digits are absorbed to the last one if their number has 64 bits: no number on the way is
greater than the one they make. -/
theorem absorb_of_lt {digits : List Char} {n : Nat}
    (small : Nat.ofDigitChars 10 digits n < Nat.pow 2 64) :
    absorb n digits = (Nat.ofDigitChars 10 digits n, []) := by
  induction digits generalizing n with
  | nil => rfl
  | cons d ds inductionHypothesis =>
    rw [Nat.ofDigitChars_cons] at small ⊢
    -- The digits to come only make the number greater.
    have onTheWay := le_ofDigitChars ds (10 * n + (d.toNat - '0'.toNat))
    have below : ¬ Nat.pow 2 64 ≤ 10 * n + (d.toNat - '0'.toNat) :=
      Nat.not_le.2 (Nat.lt_of_le_of_lt onTheWay small)
    simp only [absorb, if_neg below]
    exact inductionHypothesis small

theorem absorb_toDigits {n : Nat} (small : n < Nat.pow 2 64) :
    absorb 0 (Nat.toDigits 10 n) = (n, []) := by
  have made : Nat.ofDigitChars 10 (Nat.toDigits 10 n) 0 = n := Nat.ofDigitChars_ten_toDigits
  rw [absorb_of_lt (made.symm ▸ small), made]

theorem readNumber_toDigits {n : Nat} (small : n < Nat.pow 2 64) {rest : List Char}
    (delimited : Delimited rest) :
    readNumber false (Nat.toDigits 10 n ++ rest) = .ok (.int n, rest) := by
  have scanned := scanNumber_toDigits .endInValue false n delimited
  have value : NumberParts.value? ⟨false, Nat.toDigits 10 n, [], none⟩ = some (.int n) := by
    simp [NumberParts.value?, absorb_toDigits small]
  simp only [readNumber, scanned, value, bind, Except.bind, pure, Except.pure]

theorem readNumber_toDigits_negative {n : Nat} (positive : 0 < n) (small : n ≤ Nat.pow 2 63)
    {rest : List Char} (delimited : Delimited rest) :
    readNumber true (Nat.toDigits 10 n ++ rest) = .ok (.int (-n), rest) := by
  have scanned := scanNumber_toDigits .endInValue true n delimited
  have below : n < Nat.pow 2 64 := Nat.lt_of_le_of_lt small (by decide)
  have value : NumberParts.value? ⟨true, Nat.toDigits 10 n, [], none⟩ = some (.int (-n)) := by
    have bounded : n ≠ 0 ∧ n ≤ Nat.pow 2 63 := ⟨by omega, small⟩
    simp only [NumberParts.value?, absorb_toDigits below]
    simp [bounded]
  simp only [readNumber, scanned, value, bind, Except.bind, pure, Except.pure]

/-- The one double that a whole number is read as: a zero behind a sign. -/
def Number.minusZero : Number := .double (.zero true)

theorem readNumber_minusZero {rest : List Char} (delimited : Delimited rest) :
    readNumber true ('0' :: '.' :: '0' :: rest) = .ok (.minusZero, rest) := by
  have digits : ∀ c ∈ ['0'], c.isDigit = true := List.forall_mem_singleton.2 rfl
  have fraction : splitDigits ('0' :: rest) = (['0'], rest) := splitDigits_append digits delimited
  have exponent := scanExponent_of_delimited .endInValue delimited
  have value : NumberParts.value? ⟨true, ['0'], ['0'], none⟩ = some .minusZero := by decide +kernel
  simp [readNumber, scanNumber, scanWhole, scanFraction, fraction, exponent, value, bind, Except.bind,
    pure, Except.pure]

end ModuleSurvey.Json
