import ModuleSurvey.Proofs.Json.Lexeme

/-! # The white space of a text

Outside its string literals a text of JSON is made of words, which no layout touches, and of what
the layout puts between them. So a text tells the white space of its layout from that of its
strings, and what is left without the former does not depend on the layout.

* `Place`, `withoutBlanks` — a text without the white space outside its string literals.
* `IsSolid`, `solid_of_mem_number` — the characters of words, among them those of numbers.
* `Spaced`, `spaced_chars` — how a text is made of words, literals and the white space of a layout.
* `Spaced.withoutBlanks_eq`, `Spaced.forall_mem` — what follows for the whole text.
-/

namespace ModuleSurvey.Json

/-! ## Removing white space -/

inductive Place where
  | outside
  | literal
  | escape
  deriving DecidableEq, Repr

def Place.next : Place → Char → Place
  | outside, c => if c = '"' then literal else outside
  | literal, c => if c = '"' then outside else if c = '\\' then escape else literal
  | escape, _ => literal

/-- The rest of a text from a place on, without the white space outside its string literals. -/
def withoutBlanks : Place → List Char → List Char
  | _, [] => []
  | p, c :: cs =>
    if p = .outside ∧ isBlank c = true then withoutBlanks p cs
    else c :: withoutBlanks (p.next c) cs

theorem withoutBlanks_blank_append {blanks : List Char} (blank : IsBlank blanks) (rest : List Char) :
    withoutBlanks .outside (blanks ++ rest) = withoutBlanks .outside rest := by
  induction blanks with
  | nil => rfl
  | cons c blanks inductionHypothesis =>
    obtain ⟨isBlank, areBlank⟩ := List.forall_mem_cons.1 blank
    rw [List.cons_append, withoutBlanks, if_pos ⟨rfl, isBlank⟩, inductionHypothesis areBlank]

/-! ## Words -/

/-- A character that shows and begins no string literal. -/
def IsSolid (c : Char) : Prop := 0x20 < c.toNat ∧ c ≠ '"'

instance (c : Char) : Decidable (IsSolid c) := inferInstanceAs (Decidable (_ ∧ _))

theorem IsSolid.forall_mem_of_all {word : List Char} (all : word.all (IsSolid ·) = true) :
    ∀ c ∈ word, IsSolid c := by
  simpa using all

theorem IsSolid.not_isBlank {c : Char} (solid : IsSolid c) : isBlank c = false := by
  have shown := solid.1
  simp only [isBlank, Bool.or_eq_false_iff, beq_eq_false_iff_ne]
  refine ⟨⟨⟨?_, ?_⟩, ?_⟩, ?_⟩ <;> rintro rfl <;> exact absurd shown (by decide)

theorem withoutBlanks_solid_append {word : List Char} (solid : ∀ c ∈ word, IsSolid c)
    (rest : List Char) :
    withoutBlanks .outside (word ++ rest) = word ++ withoutBlanks .outside rest := by
  induction word with
  | nil => rfl
  | cons c word inductionHypothesis =>
    obtain ⟨isSolid, areSolid⟩ := List.forall_mem_cons.1 solid
    have kept : ¬ (Place.outside = .outside ∧ isBlank c = true) := by simp [isSolid.not_isBlank]
    have stays : Place.outside.next c = .outside := if_neg isSolid.2
    rw [List.cons_append, withoutBlanks, if_neg kept, stays, inductionHypothesis areSolid,
      List.cons_append]

theorem solid_of_isDigit {c : Char} (digit : c.isDigit = true) : IsSolid c := by
  refine ⟨?_, ?_⟩
  · simp only [Char.isDigit, Bool.and_eq_true, decide_eq_true_eq] at digit
    exact Nat.lt_of_lt_of_le (by decide) (UInt32.le_iff_toNat_le.1 digit.1)
  · rintro rfl
    cases digit

theorem solid_of_mem_replicate {n : Nat} {c : Char} (member : c ∈ List.replicate n '0') :
    IsSolid c := by
  rw [List.eq_of_mem_replicate member]
  exact solid_of_isDigit rfl

theorem solid_of_mem_intText {n : Int} : ∀ c ∈ intText n, IsSolid c := by
  intro c member
  unfold intText at member
  split at member
  · rcases List.mem_cons.1 member with rfl | member
    · exact by decide
    · exact solid_of_isDigit (isDigit_of_mem_decimal member)
  · exact solid_of_isDigit (isDigit_of_mem_decimal member)

open Decimal in
theorem isDigit_of_mem_search {i : Double.Interval} {point : Int} {count more : Nat} :
    ∀ c ∈ (i.search point count more).digits, c.isDigit = true := by
  induction more generalizing count with
  | zero =>
    intro c member
    rw [List.mem_singleton.1 member]
    rfl
  | succ more inductionHypothesis =>
    intro c member
    rw [Double.Interval.search] at member
    split at member
    rename_i unit scale isGrid
    split at member
    · -- A grid point is written in decimal, and zeros at its end are taken off.
      have shown := List.mem_reverse.1 member
      have written := List.mem_reverse.1 ((List.dropWhile_sublist _).mem shown)
      exact isDigit_of_mem_decimal written
    · exact inductionHypothesis c member

theorem isDigit_of_mem_shortest {d : Decimal.Double} :
    ∀ c ∈ d.shortest.digits, c.isDigit = true := by
  intro c member
  rw [Decimal.Double.shortest] at member
  split at member
  · rw [List.mem_singleton.1 member]
    rfl
  · exact isDigit_of_mem_search c member

theorem solid_of_mem_positional {digits : List Char} (areDigits : ∀ c ∈ digits, c.isDigit = true)
    {point : Int} : ∀ c ∈ positional digits point, IsSolid c := by
  have digit : ∀ c ∈ digits, IsSolid c := fun c member => solid_of_isDigit (areDigits c member)
  have dot : IsSolid '.' := by decide
  have zero : IsSolid '0' := solid_of_isDigit rfl
  intro c member
  simp only [positional] at member
  split at member
  · simp only [List.cons_append, List.mem_cons, List.mem_append] at member
    rcases member with rfl | rfl | member | member
    · exact zero
    · exact dot
    · exact solid_of_mem_replicate member
    · exact digit c member
  · split at member
    · simp only [List.mem_append, List.mem_cons, List.not_mem_nil, or_false] at member
      rcases member with (member | member) | rfl | rfl
      · exact digit c member
      · exact solid_of_mem_replicate member
      · exact dot
      · exact zero
    · rcases List.mem_append.1 member with member | member
      · exact digit c (List.mem_of_mem_take member)
      · rcases List.mem_cons.1 member with rfl | member
        · exact dot
        · exact digit c (List.mem_of_mem_drop member)

theorem solid_of_mem_scientific {digits : List Char} (areDigits : ∀ c ∈ digits, c.isDigit = true)
    {exponent : Int} {plus : Bool} : ∀ c ∈ scientific digits exponent plus, IsSolid c := by
  have digit : ∀ c ∈ digits, IsSolid c := fun c member => solid_of_isDigit (areDigits c member)
  have dot : IsSolid '.' := by decide
  intro c member
  unfold scientific at member
  rcases List.mem_append.1 member with member | exponent
  · rcases List.mem_append.1 member with mantissa | mark
    · split at mantissa
      · rcases List.mem_cons.1 mantissa with first | more
        · exact digit c (by simp [first])
        · rcases List.mem_cons.1 more with rfl | more
          · exact dot
          · exact digit c (List.mem_cons_of_mem _ more)
      · exact digit c mantissa
    · rcases List.mem_cons.1 mark with rfl | sign
      · exact by decide
      · split at sign
        · rw [List.mem_singleton.1 sign]
          exact by decide
        · cases sign
  · exact solid_of_mem_intText c exponent

theorem solid_of_mem_number {n : Number} : ∀ c ∈ n.chars, IsSolid c := by
  intro c member
  cases n with
  | int n => exact solid_of_mem_intText c member
  | double d =>
    have magnitude : ∀ c ∈ (if -5 ≤ d.shortest.point - 1 ∧ d.shortest.point - 1 ≤ 15 then
        positional d.shortest.digits d.shortest.point
        else scientific d.shortest.digits (d.shortest.point - 1) true), IsSolid c := by
      intro c member
      split at member
      · exact solid_of_mem_positional isDigit_of_mem_shortest c member
      · exact solid_of_mem_scientific isDigit_of_mem_shortest c member
    simp only [Number.chars, doubleText] at member
    split at member
    · rcases List.mem_cons.1 member with rfl | member
      · exact by decide
      · exact magnitude c member
    · exact magnitude c member

/-! ## String literals -/

theorem withoutBlanks_literal_cons {c : Char} (notQuote : c ≠ '"') (notBackslash : c ≠ '\\')
    (rest : List Char) :
    withoutBlanks .literal (c :: rest) = c :: withoutBlanks .literal rest := by
  have stays : Place.literal.next c = .literal := by simp [Place.next, notQuote, notBackslash]
  rw [withoutBlanks, if_neg (by simp), stays]

/-- Nothing is taken out of a string literal: an escape leads back into it. -/
theorem withoutBlanks_escapedChar_append (c : Char) (rest : List Char) :
    withoutBlanks .literal (escapedChar c ++ rest) =
      escapedChar c ++ withoutBlanks .literal rest := by
  unfold escapedChar
  split
  case h_8 =>
    rename_i notQuote notBackslash _ _ _ _ _
    split
    case isTrue control =>
      have plain : ∀ n, hexDigit n ≠ '"' ∧ hexDigit n ≠ '\\' := fun n => by
        have digits : ∀ k < 16, Nat.digitChar k ≠ '"' ∧ Nat.digitChar k ≠ '\\' := by decide
        exact digits (n % 16) (Nat.mod_lt n (by decide))
      simp [withoutBlanks, Place.next, plain]
    case isFalse shown => exact withoutBlanks_literal_cons notQuote notBackslash rest
  all_goals simp [withoutBlanks, Place.next]

theorem withoutBlanks_quoted_append (s : String) (rest : List Char) :
    withoutBlanks .outside (quoted s ++ rest) = quoted s ++ withoutBlanks .outside rest := by
  have opens (cs : List Char) :
      withoutBlanks .outside ('"' :: cs) = '"' :: withoutBlanks .literal cs := by
    simp [withoutBlanks, Place.next, isBlank]
  have closes : withoutBlanks .literal ('"' :: rest) = '"' :: withoutBlanks .outside rest := by
    simp [withoutBlanks, Place.next]
  have inside (cs : List Char) (more : List Char) :
      withoutBlanks .literal (escaped cs ++ more) = escaped cs ++ withoutBlanks .literal more := by
    induction cs with
    | nil => rfl
    | cons c cs inductionHypothesis =>
      have split : escaped (c :: cs) = escapedChar c ++ escaped cs := rfl
      rw [split, List.append_assoc, withoutBlanks_escapedChar_append, inductionHypothesis,
        List.append_assoc]
  rw [quoted, List.append_assoc, List.cons_append, opens, inside, List.singleton_append, closes]
  simp only [List.cons_append, List.append_assoc, List.nil_append]

theorem shown_of_mem_quoted {s : String} : ∀ c ∈ quoted s, 0x20 ≤ c.toNat := by
  have hex : ∀ n, 0x20 ≤ (hexDigit n).toNat := fun n => by
    have digits : ∀ k < 16, 0x20 ≤ (Nat.digitChar k).toNat := by decide
    exact digits (n % 16) (Nat.mod_lt n (by decide))
  have escape : ∀ d c, c ∈ escapedChar d → 0x20 ≤ c.toNat := by
    intro d c member
    unfold escapedChar at member
    split at member
    case h_8 =>
      split at member
      case isTrue control =>
        simp only [List.mem_cons, List.not_mem_nil, or_false] at member
        rcases member with rfl | rfl | rfl | rfl | rfl | rfl
        all_goals first | exact hex _ | decide
      case isFalse shown =>
        rw [List.mem_singleton.1 member]
        omega
    all_goals
      simp only [List.mem_cons, List.not_mem_nil, or_false] at member
      rcases member with rfl | rfl <;> decide
  intro c member
  rw [quoted, List.mem_append, List.mem_cons, List.mem_singleton] at member
  rcases member with (rfl | member) | rfl
  · decide
  · obtain ⟨d, -, written⟩ := List.mem_flatMap.1 member
    exact escape d c written
  · decide

/-! ## Texts that are laid out -/

/-- A text and what it is without its white space: words and string literals, and between them what
the layout puts there. -/
inductive Spaced (l : Layout) : List Char → List Char → Prop
  | nil : Spaced l [] []
  | gap (level : Nat) {text tight : List Char} :
    Spaced l text tight → Spaced l (l.gap level ++ text) tight
  | space {text tight : List Char} : Spaced l text tight → Spaced l (l.space ++ text) tight
  | word {word text tight : List Char} : (∀ c ∈ word, IsSolid c) →
    Spaced l text tight → Spaced l (word ++ text) (word ++ tight)
  | literal (s : String) {text tight : List Char} :
    Spaced l text tight → Spaced l (quoted s ++ text) (quoted s ++ tight)

namespace Spaced

variable {l : Layout} {text tight others tightOthers : List Char}

theorem append (spaced : Spaced l text tight) (more : Spaced l others tightOthers) :
    Spaced l (text ++ others) (tight ++ tightOthers) := by
  induction spaced with
  | nil => exact more
  | gap level _ inductionHypothesis =>
    rw [List.append_assoc]
    exact .gap level inductionHypothesis
  | space _ inductionHypothesis =>
    rw [List.append_assoc]
    exact .space inductionHypothesis
  | word solid _ inductionHypothesis =>
    rw [List.append_assoc, List.append_assoc]
    exact .word solid inductionHypothesis
  | literal s _ inductionHypothesis =>
    rw [List.append_assoc, List.append_assoc]
    exact .literal s inductionHypothesis

theorem ofWord {word : List Char} (solid : ∀ c ∈ word, IsSolid c) : Spaced l word word := by
  simpa using Spaced.word (l := l) solid .nil

theorem cons {c : Char} (solid : IsSolid c) (spaced : Spaced l text tight) :
    Spaced l (c :: text) (c :: tight) :=
  .word (List.forall_mem_singleton.2 solid) spaced

theorem withoutBlanks_eq (spaced : Spaced l text tight) : withoutBlanks .outside text = tight := by
  induction spaced with
  | nil => rfl
  | gap level _ inductionHypothesis =>
    rw [withoutBlanks_blank_append (l.blank_gap level), inductionHypothesis]
  | space _ inductionHypothesis =>
    rw [withoutBlanks_blank_append l.blank_space, inductionHypothesis]
  | word solid _ inductionHypothesis =>
    rw [withoutBlanks_solid_append solid, inductionHypothesis]
  | literal s _ inductionHypothesis =>
    rw [withoutBlanks_quoted_append, inductionHypothesis]

theorem forall_mem {P : Char → Prop} (spaced : Spaced l text tight)
    (shown : ∀ c, 0x20 ≤ c.toNat → P c) (gap : ∀ level, ∀ c ∈ l.gap level, P c)
    (space : ∀ c ∈ l.space, P c) : ∀ c ∈ text, P c := by
  induction spaced with
  | nil => exact fun _ member => nomatch member
  | gap level _ inductionHypothesis =>
    exact List.forall_mem_append.2 ⟨gap level, inductionHypothesis⟩
  | space _ inductionHypothesis => exact List.forall_mem_append.2 ⟨space, inductionHypothesis⟩
  | word solid _ inductionHypothesis =>
    refine List.forall_mem_append.2 ⟨fun c member => ?_, inductionHypothesis⟩
    exact shown c (Nat.le_of_lt (solid c member).1)
  | literal s _ inductionHypothesis =>
    refine List.forall_mem_append.2 ⟨fun c member => ?_, inductionHypothesis⟩
    exact shown c (shown_of_mem_quoted c member)

end Spaced

theorem solid_of_mem_comma (first : Bool) : ∀ c ∈ (if first then [] else [',']), IsSolid c := by
  cases first with
  | true => exact fun _ member => nomatch member
  | false => exact List.forall_mem_singleton.2 (by decide)

mutual

/-- Without white space the text of a value is the same in any layout. -/
theorem spaced_chars (l : Layout) (level : Nat) :
    ∀ v : Value, Spaced l (v.chars l level) (v.chars .compact level)
  | .null => by
    have solid : ∀ c ∈ ['n', 'u', 'l', 'l'], IsSolid c := IsSolid.forall_mem_of_all (by decide)
    exact .ofWord solid
  | .bool true => by
    have solid : ∀ c ∈ ['t', 'r', 'u', 'e'], IsSolid c := IsSolid.forall_mem_of_all (by decide)
    exact .ofWord solid
  | .bool false => by
    have solid : ∀ c ∈ ['f', 'a', 'l', 's', 'e'], IsSolid c := IsSolid.forall_mem_of_all (by decide)
    exact .ofWord solid
  | .number n => .ofWord solid_of_mem_number
  | .string s => by
    simpa only [Value.chars, List.append_nil] using Spaced.literal (l := l) s .nil
  | .array vs => .cons (by decide) (spaced_itemsChars l level true vs)
  | .object ms => .cons (by decide) (spaced_membersChars l level true ms)

theorem spaced_itemsChars (l : Layout) (level : Nat) (first : Bool) :
    ∀ vs : List Value,
      Spaced l (Value.itemsChars l level first vs) (Value.itemsChars .compact level first vs)
  | [] => by
    have close : Spaced l [']'] [']'] := .ofWord (IsSolid.forall_mem_of_all (by decide))
    cases first with
    | true => exact close
    | false => exact .gap level close
  | v :: vs => by
    have item := (spaced_chars l (level + 1) v).append (spaced_itemsChars l level false vs)
    have spaced := Spaced.word (solid_of_mem_comma first) (.gap (level + 1) item)
    simpa only [Value.itemsChars, Layout.gap_compact, List.append_nil, List.append_assoc] using spaced

theorem spaced_membersChars (l : Layout) (level : Nat) (first : Bool) :
    ∀ ms : List (String × Value),
      Spaced l (Value.membersChars l level first ms) (Value.membersChars .compact level first ms)
  | [] => by
    have close : Spaced l ['\x7d'] ['\x7d'] := .ofWord (IsSolid.forall_mem_of_all (by decide))
    cases first with
    | true => exact close
    | false => exact .gap level close
  | (k, v) :: ms => by
    have value := (spaced_chars l (level + 1) v).append (spaced_membersChars l level false ms)
    have colon : Spaced l (':' :: (l.space ++ _)) (':' :: _) :=
      .cons (by decide) (.space value)
    have spaced := Spaced.word (solid_of_mem_comma first) (.gap (level + 1) (.literal k colon))
    simpa only [Value.membersChars, Layout.gap_compact, Layout.space_compact, List.append_nil,
      List.append_assoc, List.cons_append, List.nil_append] using spaced

end

end ModuleSurvey.Json
