import ModuleSurvey.Proofs.Json.ReadBack
import ModuleSurvey.Proofs.SortedMap

/-! # Canonical values

A reader of any value sorts the members of an object and rounds what is no whole number of 64 bits.
The values on which it does neither are read back as themselves.

* `Value.Sorted`, `Value.numbers`, `Number.isKept` — what is needed of a value and of its numbers.
* `Value.Sorted.readsAs` — such a value is read back.
* `Value.isCanonical`, `readsAs_value` — the same where minus zero, a double, does not occur.
-/

namespace ModuleSurvey.Json

namespace Value

mutual

/-- Whether the members of every object stand in the order of their names, and every number is a
whole one that is kept exactly. -/
def isCanonical : Value → Bool
  | number (.int n) => isExact n
  | number (.double _) => false
  | array vs => areCanonical vs
  | object ms => areCanonicalMembers ms
  | _ => true

def areCanonical : List Value → Bool
  | [] => true
  | v :: vs => v.isCanonical && areCanonical vs

def areCanonicalMembers : List (String × Value) → Bool
  | [] => true
  | (k, v) :: ms => ms.all (k < ·.1) && v.isCanonical && areCanonicalMembers ms

end

theorem areCanonical_iff {vs : List Value} :
    areCanonical vs = true ↔ ∀ v ∈ vs, v.isCanonical = true := by
  induction vs with
  | nil => simp [areCanonical]
  | cons v vs inductionHypothesis => simp [areCanonical, inductionHypothesis]

theorem areCanonicalMembers_iff {ms : Members} :
    areCanonicalMembers ms = true ↔
      (ms.Pairwise fun a b => a.1 < b.1) ∧ ∀ e ∈ ms, e.2.isCanonical = true := by
  induction ms with
  | nil => simp [areCanonicalMembers]
  | cons e ms inductionHypothesis =>
    simp only [areCanonicalMembers, Bool.and_eq_true, List.all_eq_true, decide_eq_true_eq,
      inductionHypothesis, List.pairwise_cons, List.forall_mem_cons]
    exact and_and_and_comm

inductive Sorted : Value → Prop
  | null : Sorted null
  | bool (b : Bool) : Sorted (bool b)
  | number (n : Number) : Sorted (number n)
  | string (s : String) : Sorted (string s)
  | array {vs : List Value} (items : ∀ v ∈ vs, Sorted v) : Sorted (array vs)
  | object {ms : Members} (ordered : ms.Pairwise fun a b => a.1 < b.1)
      (members : ∀ e ∈ ms, Sorted e.2) : Sorted (object ms)

mutual

def numbers : Value → List Number
  | number n => [n]
  | array vs => numbersOfItems vs
  | object ms => numbersOfMembers ms
  | null | bool _ | string _ => []

def numbersOfItems : List Value → List Number
  | [] => []
  | v :: vs => v.numbers ++ numbersOfItems vs

def numbersOfMembers : List (String × Value) → List Number
  | [] => []
  | (_, v) :: ms => v.numbers ++ numbersOfMembers ms

end

theorem mem_numbers_array {n : Number} {vs : List Value} :
    n ∈ (array vs).numbers ↔ ∃ v ∈ vs, n ∈ v.numbers := by
  rw [numbers]
  induction vs with
  | nil => simp [numbersOfItems]
  | cons v vs inductionHypothesis => simp [numbersOfItems, inductionHypothesis]

theorem mem_numbers_object {n : Number} {ms : Members} :
    n ∈ (object ms).numbers ↔ ∃ e ∈ ms, n ∈ e.2.numbers := by
  rw [numbers]
  induction ms with
  | nil => simp [numbersOfMembers]
  | cons e ms inductionHypothesis => simp [numbersOfMembers, inductionHypothesis]

end Value

/-- Whether a number is read back as itself: a whole number of 64 bits, or minus zero. -/
def Number.isKept : Number → Bool
  | .int n => isExact n
  | .double d => .double d = minusZero

theorem Value.sorted_of_isCanonical (v : Value) (canonical : v.isCanonical = true) :
    v.Sorted ∧ ∀ n ∈ v.numbers, n.isKept = true := by
  induction v using itemInduction with
  | null => exact ⟨.null, by simp [numbers]⟩
  | bool b => exact ⟨.bool b, by simp [numbers]⟩
  | number n =>
    refine ⟨.number n, ?_⟩
    cases n with
    | int n => simpa [numbers, Number.isKept, isCanonical] using canonical
    | double d => simp [isCanonical] at canonical
  | string s => exact ⟨.string s, by simp [numbers]⟩
  | array vs inductionHypothesis =>
    have items := areCanonical_iff.1 (by simpa [isCanonical] using canonical)
    refine ⟨.array fun v member => (inductionHypothesis v member (items v member)).1, ?_⟩
    intro n member
    obtain ⟨v, isItem, isNumber⟩ := mem_numbers_array.1 member
    exact (inductionHypothesis v isItem (items v isItem)).2 n isNumber
  | object ms inductionHypothesis =>
    obtain ⟨ordered, members⟩ := areCanonicalMembers_iff.1 (by simpa [isCanonical] using canonical)
    refine ⟨.object ordered fun e member => (inductionHypothesis e member (members e member)).1, ?_⟩
    intro n member
    obtain ⟨e, isMember, isNumber⟩ := mem_numbers_object.1 member
    exact (inductionHypothesis e isMember (members e isMember)).2 n isNumber

/-! ## Scalars -/

theorem readsAs_value_null : ReadsAs value .null .null where
  whole := rfl
  run l level b blanks rest blank _ _ _ := by
    have front := skipBlanks_chars l level (v := .null) rfl blank rest
    rw [value, valueAt, front]
    simp only [null_chars_append, readWord_append, bind, Except.bind, pure, Except.pure]

theorem readsAs_value_bool (x : Bool) : ReadsAs value (.bool x) (.bool x) where
  whole := rfl
  run l level b blanks rest blank _ _ _ := by
    have front := skipBlanks_chars l level (v := .bool x) rfl blank rest
    rw [value, valueAt, front]
    cases x with
    | true => simp only [true_chars_append, readWord_append, bind, Except.bind, pure, Except.pure]
    | false => simp only [false_chars_append, readWord_append, bind, Except.bind, pure, Except.pure]

theorem readsAs_value_string (s : String) : ReadsAs value (.string s) (.string s) where
  whole := rfl
  run l level b blanks rest blank _ _ _ := by
    have front := skipBlanks_chars l level (v := .string s) rfl blank rest
    rw [value, valueAt, front]
    simp only [string_chars_append, readString_escaped, bind, Except.bind, pure, Except.pure,
      String.ofList_toList]

theorem valueAt_of_isDigit {object : Members → Value} {steps depth : Nat} {c : Char}
    {cs rest : List Char} (front : skipBlanks cs = c :: rest) (digit : c.isDigit = true) :
    valueAt object steps depth cs =
      (do let (n, cs) ← readNumber false (c :: rest); return (.number n, cs)) := by
  rw [valueAt, front]
  split <;> simp_all

theorem readsAs_value_natural {n : Nat} (small : n < Nat.pow 2 64) :
    ReadsAs value (.number (.int n)) (.number (.int n)) where
  whole := rfl
  run l level b blanks rest blank delimited _ _ := by
    have front := skipBlanks_chars l level (v := .number (.int n)) rfl blank rest
    have read := readNumber_toDigits small delimited
    obtain ⟨c, cs, digits⟩ := List.exists_cons_of_ne_nil (Nat.toDigits_ne_nil (n := n) (b := 10))
    have digit : c.isDigit = true := isDigit_of_mem_decimal (n := n) (by simp [digits])
    rw [digits, List.cons_append] at read
    rw [natural_chars, digits, List.cons_append] at front
    rw [natural_chars, value, digits, List.cons_append, valueAt_of_isDigit front digit]
    simp only [read, bind, Except.bind, pure, Except.pure]

theorem readsAs_value_negative {n : Nat} (positive : 0 < n) (small : n ≤ Nat.pow 2 63) :
    ReadsAs value (.number (.int (-n))) (.number (.int (-n))) where
  whole := rfl
  run l level b blanks rest blank delimited _ _ := by
    have front := skipBlanks_chars l level (v := .number (.int (-n))) rfl blank rest
    have text : (Value.number (.int (-n))).chars l level = '-' :: Nat.toDigits 10 n := by
      have notZero : n ≠ 0 := by omega
      simp [Value.chars, Number.chars, intText, notZero]
    rw [value, valueAt, front]
    simp only [text, List.cons_append, readNumber_toDigits_negative positive small delimited, bind,
      Except.bind, pure, Except.pure]

theorem readsAs_value_int {n : Int} (exact : isExact n = true) :
    ReadsAs value (.number (.int n)) (.number (.int n)) := by
  simp only [isExact, Bool.and_eq_true, decide_eq_true_eq] at exact
  obtain ⟨above, below⟩ := exact
  obtain ⟨k, rfl | rfl⟩ := n.eq_nat_or_neg
  · exact readsAs_value_natural (Int.ofNat_lt.1 below)
  · rcases Nat.eq_zero_or_pos k with rfl | positive
    · exact readsAs_value_natural (by decide)
    · exact readsAs_value_negative positive (Int.ofNat_le.1 (Int.neg_le_neg_iff.1 above))

theorem readsAs_value_minusZero : ReadsAs value (.number .minusZero) (.number .minusZero) where
  whole := rfl
  run l level b blanks rest blank delimited _ _ := by
    have front := skipBlanks_chars l level (v := .number .minusZero) rfl blank rest
    have text : (Value.number .minusZero).chars l level = ['-', '0', '.', '0'] := rfl
    rw [value, valueAt, front]
    simp only [text, List.cons_append, List.nil_append, readNumber_minusZero delimited, bind,
      Except.bind, pure, Except.pure]

theorem readsAs_value_number {n : Number} (kept : n.isKept = true) :
    ReadsAs value (.number n) (.number n) := by
  cases n with
  | int n => exact readsAs_value_int kept
  | double d =>
    have isMinusZero : Number.double d = .minusZero := of_decide_eq_true kept
    rw [isMinusZero]
    exact readsAs_value_minusZero

/-! ## Brackets -/

theorem readsAs_value_array {vs : List Value} (reads : List.Forall₂ (ReadsAs value) vs vs) :
    ReadsAs value (.array vs) (.array vs) where
  whole := rfl
  run l level b blanks rest blank _ deep wide := by
    simp only [Value.depth, Value.width] at deep wide
    have front := skipBlanks_chars l level (v := .array vs) rfl blank rest
    obtain ⟨d, depth⟩ : ∃ d, b.depth = d + 2 := ⟨b.depth - 2, by omega⟩
    obtain ⟨tail, read, ends⟩ := items_itemsChars l level ⟨b.steps, d + 1⟩ rest reads
      (by simp only; omega) (by simp only; omega) b.steps true (by omega)
    rw [value, valueAt, front]
    unfold value at read
    simp only [Value.chars, List.cons_append, depth, read, ends, bind, Except.bind, pure,
      Except.pure]

theorem readsAs_value_object {ms : Members} (sorted : ms.Pairwise fun a b => a.1 < b.1)
    (reads : List.Forall₂ (fun m e => m.1 = e.1 ∧ ReadsAs value m.2 e.2) ms ms) :
    ReadsAs value (.object ms) (.object ms) where
  whole := rfl
  run l level b blanks rest blank _ deep wide := by
    simp only [Value.depth, Value.width] at deep wide
    have front := skipBlanks_chars l level (v := .object ms) rfl blank rest
    -- The members are put in order when the object is made, and they are in order.
    have kept : Value.ofMembers ms = .object ms :=
      congrArg Value.object (SortedMap.entries_ofList sorted)
    obtain ⟨d, depth⟩ : ∃ d, b.depth = d + 2 := ⟨b.depth - 2, by omega⟩
    obtain ⟨tail, read, ends⟩ := members_membersChars l level ⟨b.steps, d + 1⟩ rest reads
      (by simp only; omega) (by simp only; omega) b.steps true (by omega)
    rw [value, valueAt, front]
    unfold value at read
    simp only [Value.chars, List.cons_append, depth, read, ends, kept, bind, Except.bind, pure,
      Except.pure]

/-! ## All values -/

theorem Value.Sorted.readsAs {v : Value} (sorted : v.Sorted)
    (kept : ∀ n ∈ v.numbers, n.isKept = true) : ReadsAs value v v := by
  induction sorted with
  | null => exact readsAs_value_null
  | bool b => exact readsAs_value_bool b
  | number n => exact readsAs_value_number (kept n (by simp [numbers]))
  | string s => exact readsAs_value_string s
  | array items inductionHypothesis =>
    refine readsAs_value_array (List.forall₂_same.2 fun v isItem => ?_)
    exact inductionHypothesis v isItem fun n isNumber =>
      kept n (mem_numbers_array.2 ⟨v, isItem, isNumber⟩)
  | object ordered members inductionHypothesis =>
    refine readsAs_value_object ordered (List.forall₂_same.2 fun e isMember => ⟨rfl, ?_⟩)
    exact inductionHypothesis e isMember fun n isNumber =>
      kept n (mem_numbers_object.2 ⟨e, isMember, isNumber⟩)

theorem readsAs_value {v : Value} (canonical : v.isCanonical = true) : ReadsAs value v v := by
  obtain ⟨sorted, kept⟩ := v.sorted_of_isCanonical canonical
  exact sorted.readsAs kept

end ModuleSurvey.Json
