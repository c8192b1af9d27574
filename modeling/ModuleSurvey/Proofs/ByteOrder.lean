import Mathlib.Tactic.SplitIfs

/-! # The order of texts

Texts are compared character by character, whereas the names of files and the keys of maps are
sorted by the bytes that stand for them in UTF-8. The two orders are the same. Of two characters the
lesser one has the lesser bytes, and since neither encoding is a beginning of the other one, what
comes behind them does not matter.

* `utf8Bytes` — the bytes of a text.
* `bytesBelow_utf8EncodeChar` — of two characters.
* `le_iff_utf8Bytes_le` — of two texts.
-/

namespace ModuleSurvey

def utf8Bytes (s : String) : List UInt8 := s.toList.flatMap String.utf8EncodeChar

/-- Bytes that differ at some place, where the first ones are less. -/
def BytesBelow : List UInt8 → List UInt8 → Prop
  | x :: xs, y :: ys => x < y ∨ x = y ∧ BytesBelow xs ys
  | _, _ => False

theorem BytesBelow.append_lt_append {xs ys : List UInt8} (below : BytesBelow xs ys)
    (more others : List UInt8) : xs ++ more < ys ++ others := by
  induction xs generalizing ys with
  | nil => cases below
  | cons x xs inductionHypothesis =>
    cases ys with
    | nil => cases below
    | cons y ys =>
      rw [List.cons_append, List.cons_append, List.cons_lt_cons_iff]
      exact below.imp id fun ⟨same, rest⟩ => ⟨same, inductionHypothesis rest⟩

theorem bytesBelow_utf8EncodeChar {c d : Char} (less : c < d) :
    BytesBelow (String.utf8EncodeChar c) (String.utf8EncodeChar d) := by
  have codes : c.val.toNat < d.val.toNat := UInt32.lt_iff_toNat_lt.1 (Char.lt_def.1 less)
  have bound : d.val.toNat < 0x110000 := by
    rcases d.valid with low | ⟨-, high⟩ <;> omega
  unfold String.utf8EncodeChar
  generalize c.val.toNat = v at codes
  generalize d.val.toNat = w at codes bound
  -- The digits of the codes to the base 64, of which the first ones that differ decide.
  have digits : ∀ n : Nat, n / 64 / 64 = n / 4096 ∧ n / 4096 / 64 = n / 262144 := fun n => by
    constructor <;> rw [Nat.div_div_eq_div_mul]
  have ordered : ∀ k, v / k ≤ w / k := fun k => Nat.div_le_div_right (Nat.le_of_lt codes)
  have firstByte : ∀ n < 0x110000, (n / 262144 % 8 + 240) % 2 ^ 8 = n / 262144 + 240 := by omega
  have laterByte : ∀ n : Nat, (n % 64 + 128) % 2 ^ 8 = n % 64 + 128 := by omega
  have facts := And.intro (And.intro (digits v) (digits w))
    (And.intro (ordered 64) (And.intro (ordered 4096) (ordered 262144)))
  -- One case for each pair of lengths; a longer encoding begins with a greater byte.
  dsimp only
  split_ifs <;> simp only [BytesBelow, UInt8.lt_iff_toNat_lt, ← UInt8.toNat_inj,
    UInt8.toNat_ofNat', firstByte v (Nat.lt_trans codes bound), firstByte w bound, laterByte, and_false,
    or_false] <;> omega

theorem flatMap_utf8EncodeChar_lt {cs ds : List Char} (less : cs < ds) :
    cs.flatMap String.utf8EncodeChar < ds.flatMap String.utf8EncodeChar := by
  induction cs generalizing ds with
  | nil =>
    cases ds with
    | nil => cases less
    | cons d ds =>
      obtain ⟨first, rest, encoded⟩ := List.exists_cons_of_ne_nil (@String.utf8EncodeChar_ne_nil d)
      rw [List.flatMap_cons, encoded]
      exact List.nil_lt_cons _ _
  | cons c cs inductionHypothesis =>
    cases ds with
    | nil => cases less
    | cons d ds =>
      rw [List.flatMap_cons, List.flatMap_cons]
      rcases List.cons_lt_cons_iff.1 less with lessHere | ⟨rfl, lessBehind⟩
      · exact (bytesBelow_utf8EncodeChar lessHere).append_lt_append _ _
      · exact List.append_left_lt (inductionHypothesis lessBehind)

theorem lt_iff_utf8Bytes_lt {s t : String} : s < t ↔ utf8Bytes s < utf8Bytes t := by
  have bytesLess : ∀ {s t : String}, s < t → utf8Bytes s < utf8Bytes t := fun less =>
    flatMap_utf8EncodeChar_lt (String.lt_iff.1 less)
  refine ⟨bytesLess, fun less => String.not_le.1 fun reverse => ?_⟩
  by_cases same : s ≤ t
  · rw [String.le_antisymm same reverse] at less
    exact List.lt_irrefl _ less
  · exact List.lt_asymm less (bytesLess (String.not_le.1 same))

theorem le_iff_utf8Bytes_le {s t : String} : s ≤ t ↔ utf8Bytes s ≤ utf8Bytes t := by
  rw [← String.not_lt, ← List.not_lt, lt_iff_utf8Bytes_lt]

end ModuleSurvey
