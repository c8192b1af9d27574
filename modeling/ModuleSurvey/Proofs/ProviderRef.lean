import ModuleSurvey.Provider
import Mathlib.Data.List.Basic

/-! # References and their texts

A reference is written as a name, or as a name and an alias with a dot between them, and a text is
cut at its first dot. The name of a reference that was read has no dot, and such references are the
ones that read back from their texts. A text is written back as it was unless it is a name with a
dot and nothing behind it, which is written without the dot.

* `ProviderRef.parse_of_cut`, `ProviderRef.parse_of_noDot` — how a text is taken apart.
* `ProviderRef.dot_notMem_name_parse` — the name of what was read.
* `reference_texts` — which references and which texts come back.
-/

namespace ModuleSurvey

namespace ProviderRef

variable {s : String} {before behind : List Char}

theorem parse_of_cut (cut : s.toList = before ++ '.' :: behind) (first : '.' ∉ before) :
    parse s = ⟨String.ofList before, String.ofList behind⟩ := by
  rw [parse, Text.cutAtFirst?_eq_some_iff.2 ⟨cut, first⟩]

theorem parse_of_noDot (noDot : '.' ∉ s.toList) : parse s = plain s := by
  rw [parse, Text.cutAtFirst?_eq_none_iff.2 noDot]

theorem noDot_or_cut (s : String) :
    '.' ∉ s.toList ∨ ∃ before behind, s.toList = before ++ '.' :: behind ∧ '.' ∉ before := by
  cases outcome : Text.cutAtFirst? '.' s.toList with
  | none => exact .inl (Text.cutAtFirst?_eq_none_iff.1 outcome)
  | some pieces => exact .inr ⟨pieces.1, pieces.2, Text.cutAtFirst?_eq_some_iff.1 outcome⟩

theorem dot_notMem_name_parse (s : String) : '.' ∉ (parse s).name.toList := by
  obtain noDot | ⟨before, behind, cut, first⟩ := noDot_or_cut s
  · rwa [parse_of_noDot noDot]
  · simpa [parse_of_cut cut first] using first

theorem toList_text_of_alias {r : ProviderRef} (named : r.aliasName ≠ "") :
    r.text.toList = r.name.toList ++ '.' :: r.aliasName.toList := by
  simp [text, named]

/-- A reference whose name has no dot reads back from its text, whatever its alias is. -/
theorem parse_text {r : ProviderRef} (noDot : '.' ∉ r.name.toList) : parse r.text = r := by
  by_cases named : r.aliasName = ""
  · have bare : r = plain r.name := by rw [plain, ← named]
    rw [bare]
    exact parse_of_noDot noDot
  · rw [parse_of_cut (toList_text_of_alias named) noDot, String.ofList_toList, String.ofList_toList]

/-- A text that is cut comes back unless nothing stands behind the dot. -/
theorem text_parse_of_cut (cut : s.toList = before ++ '.' :: behind) (first : '.' ∉ before) :
    (parse s).text = s ↔ behind ≠ [] := by
  rw [parse_of_cut cut first, ← String.toList_inj, cut]
  cases behind with
  | nil => simp [text]
  | cons c behind => simp [text, ← String.toList_inj]

theorem lastDot_of_cut {cs : List Char} (cut : cs = before ++ '.' :: behind) (first : '.' ∉ before) :
    cs.count '.' = 1 ∧ cs.getLast? = some '.' ↔ behind = [] := by
  rw [cut, List.count_append, List.count_eq_zero_of_not_mem first, List.count_cons_self, Nat.zero_add]
  cases behind with
  | nil => simp
  | cons c behind =>
    -- A dot at the end would be a second one.
    simp only [reduceCtorEq, iff_false]
    rintro ⟨once, last⟩
    have noMore : '.' ∉ c :: behind := List.count_eq_zero.1 (by omega)
    rw [List.getLast?_append_cons, List.getLast?_cons_cons] at last
    exact noMore (List.mem_of_getLast? last)

/-- A reference reads back from its text iff its name has no dot; the alias may be empty or have
dots. A text is written back as it was unless its only dot is its last character. -/
theorem reference_texts :
    (∀ r : ProviderRef, parse r.text = r ↔ '.' ∉ r.name.toList) ∧
    (∀ s : String, (parse s).text = s ↔
      ¬ (s.toList.count '.' = 1 ∧ s.toList.getLast? = some '.')) := by
  refine ⟨fun r => ⟨fun same => ?_, parse_text⟩, fun s => ?_⟩
  · rw [← same]
    exact dot_notMem_name_parse r.text
  · obtain noDot | ⟨before, behind, cut, first⟩ := noDot_or_cut s
    · -- Without a dot nothing is lost, and none is the last character.
      have noneLast : s.toList.count '.' ≠ 1 := by
        simp [List.count_eq_zero_of_not_mem noDot]
      simp [parse_of_noDot noDot, plain, text, noneLast]
    · rw [text_parse_of_cut cut first, lastDot_of_cut cut first]

/-- A dot at the end is lost, but not where there is another one before it. -/
example : (parse "aws.").text = "aws" ∧ (parse "aws..").text = "aws.." := by decide

end ProviderRef

end ModuleSurvey
