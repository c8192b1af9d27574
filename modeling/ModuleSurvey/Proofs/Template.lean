import Mathlib.Data.List.Infix
import ModuleSurvey.Template

/-! # Interpolations

Whether a text is taken for one interpolation is decided by its two ends, and by whether a further
interpolation begins in between. A bare expression and the interpolation of it stand for the same.
But the ends do not tell which braces belong together: where the first brace is closed before the
end, the text is no single interpolation and is taken for one all the same.

* `Balanced`, `ClosesAtEnd` — braces that belong together.
* `IsInterpolation`, `HasEnds` — texts that are one interpolation, and those that are taken for one.
* `unwrapTemplate_interpolate`, `unwrapTemplate_of_bare` — an expression with and without braces.
* `unwrapTemplate_by_ends` — which texts are changed, and which of these are one interpolation.
-/

namespace ModuleSurvey

/-! ## Braces -/

/-- In every beginning of the text at least as many braces are opened as closed, and in all of it
equally many. -/
structure Balanced (cs : List Char) : Prop where
  opened : ∀ start, start <+: cs → start.count '\x7d' ≤ start.count '\x7b'
  closed : cs.count '\x7d' = cs.count '\x7b'

/-- Behind a brace that is opened, the text goes on to the brace that closes it and ends there:
with its last character, and not before, more braces are closed than opened. -/
structure ClosesAtEnd (body : List Char) : Prop where
  notBefore : ∀ start, start <+: body → start ≠ body → start.count '\x7d' ≤ start.count '\x7b'
  atEnd : body.count '\x7b' < body.count '\x7d'

theorem closesAtEnd_concat_iff {inner : List Char} :
    ClosesAtEnd (inner ++ ['\x7d']) ↔ Balanced inner := by
  have closing : (inner ++ ['\x7d']).count '\x7d' = inner.count '\x7d' + 1 := by simp
  have opening : (inner ++ ['\x7d']).count '\x7b' = inner.count '\x7b' := by simp
  constructor
  · intro closes
    have opened : ∀ start, start <+: inner → start.count '\x7d' ≤ start.count '\x7b' := by
      intro start begins
      refine closes.notBefore start (begins.trans (List.prefix_append _ _)) ?_
      rintro rfl
      exact absurd begins.length_le (by simp)
    have atEnd := closes.atEnd
    have whole := opened inner List.prefix_rfl
    exact ⟨opened, by omega⟩
  · intro balanced
    refine ⟨fun start begins proper => ?_, by have closed := balanced.closed; omega⟩
    exact balanced.opened start ((List.prefix_concat_iff.1 begins).resolve_left proper)

/-- Blanks at its ends apart, the text is one interpolation: the brace with which it begins is closed
by its last character. -/
def IsInterpolation (s : String) : Prop :=
  ∃ body, Text.trim s.toList = templateOpening ++ body ∧ ClosesAtEnd body

/-- Blanks at its ends apart, the text begins as an interpolation and ends with a brace, and none
begins in what stands in between. -/
structure HasEnds (s : String) (inner : List Char) : Prop where
  ends : Text.trim s.toList = templateOpening ++ (inner ++ ['\x7d'])
  single : ¬ templateOpening <:+: inner

theorem HasEnds.isInterpolation_iff {s : String} {inner : List Char} (shape : HasEnds s inner) :
    IsInterpolation s ↔ Balanced inner := by
  rw [← closesAtEnd_concat_iff]
  constructor
  · rintro ⟨body, sameEnds, closes⟩
    rw [shape.ends] at sameEnds
    exact List.append_cancel_left sameEnds ▸ closes
  · exact fun closes => ⟨_, shape.ends, closes⟩

/-! ## What is taken for an interpolation -/

theorem interpolation?_eq_some_iff {s : String} {inner : List Char} :
    interpolation? s.toList = some inner ↔ HasEnds s inner := by
  simp only [interpolation?, Option.bind_eq_bind, Option.bind_eq_some_iff,
    Text.dropStart?_eq_some_iff, Text.dropEnd?_eq_some_iff]
  constructor
  · rintro ⟨_, begins, between, rfl, found⟩
    split at found
    · cases found
    · cases found
      exact ⟨begins, fun further => ‹¬ _› (Text.contains_iff.2 further)⟩
  · rintro ⟨ends, single⟩
    refine ⟨_, ends, inner, rfl, if_neg fun further => single (Text.contains_iff.1 further)⟩

variable {s : String} {inner : List Char}

theorem HasEnds.unwrapTemplate_eq (shape : HasEnds s inner) :
    unwrapTemplate s = String.ofList (Text.trim inner) := by
  rw [unwrapTemplate, interpolation?_eq_some_iff.2 shape]

theorem unwrapTemplate_eq_self (shapeless : ∀ inner, ¬ HasEnds s inner) : unwrapTemplate s = s := by
  rw [unwrapTemplate]
  cases found : interpolation? s.toList with
  | none => rfl
  | some inner => exact absurd (interpolation?_eq_some_iff.1 found) (shapeless inner)

theorem HasEnds.unwrapTemplate_ne (shape : HasEnds s inner) : unwrapTemplate s ≠ s := by
  intro same
  -- What is left is shorter, for the ends are gone.
  have lengthInner : (Text.trim inner).length ≤ inner.length := (Text.trim_infix inner).length_le
  have lengthWhole : (Text.trim s.toList).length ≤ s.toList.length :=
    (Text.trim_infix s.toList).length_le
  rw [shape.ends] at lengthWhole
  rw [shape.unwrapTemplate_eq] at same
  rw [← same, String.toList_ofList] at lengthWhole
  simp only [List.length_append, templateOpening, List.length_cons, List.length_nil] at lengthWhole
  omega

theorem unwrapTemplate_ne_iff : unwrapTemplate s ≠ s ↔ ∃ inner, HasEnds s inner := by
  constructor
  · intro changed
    by_contra shapeless
    exact changed (unwrapTemplate_eq_self (not_exists.1 shapeless))
  · rintro ⟨inner, shape⟩
    exact shape.unwrapTemplate_ne

/-! ## Expressions with and without braces -/

/-- An expression without blanks at its ends in which no interpolation begins. -/
structure IsBare (s : String) : Prop where
  trimmed : Text.trim s.toList = s.toList
  plain : ¬ templateOpening <:+: s.toList

def interpolate (s : String) : String :=
  String.ofList (templateOpening ++ (s.toList ++ ['\x7d']))

theorem unwrapTemplate_of_bare (bare : IsBare s) : unwrapTemplate s = s := by
  refine unwrapTemplate_eq_self fun inner shape => bare.plain ?_
  rw [← bare.trimmed, shape.ends]
  exact (List.prefix_append _ _).isInfix

theorem unwrapTemplate_interpolate (bare : IsBare s) : unwrapTemplate (interpolate s) = s := by
  have shape : HasEnds (interpolate s) s.toList := by
    refine ⟨?_, bare.plain⟩
    rw [interpolate, String.toList_ofList]
    exact Text.trim_of_solid ('\x7b' :: s.toList) (by decide) (by decide)
  rw [shape.unwrapTemplate_eq, bare.trimmed, String.ofList_toList]

/-- In what is left of a text no interpolation stands any more, so it is left as it is. -/
theorem unwrapTemplate_unwrapTemplate (s : String) :
    unwrapTemplate (unwrapTemplate s) = unwrapTemplate s := by
  by_cases changed : unwrapTemplate s = s
  · rw [changed, changed]
  · obtain ⟨inner, shape⟩ := unwrapTemplate_ne_iff.1 changed
    refine unwrapTemplate_eq_self fun rest again => shape.single ?_
    have left := again.ends
    rw [shape.unwrapTemplate_eq, String.toList_ofList] at left
    have begins : templateOpening <:+: Text.trim (Text.trim inner) :=
      left ▸ (List.prefix_append _ _).isInfix
    exact begins.trans ((Text.trim_infix _).trans (Text.trim_infix inner))

/-! ## The law -/

/-- A text is changed exactly if it begins as an interpolation and ends with a brace, blanks at its
ends apart, and no further interpolation begins in between: what stands between the ends is left,
without blanks at its own ends. And that text is one interpolation only if the braces in between
belong together. -/
theorem unwrapTemplate_by_ends (s : String) :
    (unwrapTemplate s ≠ s ↔ ∃ inner, HasEnds s inner) ∧
    ∀ inner, HasEnds s inner →
      unwrapTemplate s = String.ofList (Text.trim inner) ∧ (IsInterpolation s ↔ Balanced inner) :=
  ⟨unwrapTemplate_ne_iff, fun _ shape => ⟨shape.unwrapTemplate_eq, shape.isInterpolation_iff⟩⟩

def earlyClosed : String := "$\x7ba\x7d and \x7bb\x7d"

theorem hasEnds_earlyClosed : HasEnds earlyClosed "a\x7d and \x7bb".toList :=
  ⟨by decide, by decide⟩

theorem earlyClosed_unwrapped :
    unwrapTemplate earlyClosed ≠ earlyClosed ∧
    unwrapTemplate earlyClosed = "a\x7d and \x7bb" ∧ ¬ IsInterpolation earlyClosed := by
  obtain ⟨changed, taken⟩ := unwrapTemplate_by_ends earlyClosed
  obtain ⟨left, interpolation⟩ := taken _ hasEnds_earlyClosed
  refine ⟨changed.2 ⟨_, hasEnds_earlyClosed⟩, left.trans (by decide), fun isOne => ?_⟩
  -- One brace is closed behind the first letter, and none has been opened.
  have closedFirst := (interpolation.1 isOne).opened "a\x7d".toList (by decide)
  exact absurd closedFirst (by decide)

/-- That only a single interpolation is changed is false: in the text above the brace with which it
begins is closed before its end. -/
theorem changed_text_not_one_interpolation :
    ¬ ∀ s : String, '"' ∉ s.toList → unwrapTemplate s ≠ s → IsInterpolation s := by
  intro single
  obtain ⟨body, begins, closes⟩ := single earlyClosed (by decide) (by decide)
  have isBody : body = "a\x7d and \x7bb\x7d".toList :=
    List.append_cancel_left (begins.symm.trans (by decide))
  subst isBody
  have closedFirst := closes.notBefore "a\x7d".toList (by decide) (by decide)
  exact absurd closedFirst (by decide)

end ModuleSurvey
