import ModuleSurvey.Text.Blank
import ModuleSurvey.Text.Lines

/-! # Templates

An expression of a native file arrives as the text of a template with one interpolation, such as
`${aws.west}`. Where a reference is expected, the expression inside is meant.

* `unwrapTemplate` — the expression of a text that is one interpolation, or the text itself.
-/

namespace ModuleSurvey

def templateOpening : List Char := ['$', '\x7b']

/-- The text between the braces of an interpolation that takes up all of the text, blanks at its
ends apart. -/
def interpolation? (cs : List Char) : Option (List Char) := do
  let rest ← Text.dropStart? templateOpening (Text.trim cs)
  let inner ← Text.dropEnd? ['\x7d'] rest
  if Text.contains templateOpening inner then none else some inner

/-- The expression of a text that is a single interpolation, without blanks at its ends. Any
other text is left as it is. -/
def unwrapTemplate (s : String) : String :=
  match interpolation? s.toList with
  | some inner => String.ofList (Text.trim inner)
  | none => s

end ModuleSurvey
