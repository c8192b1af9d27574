/-! # Source positions

* `SourcePos` — a line of a file; `SourcePos.text` writes it as `file:line`.
-/

namespace ModuleSurvey

/-- A line of a file, counted from one. -/
structure SourcePos where
  filename : String
  line : Nat
  deriving DecidableEq, Repr, Inhabited

namespace SourcePos

def text (p : SourcePos) : String := p.filename ++ ":" ++ toString p.line

end SourcePos

end ModuleSurvey
