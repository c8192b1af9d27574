import ModuleSurvey.Diagnostic
import ModuleSurvey.Report.Style
import ModuleSurvey.Settings.Basic

/-! # Problems and verdict

* `diagnosticLine` — a problem as a styled line.
* `CheckReport`, `CheckReport.evaluate` — the number of errors and warnings, and whether they make
  the check fail.
* `checkLines` — all problems and the verdict.
-/

namespace ModuleSurvey.Report

def severitySpan : Severity → Span
  | .error => .styled .boldRed "Error:"
  | .warning => .styled .boldYellow "Warning:"

def diagnosticLine (d : Diagnostic) : Line :=
  [severitySpan d.severity, .plain (" " ++ d.summary)]
    ++ (if d.detail = "" then [] else [.plain ("; " ++ d.detail)])
    ++ (match d.pos with
      | none => []
      | some pos => [.plain " ", .styled .dimmed ("(" ++ pos.text ++ ")")])

structure CheckReport where
  errors : Nat
  warnings : Nat
  failed : Bool
  deriving DecidableEq, Repr

/-- Judges problems by the least severity that counts. -/
def CheckReport.evaluate (ds : Diagnostics) (failOn : FailLevel) : CheckReport :=
  let errors := ds.errors.length
  let warnings := ds.warnings.length
  { errors := errors
    warnings := warnings
    failed :=
      match failOn with
      | .error => 0 < errors
      | .warning => 0 < errors || 0 < warnings
      | .never => false }

def verdictLine (ds : Diagnostics) (r : CheckReport) : Line :=
  if ds.isEmpty then [.styled .green "✓ No problems found"]
  else
    let totals := toString r.errors ++ " error(s), " ++ toString r.warnings ++ " warning(s)"
    if r.failed then [.styled .red ("✗ " ++ totals)] else [.styled .yellow ("✓ " ++ totals)]

def checkLines (ds : Diagnostics) (r : CheckReport) : List Line :=
  ds.map diagnosticLine ++ [verdictLine ds r]

end ModuleSurvey.Report
