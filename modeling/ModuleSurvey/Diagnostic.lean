import ModuleSurvey.SourcePos

/-! # Diagnostics

Problems found in a module are not failures: they are recorded in the order in which they are
found, and whoever asked for the module decides what they mean.

* `Severity`, `Diagnostic` — one problem, and its line of text.
* `Diagnostics` — the problems of a module, in order and with repetitions.
* `Diagnostics.failure?` — what the problems amount to when there is an error among them.
-/

namespace ModuleSurvey

inductive Severity where
  | error
  | warning
  deriving DecidableEq, Repr, Inhabited

def Severity.title : Severity → String
  | error => "Error"
  | warning => "Warning"

/-- One problem: a summary, a longer explanation that may be empty, and its place if there is
one. -/
structure Diagnostic where
  severity : Severity
  summary : String
  detail : String
  pos : Option SourcePos
  deriving DecidableEq, Repr

namespace Diagnostic

def error (summary detail : String) : Diagnostic := ⟨.error, summary, detail, none⟩

def errorAt (pos : SourcePos) (summary detail : String) : Diagnostic :=
  ⟨.error, summary, detail, some pos⟩

def isError (d : Diagnostic) : Bool := d.severity = .error

def isWarning (d : Diagnostic) : Bool := d.severity = .warning

/-- The problem on one line: severity, summary, detail and place, as far as they are there. -/
def text (d : Diagnostic) : String :=
  d.severity.title ++ ": " ++ d.summary
    ++ (if d.detail = "" then "" else "; " ++ d.detail)
    ++ (match d.pos with
      | none => ""
      | some pos => " (" ++ pos.text ++ ")")

end Diagnostic

/-- The problems of a module in the order in which they were found. -/
abbrev Diagnostics := List Diagnostic

/-- What a collection of problems amounts to: the number of errors, and the text of the first. -/
structure Failure where
  count : Nat
  first : String
  deriving DecidableEq, Repr

def Failure.message (f : Failure) : String :=
  toString f.count ++ " error(s) while loading module; first: " ++ f.first

namespace Diagnostics

def errors (ds : Diagnostics) : Diagnostics := ds.filter Diagnostic.isError

def warnings (ds : Diagnostics) : Diagnostics := ds.filter Diagnostic.isWarning

def hasErrors (ds : Diagnostics) : Bool := ds.any Diagnostic.isError

def hasWarnings (ds : Diagnostics) : Bool := ds.any Diagnostic.isWarning

def failure? (ds : Diagnostics) : Option Failure :=
  match ds.errors with
  -- Warnings alone are no failure.
  | [] => none
  | first :: more => some ⟨1 + more.length, first.text⟩

def text (ds : Diagnostics) : String := "\n".intercalate (ds.map Diagnostic.text)

end Diagnostics

end ModuleSurvey
