import ModuleSurvey.Text.Identifier
import ModuleSurvey.Text.Lines

/-! # Log filters

A log filter is a list of directives between commas. A directive is a level alone, or names what
it is about: a target, a span in brackets or both, and perhaps the level for it.

* `isLogFilter` — whether a text is a list of directives.
-/

namespace ModuleSurvey.CommandLine

def levelWords : List String := ["trace", "debug", "info", "warn", "error", "off"]

/-- Whether a text is a level: a word in any mixture of cases, or a digit up to five. -/
def isLogLevel (cs : List Char) : Bool :=
  levelWords.contains (String.ofList cs).toLower ||
    (match cs with
    | [c] => '0' ≤ c && c ≤ '5'
    | _ => false)

def isTargetChar (c : Char) : Bool := Text.continuesWord c || c == ':' || c == '-'

def skipSubject? (cs : List Char) : Option (List Char) :=
  match cs with
  | '[' :: rest => (Text.cutAtFirst? ']' rest).map (·.2)
  | c :: rest => if isTargetChar c then some (rest.dropWhile isTargetChar) else none
  | [] => none

/-- Whether nothing follows, or an equals sign with or without a level. -/
def isLevelPart : List Char → Bool
  | [] => true
  | '=' :: level => level.isEmpty || isLogLevel level
  | _ => false

def isDirective (cs : List Char) : Bool :=
  isLogLevel cs ||
    (skipSubject? cs).any fun rest =>
      isLevelPart rest || (skipSubject? rest).any isLevelPart

/-- Whether a text is a list of directives; empty ones are passed over. -/
def isLogFilter (s : String) : Bool :=
  (Text.splitOn ',' s.toList).all fun cs => cs.isEmpty || isDirective cs

end ModuleSurvey.CommandLine
