import ModuleSurvey.Json.Value
import ModuleSurvey.Text.Blank

/-! # Settings

* `OutputFormat`, `FailLevel` — how a module is shown, and which problems make a check fail.
* `Settings` — all settings, and their defaults.
* `Settings.validate` — the first entry of the ignore list that is no file name.
* `SettingsFault` — what can be wrong with a setting, in words.
-/

namespace ModuleSurvey

open Json (Value)

/-! ## Choices -/

inductive OutputFormat where
  | summary
  | json
  deriving DecidableEq, Repr, Inhabited

/-- The least severity that makes a check fail. -/
inductive FailLevel where
  | error
  | warning
  | never
  deriving DecidableEq, Repr, Inhabited

inductive SettingsFault where
  | invalidFormat (s : String)
  | invalidFailLevel (s : String)
  | emptyIgnoreEntry
  | ignoreEntryIsPath (entry : String)
  deriving DecidableEq, Repr

def SettingsFault.message : SettingsFault → String
  | invalidFormat s => "Invalid output format: '" ++ s ++ "'. Expected 'summary' or 'json'"
  | invalidFailLevel s =>
    "Invalid fail_on level: '" ++ s ++ "'. Expected 'error', 'warning' or 'never'"
  | emptyIgnoreEntry => "loader.ignore entries cannot be empty"
  | ignoreEntryIsPath entry =>
    "loader.ignore entry '" ++ entry ++ "' must be a file name, not a path"

namespace OutputFormat

def word : OutputFormat → String
  | summary => "summary"
  | json => "json"

def title : OutputFormat → String
  | summary => "Summary"
  | json => "Json"

def choices : List (String × OutputFormat) := [("summary", summary), ("json", json)]

def parse (s : String) : Except SettingsFault OutputFormat :=
  -- No letter beyond ASCII has one of the words' letters as its lower case.
  match SortedMap.lookupEntry s.toLower choices with
  | some f => .ok f
  | none => .error (.invalidFormat s)

end OutputFormat

namespace FailLevel

def word : FailLevel → String
  | error => "error"
  | warning => "warning"
  | never => "never"

def title : FailLevel → String
  | error => "Error"
  | warning => "Warning"
  | never => "Never"

def choices : List (String × FailLevel) :=
  [("error", error), ("warning", warning), ("never", never)]

def parse (s : String) : Except SettingsFault FailLevel :=
  match SortedMap.lookupEntry s.toLower choices with
  | some l => .ok l
  | none => .error (.invalidFailLevel s)

end FailLevel

/-! ## All settings -/

structure OutputSettings where
  format : OutputFormat := .summary
  pretty : Bool := true
  deriving DecidableEq, Repr

structure CheckSettings where
  failOn : FailLevel := .error
  deriving DecidableEq, Repr

structure LoaderSettings where
  includeOverrides : Bool := true
  /-- Names of files to pass over. -/
  ignore : List String := []
  deriving DecidableEq, Repr

structure Settings where
  output : OutputSettings := {}
  check : CheckSettings := {}
  loader : LoaderSettings := {}
  deriving DecidableEq, Repr

namespace Settings

def default : Settings := {}

instance : Inhabited Settings := ⟨default⟩

/-- The fault of an entry of the ignore list that is no file name. -/
def entryFault? (entry : String) : Option SettingsFault :=
  if Text.trim entry.toList = [] then some .emptyIgnoreEntry
  else if entry.toList.contains '/' || entry.toList.contains '\\' then
    some (.ignoreEntryIsPath entry)
  else none

def validate (s : Settings) : Except SettingsFault Unit :=
  match s.loader.ignore.findSome? entryFault? with
  | some fault => .error fault
  | none => .ok ()

def toValue (s : Settings) : Value :=
  .object [
    ("output", .object [("format", .string s.output.format.word),
      ("pretty", .bool s.output.pretty)]),
    ("check", .object [("fail_on", .string s.check.failOn.word)]),
    ("loader", .object ([("include_overrides", .bool s.loader.includeOverrides)]
      -- An empty ignore list is left out.
      ++ if s.loader.ignore.isEmpty then []
        else [("ignore", .array (s.loader.ignore.map .string))]))]

end Settings

end ModuleSurvey
