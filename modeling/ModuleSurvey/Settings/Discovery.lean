import ModuleSurvey.Disk
import ModuleSurvey.Settings.Yaml

/-! # Finding and loading settings

* `Environment` — the variables of the environment.
* `Settings.discover` — the first settings file that is there.
* `Settings.overridden` — the settings with the values that the environment tells.
* `Settings.load` — the settings of a given file, of a discovered one, or the defaults.
-/

namespace ModuleSurvey

abbrev Environment := SortedMap String

def configPathVariable : String := "TFINSPECT_CONFIG_PATH"

def formatVariable : String := "TFINSPECT_FORMAT"

def failLevelVariable : String := "TFINSPECT_FAIL_ON"

namespace Settings

/-! ## Discovery -/

def localPath : String := "./tfinspect.yaml"

/-- The settings file of the user, if the home directory is known. Only `HOME` tells it here. Where
that is missing or empty, the home directory of the account in the password database of the system
counts, too, which is left out: the user is taken to have none then. -/
def homePath? (env : Environment) : Option String :=
  match env.get? "HOME" with
  | none | some "" => none
  | some home => some (Disk.join (Disk.join home ".tfinspect") "config.yaml")

/-- Where settings may be found, the most important place first. -/
def candidates (env : Environment) : List String :=
  (env.get? configPathVariable).toList ++ [localPath] ++ (homePath? env).toList

def discover (d : Disk) (env : Environment) : Option String := (candidates env).find? d.holds

/-! ## Overrides -/

def override? {α : Type} (env : Environment) (name : String)
    (parse : String → Except SettingsFault α) : Option α :=
  -- A value that cannot be read is ignored.
  (env.get? name).bind fun word => (parse word).toOption

def overridden (env : Environment) (s : Settings) : Settings :=
  { s with
    output.format := (override? env formatVariable OutputFormat.parse).getD s.output.format
    check.failOn := (override? env failLevelVariable FailLevel.parse).getD s.check.failOn }

/-! ## Loading -/

inductive FileFault where
  | disk (f : DiskFault)
  | content (f : Unreadable)
  deriving DecidableEq, Repr

def FileFault.message : FileFault → String
  | disk f => f.message
  | content f => f.message

inductive LoadFault where
  | explicit (path : String) (f : FileFault)
  | discovered (f : FileFault)
  deriving DecidableEq, Repr

def LoadFault.message : LoadFault → String
  | explicit path f => "Failed to load config at " ++ Text.quotedText path ++ ": " ++ f.message
  | discovered f => f.message

def ofFile (d : Disk) (path : String) : Except FileFault Settings :=
  match d.read path with
  | .error f => .error (.disk f)
  | .ok text => (ofYaml text).mapError .content

/-- The settings of the source that counts, before the environment overrides them. -/
def source (d : Disk) (env : Environment) (path : Option String) : Except LoadFault Settings :=
  match path with
  | some path => (ofFile d path).mapError (.explicit path)
  | none =>
    match discover d env with
    | some found => (ofFile d found).mapError .discovered
    | none => .ok default

/-- The settings of a given file, of the first one that is there, or the defaults; in any case with
the values that the environment tells. -/
def load (d : Disk) (env : Environment) (path : Option String) : Except LoadFault Settings :=
  (source d env path).map (overridden env)

end Settings

end ModuleSurvey
