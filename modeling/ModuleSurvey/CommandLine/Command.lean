import ModuleSurvey.CommandLine.Arguments

/-! # Commands

* `Command` — what the tool is asked to do.
* `Invocation` — a command with the options that all commands share.
* `Invocation.parse` — the invocation of a command line.
-/

namespace ModuleSurvey.CommandLine

inductive ConfigCommand where
  | view (paths : Bool)
  | validate (file : Option String)
  | generate (output : String) (examples force : Bool)
  deriving DecidableEq, Repr

inductive Command where
  | inspect (dir : String) (format : Option OutputFormat) (compact : Bool)
  | check (dir : String) (failOn : Option FailLevel)
  | config (c : ConfigCommand)
  deriving DecidableEq, Repr

structure Invocation where
  configPath : Option String
  logLevel : String
  command : Option Command
  deriving DecidableEq, Repr

/-! ## Values -/

namespace Given

def value? (g : Given) (name : String) : Option String := SortedMap.lookupEntry name g

def isOn (g : Given) (name : String) : Bool := (value? g name).isSome

end Given

open Given (value? isOn)

def givenDirectory (g : Given) : String := (value? g directoryArgument.name).getD "."

def Command.ofLevels : List Level → Option Command
  | ⟨"inspect", g⟩ :: _ =>
    some (.inspect (givenDirectory g)
      ((value? g "format").bind fun s => (OutputFormat.parse s).toOption) (isOn g "compact"))
  | ⟨"check", g⟩ :: _ =>
    some (.check (givenDirectory g)
      ((value? g "fail-on").bind fun s => (FailLevel.parse s).toOption))
  | ⟨"config", _⟩ :: ⟨"show", g⟩ :: _ => some (.config (.view (isOn g "paths")))
  | ⟨"config", _⟩ :: ⟨"validate", g⟩ :: _ => some (.config (.validate (value? g "file")))
  | ⟨"config", _⟩ :: ⟨"generate", g⟩ :: _ =>
    some (.config (.generate ((value? g "output").getD Settings.localPath) (isOn g "examples")
      (isOn g "force")))
  | _ => none

/-- The value of a shared option: the one that is given to the innermost command, or else the one
of the environment, or else the fallback. -/
def sharedValue? (env : Environment) (levels : List Level) (a : Argument) : Option String :=
  (levels.reverse.findSome? fun l => value? l.given a.name)
    <|> a.variableName.bind env.get?
    <|> a.fallback

def Invocation.ofLevels (env : Environment) (levels : List Level) : Invocation :=
  { configPath := sharedValue? env levels configOption
    logLevel := (sharedValue? env levels logLevelOption).getD ""
    command := Command.ofLevels (levels.drop 1) }

def Invocation.parse (env : Environment) (words : List String) : Except Stop Invocation :=
  (readCommands env (words.length + 1) [] tool words).map (Invocation.ofLevels env)

end ModuleSurvey.CommandLine
