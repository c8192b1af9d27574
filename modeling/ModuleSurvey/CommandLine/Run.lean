import ModuleSurvey.CommandLine.Command
import ModuleSurvey.CommandLine.Help
import ModuleSurvey.CommandLine.LogFilter
import ModuleSurvey.Loader
import ModuleSurvey.Report.Summary
import ModuleSurvey.Settings.Sample

/-! # Running a command line

* `Outcome` — all that a run does: the texts that it prints, the file that it writes, its exit code.
* `Obstacle`, `Obstacle.text` — why a command fails, and how that is told.
* `inspect`, `check`, `viewSettings`, `validateSettings`, `generateSettings` — the commands.
* `Invocation.files`, `Invocation.directory?` — where a run looks.
* `run` — the outcome of a command line.
-/

namespace ModuleSurvey.CommandLine

open Report (Line Span linesText)

/-! ## Outcomes -/

structure Outcome where
  code : Nat := 0
  out : String := ""
  err : String := ""
  file : Option (String × String) := none
  deriving DecidableEq, Repr

/-- Why a command fails: what it was about to do, and what prevented that. -/
structure Obstacle where
  context : String
  cause : Option String := none
  deriving DecidableEq, Repr

/-- A text whose lines behind the first one are indented. -/
def hanging (s : String) : String :=
  String.ofList (s.toList.flatMap fun c => if c = '\n' then "\n    ".toList else [c])

def Obstacle.text (o : Obstacle) : String :=
  "Error: " ++ o.context
    ++ (match o.cause with
      | none => ""
      | some cause => "\n\nCaused by:\n    " ++ hanging cause)
    ++ "\n"

/-- The outcome of a command that fails. `out` is what it printed before. -/
def Outcome.failed (o : Obstacle) (out : String) : Outcome := { code := 1, out, err := o.text }

structure Surroundings where
  env : Environment
  color : Bool

/-- Whether output is styled: if that is forced, or on a terminal, unless it is turned off. -/
def wantsColor (env : Environment) (terminal : Bool) : Bool :=
  let switch (name : String) : Option Bool := (env.get? name).map (· ≠ "0")
  switch "CLICOLOR_FORCE" == some true
    || ((switch "NO_COLOR").isNone && (switch "CLICOLOR").getD true && terminal)

/-! ## Settings -/

def loadObstacle (f : Settings.LoadFault) : Obstacle :=
  ⟨"Failed to load configuration", some f.message⟩

def variableSpan (env : Environment) (name : String) : Span :=
  .styled .dimmed ((env.get? name).getD "(not set)")

def heading (s : String) : Line := [.styled .bold s]

def discoveryLines (env : Environment) (path : Option String) : List Line := [
  heading "Configuration discovery paths:",
  [.plain "  1. --config flag: ",
    match path with
    | some path => .plain path
    | none => .styled .dimmed "(not set)"],
  [.plain ("  2. " ++ configPathVariable ++ ": "), variableSpan env configPathVariable],
  [.plain ("  3. " ++ Settings.localPath)],
  [.plain "  4. ~/.tfinspect/config.yaml"],
  []]

def ignoreLines (names : List String) : List Line :=
  if names.isEmpty then [[.plain "  Ignore: ", .styled .dimmed "(none)"]]
  else [.plain "  Ignore:"] :: names.map fun name => [.plain ("    - " ++ name)]

def settingsLines (env : Environment) (s : Settings) : List Line :=
  [heading "Current configuration:",
    [],
    heading "Output:",
    [.plain ("  Format: " ++ s.output.format.title)],
    [.plain ("  Pretty JSON: " ++ toString s.output.pretty)],
    [],
    heading "Check:",
    [.plain ("  Fail on: " ++ s.check.failOn.title)],
    [],
    heading "Loader:",
    [.plain ("  Include overrides: " ++ toString s.loader.includeOverrides)]]
  ++ ignoreLines s.loader.ignore
  ++ [[],
    heading "Environment overrides:",
    [.plain ("  " ++ formatVariable ++ ": "), variableSpan env formatVariable],
    [.plain ("  " ++ failLevelVariable ++ ": "), variableSpan env failLevelVariable]]

/-! ## Commands -/

def inspect (d : Disk) (w : Surroundings) (path : Option String) (dir : String)
    (format : Option OutputFormat) (compact : Bool) : Outcome :=
  match Settings.load d w.env path with
  | .error f => .failed (loadObstacle f) ""
  | .ok s =>
    let m := loadModule d s.loader dir
    let pretty := s.output.pretty && !compact
    { out := Report.render m (format.getD s.output.format) pretty w.color }

def check (d : Disk) (w : Surroundings) (path : Option String) (dir : String)
    (failOn : Option FailLevel) : Outcome :=
  match Settings.load d w.env path with
  | .error f => .failed (loadObstacle f) ""
  | .ok s =>
    let problems := (loadModule d s.loader dir).diagnostics
    let report := Report.CheckReport.evaluate problems (failOn.getD s.check.failOn)
    { code := if report.failed then 1 else 0
      out := linesText w.color (Report.checkLines problems report) }

def viewSettings (d : Disk) (w : Surroundings) (path : Option String) (paths : Bool) : Outcome :=
  let before := if paths then discoveryLines w.env path else []
  match Settings.load d w.env path with
  | .error f => .failed (loadObstacle f) (linesText w.color before)
  | .ok s => { out := linesText w.color (before ++ settingsLines w.env s) }

def validateSettings (d : Disk) (w : Surroundings) (path : Option String) : Outcome :=
  let before : List Line := [[.plain "Validating configuration..."]]
  match Settings.load d w.env path with
  | .error f => .failed (loadObstacle f) (linesText w.color before)
  | .ok s =>
    match s.validate with
    | .error f =>
      .failed ⟨"Configuration validation failed", some f.message⟩ (linesText w.color before)
    | .ok () =>
      { out := linesText w.color (before ++ [[.styled .green "✓ Configuration is valid"]]) }

def generateSettings (d : Disk) (w : Surroundings) (path : String) (examples force : Bool) :
    Outcome :=
  -- A file that is there is replaced only if that is forced.
  if d.holds path ∧ !force then
    .failed ⟨path ++ " already exists. Use --force to replace it", none⟩ ""
  else
    match d.writeFault? path with
    | some f =>
      .failed ⟨"Failed to write config to " ++ Text.quotedText path, some f.message⟩ ""
    | none =>
      { out := linesText w.color [[.styled .green ("✓ Configuration generated: " ++ path)]]
        file := some (path, Settings.sample examples) }

def Command.run (d : Disk) (w : Surroundings) (path : Option String) : Command → Outcome
  | inspect dir format compact => CommandLine.inspect d w path dir format compact
  | check dir failOn => CommandLine.check d w path dir failOn
  | config (.view paths) => viewSettings d w path paths
  | config (.validate file) => validateSettings d w (file <|> path)
  | config (.generate output examples force) => generateSettings d w output examples force

/-! ## What a run looks at -/

def Command.directory? : Command → Option String
  | inspect dir .. | check dir _ => some dir
  | config _ => none

/-- The files that a command looks at besides those of a module and of the settings. -/
def Command.files : Command → List String
  | config (.validate file) => file.toList
  | config (.generate output ..) => [output]
  | _ => []

def Invocation.directory? (i : Invocation) : Option String := i.command.bind Command.directory?

def Invocation.files (env : Environment) (i : Invocation) : List String :=
  Settings.candidates env ++ i.configPath.toList ++ (i.command.map Command.files).getD []

/-! ## Command lines -/

/-- Whether a log filter is found: the one of the environment, or else the level that is given. -/
def hasLogFilter (env : Environment) (level : String) : Bool :=
  (env.get? "RUST_LOG").any isLogFilter || isLogFilter level

def Invocation.run (d : Disk) (w : Surroundings) (i : Invocation) : Outcome :=
  if !hasLogFilter w.env i.logLevel then
    .failed ⟨"Failed to create log filter", some "invalid filter directive"⟩ ""
  else
    match i.command with
    | some c => c.run d w i.configPath
    | none =>
      { code := 1
        err := linesText w.color
          [[.styled .yellow "No command specified. Use --help for usage."]] }

def Stop.outcome (env : Environment) : Stop → Outcome
  | usage =>
    { code := 2
      err := "error: the command line is not understood\n\n" ++ usageText [tool.name] tool
        ++ "\n\nFor more information, try '--help'.\n" }
  | version path => { out := "-".intercalate path ++ " " ++ CommandLine.version ++ "\n" }
  | help path form => { out := helpText env path form }

def run (d : Disk) (env : Environment) (terminal : Bool) (words : List String) : Outcome :=
  match Invocation.parse env words with
  | .error stop => stop.outcome env
  | .ok i => i.run d ⟨env, wantsColor env terminal⟩

end ModuleSurvey.CommandLine
