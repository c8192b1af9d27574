import ModuleSurvey.Settings.Discovery

/-! # The form of the command line

* `Argument` — an option, a switch or a positional argument.
* `Form` — a command with its arguments and the commands below it.
* `tool` — the whole command line.
-/

namespace ModuleSurvey.CommandLine

/-! ## Arguments -/

inductive ValueKind where
  /-- A path, which is not empty. -/
  | path
  | text
  | format
  | failLevel
  deriving DecidableEq, Repr

def ValueKind.accepts (s : String) : ValueKind → Bool
  | path => s ≠ ""
  | text => true
  | format => (OutputFormat.parse s).isOk
  | failLevel => (FailLevel.parse s).isOk

structure Argument where
  name : String
  letter : Option Char := none
  /-- Whether the argument is known by its position alone. -/
  positional : Bool := false
  /-- What its value has to be, and what the value is called. A switch has no value. -/
  value : Option (ValueKind × String) := none
  fallback : Option String := none
  variableName : Option String := none
  /-- The place in the list of arguments that is shown to users. -/
  rank : Nat := 0
  summary : String
  deriving DecidableEq, Repr

def configOption : Argument := {
  name := "config", letter := some 'c', value := some (.path, "FILE")
  variableName := some configPathVariable
  summary := "Path to configuration file (overrides discovery)" }

def logLevelVariable : String := "TFINSPECT_LOG_LEVEL"

def logLevelOption : Argument := {
  name := "log-level", value := some (.text, "LOG_LEVEL"), fallback := some "warn"
  variableName := some logLevelVariable, rank := 1
  summary := "Log level (trace, debug, info, warn, error)" }

def helpSwitch : Argument := {
  name := "help", letter := some 'h', rank := 999, summary := "Print help" }

def versionSwitch : Argument := {
  name := "version", letter := some 'V', rank := 999, summary := "Print version" }

def commonArguments : List Argument := [configOption, logLevelOption, helpSwitch, versionSwitch]

def directoryArgument : Argument := {
  name := "dir", positional := true, value := some (.path, "DIR"), fallback := some "."
  summary := "Module directory (default: current directory)" }

/-! ## Commands -/

/-- A command: its own arguments, and the commands below it, one of which may be required. -/
structure Form where
  name : String
  summary : String
  arguments : List Argument := []
  commands : List Form := []
  commandRequired : Bool := false

namespace Form

def allArguments (s : Form) : List Argument := s.arguments ++ commonArguments

def named? (s : Form) (name : String) : Option Argument :=
  s.allArguments.find? fun a => !a.positional && a.name == name

def lettered? (s : Form) (letter : Char) : Option Argument :=
  s.allArguments.find? fun a => !a.positional && a.letter == some letter

def positional? (s : Form) : Option Argument := s.arguments.find? (·.positional)

def command? (s : Form) (name : String) : Option Form := s.commands.find? (·.name == name)

end Form

/-- The command that asks for help, below every command that has others below it. -/
def helpCommandName : String := "help"

def inspectForm : Form := {
  name := "inspect", summary := "Load a module and print what it declares"
  arguments := [
    directoryArgument,
    { name := "format", letter := some 'f', value := some (.format, "FORMAT")
      summary := "Output format: summary or json (default: from configuration)" },
    { name := "compact", rank := 1, summary := "Write JSON on a single line" }] }

def checkForm : Form := {
  name := "check", summary := "Load a module and report its diagnostics"
  arguments := [
    directoryArgument,
    { name := "fail-on", value := some (.failLevel, "FAIL_ON")
      summary := "Lowest severity that fails the check: error, warning or never "
        ++ "(default: from configuration)" }] }

def showForm : Form := {
  name := "show", summary := "Show current configuration"
  arguments := [{ name := "paths", summary := "Show config file paths checked" }] }

def validateForm : Form := {
  name := "validate", summary := "Validate configuration file"
  arguments := [
    { name := "file", positional := true, value := some (.path, "FILE")
      summary := "Path to config file (default: discover)" }] }

def generateForm : Form := {
  name := "generate", summary := "Generate sample configuration"
  arguments := [
    { name := "output", letter := some 'o', value := some (.path, "OUTPUT")
      fallback := some Settings.localPath
      summary := "Output path (default: ./tfinspect.yaml)" },
    { name := "examples", rank := 1, summary := "Include examples and comments" },
    { name := "force", rank := 2, summary := "Replace an existing file" }] }

def configForm : Form := {
  name := "config", summary := "Configuration management"
  commands := [showForm, validateForm, generateForm], commandRequired := true }

def tool : Form := {
  name := "tfinspect"
  summary := "100monkeys.ai tfinspect: inspect and check Terraform-style modules"
  commands := [inspectForm, checkForm, configForm] }

def version : String := "0.15.0-pre-alpha"

end ModuleSurvey.CommandLine
