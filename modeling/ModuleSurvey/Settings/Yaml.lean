import ModuleSurvey.Settings.Basic
import ModuleSurvey.Yaml.NodeReader
import ModuleSurvey.Yaml.Print

/-! # Settings as YAML

* `Settings.ofYaml` — the settings of a text. What it does not tell has its default, and what is
  not known is passed over.
* `Settings.toYaml` — the text of settings.
* `Settings.Unreadable` — why a text holds no settings.
-/

namespace ModuleSurvey.Settings

open Yaml (NodeReader FieldReader readRecord readBool readText readList readChoice)

/-! ## Reading -/

inductive Unreadable where
  | malformed
  /-- The document has a value of the wrong shape. -/
  | misfit (f : Yaml.Misfit)
  deriving DecidableEq, Repr

def Unreadable.message : Unreadable → String
  | malformed => "the text is no well-formed YAML document"
  | misfit f => f.message

def outputReader : NodeReader OutputSettings := readRecord "OutputConfig" {} [
  ("format", fun path n s => do
    return { s with format := ← readChoice OutputFormat.choices path n }),
  ("pretty", fun path n s => do return { s with pretty := ← readBool path n })]

def checkReader : NodeReader CheckSettings := readRecord "CheckConfig" {} [
  ("fail_on", fun path n s => do return { s with failOn := ← readChoice FailLevel.choices path n })]

def loaderReader : NodeReader LoaderSettings := readRecord "LoaderConfig" {} [
  ("include_overrides", fun path n s => do
    return { s with includeOverrides := ← readBool path n }),
  ("ignore", fun path n s => do
    return { s with ignore := ← readList (readText "a string") path n })]

def reader : NodeReader Settings := readRecord "InspectConfig" default [
  ("output", fun path n s => do return { s with output := ← outputReader path n }),
  ("check", fun path n s => do return { s with check := ← checkReader path n }),
  ("loader", fun path n s => do return { s with loader := ← loaderReader path n })]

def ofDocument (d : Yaml.Document) : Except Yaml.Misfit Settings :=
  match d.root with
  -- The empty document has the defaults.
  | none => .ok default
  | some root => reader "" root

def ofYaml (text : String) : Except Unreadable Settings :=
  match Yaml.parse? text with
  | none => .error .malformed
  | some d => (ofDocument d).mapError .misfit

/-! ## Writing -/

def settingLine (name word : String) : List Char :=
  "  ".toList ++ name.toList ++ ": ".toList ++ word.toList ++ ['\n']

def yamlChars (s : Settings) : List Char :=
  "output:\n".toList
    ++ settingLine "format" s.output.format.word
    ++ settingLine "pretty" (toString s.output.pretty)
    ++ "check:\n".toList
    ++ settingLine "fail_on" s.check.failOn.word
    ++ "loader:\n".toList
    ++ settingLine "include_overrides" (toString s.loader.includeOverrides)
    ++ (if s.loader.ignore.isEmpty then [] else "  ignore:\n".toList)
    ++ s.loader.ignore.flatMap fun entry => "  - ".toList ++ Yaml.scalarLines entry

def toYaml (s : Settings) : String := String.ofList s.yamlChars

end ModuleSurvey.Settings
