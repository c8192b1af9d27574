import ModuleSurvey.CommandLine.Run
import ModuleSurvey.FileTree
import ModuleSurvey.Proofs.Yaml.Record
import Mathlib.Data.List.Basic

/-! # Which value of a setting counts

A command uses what is given on the command line, or else what the environment tells, or else what
the settings file tells, or else the default. The file is the one that is asked for, or the first one
that is found. The two variables of the environment touch nothing but their own setting, so one that
cannot be read does not stand in the way of the other, and their order is of no concern.

* `Yaml.Document.valueUnder?`, `Settings.ToldBy` — what a document tells, setting by setting.
* `Settings.chosenFile`, `Settings.document?` — the file that counts, and what it holds.
* `Settings.withFormat`, `Settings.withFailLevel` — the settings with the value of one variable.
* `effective_settings` — the settings of every load that succeeds, and what the commands do with them.
-/

namespace ModuleSurvey

open CommandLine (Command Surroundings)

/-! ## Words -/

theorem OutputFormat.parse_eq_ok_iff {s : String} {f : OutputFormat} :
    OutputFormat.parse s = .ok f ↔ s.toLower = f.word := by
  unfold OutputFormat.parse
  by_cases summary : s.toLower = "summary"
  · cases f <;> simp [summary, choices, SortedMap.lookupEntry, word]
  · by_cases json : s.toLower = "json"
    · cases f <;> simp [json, choices, SortedMap.lookupEntry, word]
    · cases f <;> simp [summary, json, choices, SortedMap.lookupEntry, word]

theorem FailLevel.parse_eq_ok_iff {s : String} {l : FailLevel} :
    FailLevel.parse s = .ok l ↔ s.toLower = l.word := by
  unfold FailLevel.parse
  by_cases error : s.toLower = "error"
  · cases l <;> simp [error, choices, SortedMap.lookupEntry, word]
  · by_cases warning : s.toLower = "warning"
    · cases l <;> simp [warning, choices, SortedMap.lookupEntry, word]
    · by_cases never : s.toLower = "never"
      · cases l <;> simp [never, choices, SortedMap.lookupEntry, word]
      · cases l <;> simp [error, warning, never, choices, SortedMap.lookupEntry, word]

/-! ## What a document tells -/

def Yaml.Document.valueUnder? (doc : Yaml.Document) (group name : String) : Option Yaml.Node :=
  (doc.root.bind (·.valueUnder? group)).bind (·.valueUnder? name)

namespace Settings

open Yaml (Document Node Tells readBool readText readList readChoice tells_of_readRecord_set)
open Yaml.FieldReader (keeps_set)

/-- Each setting is what the document tells under its name, or the default. -/
structure ToldBy (s : Settings) (doc : Option Document) : Prop where
  format : Tells (readChoice OutputFormat.choices) .summary
    (doc.bind (·.valueUnder? "output" "format")) s.output.format
  pretty : Tells readBool true (doc.bind (·.valueUnder? "output" "pretty")) s.output.pretty
  failOn : Tells (readChoice FailLevel.choices) .error
    (doc.bind (·.valueUnder? "check" "fail_on")) s.check.failOn
  includeOverrides : Tells readBool true
    (doc.bind (·.valueUnder? "loader" "include_overrides")) s.loader.includeOverrides
  ignore : Tells (readList (readText "a string")) []
    (doc.bind (·.valueUnder? "loader" "ignore")) s.loader.ignore

theorem toldBy_default : default.ToldBy none := ⟨rfl, rfl, rfl, rfl, rfl⟩

variable {path : String} {n : Node} {s : Settings}

theorem outputReader_tells {o : OutputSettings} (read : outputReader path n = .ok o) :
    Tells (readChoice OutputFormat.choices) .summary (n.valueUnder? "format") o.format ∧
      Tells readBool true (n.valueUnder? "pretty") o.pretty := by
  constructor
  · exact tells_of_readRecord_set OutputSettings.format read rfl (fun _ _ => rfl)
      ⟨.inl rfl, .inr (keeps_set fun _ _ => rfl)⟩
  · exact tells_of_readRecord_set OutputSettings.pretty read rfl (fun _ _ => rfl)
      ⟨.inr (keeps_set fun _ _ => rfl), .inl rfl⟩

theorem checkReader_tells {c : CheckSettings} (read : checkReader path n = .ok c) :
    Tells (readChoice FailLevel.choices) .error (n.valueUnder? "fail_on") c.failOn :=
  tells_of_readRecord_set CheckSettings.failOn read rfl (fun _ _ => rfl) (.inl rfl)

theorem loaderReader_tells {l : LoaderSettings} (read : loaderReader path n = .ok l) :
    Tells readBool true (n.valueUnder? "include_overrides") l.includeOverrides ∧
      Tells (readList (readText "a string")) [] (n.valueUnder? "ignore") l.ignore := by
  constructor
  · exact tells_of_readRecord_set LoaderSettings.includeOverrides read rfl (fun _ _ => rfl)
      ⟨.inl rfl, .inr (keeps_set fun _ _ => rfl)⟩
  · exact tells_of_readRecord_set LoaderSettings.ignore read rfl (fun _ _ => rfl)
      ⟨.inr (keeps_set fun _ _ => rfl), .inl rfl⟩

theorem reader_tells (read : reader path n = .ok s) :
    Tells outputReader {} (n.valueUnder? "output") s.output ∧
      Tells checkReader {} (n.valueUnder? "check") s.check ∧
      Tells loaderReader {} (n.valueUnder? "loader") s.loader := by
  refine ⟨?_, ?_, ?_⟩
  · exact tells_of_readRecord_set Settings.output read rfl (fun _ _ => rfl)
      ⟨.inl rfl, .inr (keeps_set fun _ _ => rfl), .inr (keeps_set fun _ _ => rfl)⟩
  · exact tells_of_readRecord_set Settings.check read rfl (fun _ _ => rfl)
      ⟨.inr (keeps_set fun _ _ => rfl), .inl rfl, .inr (keeps_set fun _ _ => rfl)⟩
  · exact tells_of_readRecord_set Settings.loader read rfl (fun _ _ => rfl)
      ⟨.inr (keeps_set fun _ _ => rfl), .inr (keeps_set fun _ _ => rfl), .inl rfl⟩

theorem toldBy_of_ofDocument {doc : Document} (read : ofDocument doc = .ok s) :
    s.ToldBy (some doc) := by
  unfold ofDocument at read
  cases root : doc.root with
  | none =>
    rw [root] at read
    obtain rfl : default = s := Except.ok.inj read
    constructor <;> simp [Document.valueUnder?, root, Tells, default]
  | some n =>
    rw [root] at read
    obtain ⟨output, check, loader⟩ := reader_tells read
    have below (group name : String) :
        (some doc).bind (·.valueUnder? group name) =
          (n.valueUnder? group).bind (·.valueUnder? name) := by
      simp [Document.valueUnder?, root]
    constructor <;> rw [below]
    · exact Tells.below OutputSettings.format
        (fun _ _ _ read => (outputReader_tells read).1) output
    · exact Tells.below OutputSettings.pretty
        (fun _ _ _ read => (outputReader_tells read).2) output
    · exact Tells.below CheckSettings.failOn
        (fun _ _ _ read => checkReader_tells read) check
    · exact Tells.below LoaderSettings.includeOverrides
        (fun _ _ _ read => (loaderReader_tells read).1) loader
    · exact Tells.below LoaderSettings.ignore
        (fun _ _ _ read => (loaderReader_tells read).2) loader

/-! ## The file that counts -/

/-- The file that is asked for, or else the first one that is there. -/
def chosenFile (d : Disk) (env : Environment) (path : Option String) : Option String :=
  path.or (discover d env)

def document? (d : Disk) (path : String) : Option Document := (d.read path).toOption.bind Yaml.parse?

variable {d : Disk} {env : Environment} {asked : Option String}

theorem ofFile_eq_ok {file : String} (read : ofFile d file = .ok s) :
    ∃ doc, document? d file = some doc ∧ ofDocument doc = .ok s := by
  unfold ofFile at read
  cases content : d.read file with
  | error fault => rw [content] at read; cases read
  | ok text =>
    cases parsed : Yaml.parse? text with
    | none => simp [content, ofYaml, parsed, Except.mapError] at read
    | some doc =>
      refine ⟨doc, by simp [document?, content, Except.toOption, parsed], ?_⟩
      cases outcome : ofDocument doc with
      | error fault => simp [content, ofYaml, parsed, outcome, Except.mapError] at read
      | ok t => simpa [content, ofYaml, parsed, outcome, Except.mapError] using read

theorem ok_of_mapError {α ε ε' : Type} {x : Except ε α} {f : ε → ε'} {a : α}
    (mapped : x.mapError f = .ok a) : x = .ok a := by
  cases x with
  | error e => cases mapped
  | ok b => rw [Except.ok.inj mapped]

/-- Settings come from the file that counts, or are the defaults where there is none. -/
theorem source_eq_ok (loaded : source d env asked = .ok s) :
    ((chosenFile d env asked).all fun file => (document? d file).isSome) = true ∧
      s.ToldBy ((chosenFile d env asked).bind (document? d)) := by
  have of_file {file : String} (read : ofFile d file = .ok s) :
      (document? d file).isSome = true ∧ s.ToldBy (document? d file) := by
    obtain ⟨doc, isDocument, told⟩ := ofFile_eq_ok read
    rw [isDocument]
    exact ⟨rfl, toldBy_of_ofDocument told⟩
  cases asked with
  | some file => exact of_file (ok_of_mapError loaded)
  | none =>
    simp only [source, chosenFile, Option.none_or] at loaded ⊢
    cases found : discover d env with
    | some file => exact of_file (ok_of_mapError (by simpa [found] using loaded))
    | none =>
      simp only [found] at loaded
      rw [← Except.ok.inj loaded]
      exact ⟨rfl, toldBy_default⟩

/-! ## The environment -/

def withFormat (word : Option String) (s : Settings) : Settings :=
  match word.map OutputFormat.parse with
  | some (.ok format) => { s with output.format := format }
  | _ => s

def withFailLevel (word : Option String) (s : Settings) : Settings :=
  match word.map FailLevel.parse with
  | some (.ok level) => { s with check.failOn := level }
  | _ => s

theorem withFailLevel_withFormat (format level : Option String) (s : Settings) :
    (s.withFormat format).withFailLevel level = (s.withFailLevel level).withFormat format := by
  unfold withFormat withFailLevel
  cases format.map OutputFormat.parse with
  | none => rfl
  | some f => cases f <;> cases level.map FailLevel.parse with
    | none => rfl
    | some l => cases l <;> rfl

theorem overridden_eq (env : Environment) (s : Settings) :
    overridden env s =
      (s.withFormat (env.get? formatVariable)).withFailLevel (env.get? failLevelVariable) := by
  unfold overridden override? withFormat withFailLevel
  cases env.get? formatVariable with
  | none =>
    cases env.get? failLevelVariable with
    | none => rfl
    | some level => cases outcome : FailLevel.parse level <;> simp [outcome, Except.toOption]
  | some format =>
    cases outcome : OutputFormat.parse format <;> cases env.get? failLevelVariable with
    | none => simp [outcome, Except.toOption]
    | some level =>
      cases outcomeLevel : FailLevel.parse level <;>
        simp [outcome, outcomeLevel, Except.toOption]

/-! ## The law -/

/-- The settings of every load that succeeds, from whatever place. Each setting is what the file that
counts tells, or the default, but for the two that the environment may tell: of these the value of
the variable counts if it can be read, in any mixture of cases, whichever variable is looked at first.
A command uses these settings, but for the format or the level that is given to itself. -/
theorem effective_settings (d : Disk) (env : Environment) (asked : Option String) (s : Settings)
    (loaded : load d env asked = .ok s) :
    let file := chosenFile d env asked
    let format := override? env formatVariable OutputFormat.parse
    let level := override? env failLevelVariable FailLevel.parse
    (∀ word f, OutputFormat.parse word = .ok f ↔ word.toLower = f.word) ∧
    (∀ word l, FailLevel.parse word = .ok l ↔ word.toLower = l.word) ∧
    (file.all fun path => (document? d path).isSome) = true ∧
    ∃ told : Settings, told.ToldBy (file.bind (document? d)) ∧
      s = { told with
        output.format := format.getD told.output.format
        check.failOn := level.getD told.check.failOn } ∧
      s = (told.withFormat (env.get? formatVariable)).withFailLevel (env.get? failLevelVariable) ∧
      s = (told.withFailLevel (env.get? failLevelVariable)).withFormat (env.get? formatVariable) ∧
      ∀ (w : Surroundings) (dir : String), w.env = env →
        (∀ given compact, (Command.inspect dir given compact).run d w asked =
          { out := Report.render (loadModule d told.loader dir)
              ((given.or format).getD told.output.format) (told.output.pretty && !compact) w.color }) ∧
        ∀ given,
          let problems := (loadModule d told.loader dir).diagnostics
          let report := Report.CheckReport.evaluate problems
            ((given.or level).getD told.check.failOn)
          (Command.check dir given).run d w asked =
            { code := if report.failed then 1 else 0
              out := Report.linesText w.color (Report.checkLines problems report) } := by
  intro file format level
  obtain ⟨told, source, rfl⟩ : ∃ told, Settings.source d env asked = .ok told ∧
      overridden env told = s := by
    unfold load at loaded
    cases outcome : Settings.source d env asked with
    | error fault => rw [outcome] at loaded; cases loaded
    | ok told => exact ⟨told, rfl, Except.ok.inj (by rw [← loaded, outcome]; rfl)⟩
  obtain ⟨isRead, isTold⟩ := source_eq_ok source
  refine ⟨fun _ _ => OutputFormat.parse_eq_ok_iff, fun _ _ => FailLevel.parse_eq_ok_iff, isRead,
    told, isTold, rfl, overridden_eq env told, ?_, ?_⟩
  · rw [overridden_eq, withFailLevel_withFormat]
  · rintro w dir rfl
    have getD_or {α : Type} (given fallback : Option α) (last : α) :
        (given.or fallback).getD last = given.getD (fallback.getD last) := by
      cases given <;> rfl
    constructor
    · intro given compact
      simp only [Command.run, CommandLine.inspect, loaded, getD_or]
      rfl
    · intro given
      simp only [Command.run, CommandLine.check, loaded, getD_or]
      rfl

def toldTree : FileTree :=
  ⟨[(["tfinspect.yaml"], .file (some
    "check:\n  fail_on: warning\noutput:\n  format: json\n  pretty: false\n"))]⟩

def mixedVariables : Environment :=
  ((∅ : SortedMap String).insert formatVariable "xml").insert failLevelVariable "NEVER"

/-- The level is that of the environment, and the format that of the file where none is given. -/
theorem toldTree_effective :
    let d := toldTree.disk []
    let w : Surroundings := ⟨mixedVariables, false⟩
    let m := loadModule d {} "mod"
    load d mixedVariables none = .ok ⟨⟨.json, false⟩, ⟨.never⟩, ⟨true, []⟩⟩ ∧
    (Command.inspect "mod" none false).run d w none = { out := Report.render m .json false false } ∧
    (Command.inspect "mod" (some .summary) false).run d w none =
      { out := Report.render m .summary false false } ∧
    ((Command.check "mod" none).run d w none).code = 0 ∧
    ((Command.check "mod" (some .error)).run d w none).code = 1 := by
  intro d w m
  have loaded : load d mixedVariables none = .ok ⟨⟨.json, false⟩, ⟨.never⟩, ⟨true, []⟩⟩ := by
    decide +kernel
  obtain ⟨-, -, -, told, -, same, -, -, runs⟩ := effective_settings d mixedVariables none _ loaded
  have noFormat : override? mixedVariables formatVariable OutputFormat.parse = none := by
    decide +kernel
  have aLevel : override? mixedVariables failLevelVariable FailLevel.parse = some .never := by
    decide +kernel
  rw [noFormat, aLevel] at same
  obtain ⟨⟨format, pretty⟩, checks, loader⟩ := told
  obtain ⟨⟨rfl, rfl⟩, rfl⟩ : (OutputFormat.json = format ∧ false = pretty) ∧ ⟨true, []⟩ = loader := by
    simpa using same
  obtain ⟨inspects, judges⟩ := runs w "mod" rfl
  rw [noFormat] at inspects
  rw [aLevel] at judges
  have passes : (Report.CheckReport.evaluate m.diagnostics .never).failed = false := by decide +kernel
  have fails : (Report.CheckReport.evaluate m.diagnostics .error).failed = true := by decide +kernel
  refine ⟨loaded, inspects none false, inspects (some .summary) false, ?_, ?_⟩
  · simp only [judges, Option.none_or, Option.getD_some, passes, m]
    rfl
  · simp only [judges, Option.some_or, Option.getD_some, fails, m]
    rfl

end Settings

end ModuleSurvey
