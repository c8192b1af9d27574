import ModuleSurvey.Proofs.Json.Refusals
import ModuleSurvey.Proofs.Loader.Verdicts
import ModuleSurvey.Proofs.Module.Wording

/-! # The lines of a check

A report has a line for each problem and one for the verdict, and one more for each line feed in the
texts of the problems. These come from the names of files, from labels and values, and from messages
of the system and of the parser of native files, which are taken over as they are, whatever they say;
the JSON parser's messages have none. Where nothing that is read has a line feed in it, and no message
for it, each problem is one line.

* `unbroken_of_parseBody` — the messages of the JSON parser.
* `ConfigFile.Unbroken`, `Disk.Unbroken` — files and directories without line feeds.
* `unbroken_loadModule` — their problems have none.
* `report_lines` — the lines of the report on a directory.
* `refused_native_lines` — a refused native file adds the lines of the message.
-/

namespace ModuleSurvey

open Json (Value)
open Report (CheckReport checkLines diagnosticLine linesText verdictLine)

/-! ## Files without line feeds -/

/-- The message for a JSON text that is refused is on one line, whatever the text. -/
theorem unbroken_of_parseBody {words : String → String} {text detail : String} {line : Nat}
    (refused : parseBody words .json text = .error (detail, line)) : Unbroken detail := by
  simp only [parseBody] at refused
  split at refused <;> cases refused
  exact Value.unbroken_message_of_parse ‹_› _

theorem parseBody_native_eq_error {words : String → String} {text : String} {refusal : String × Nat}
    (refused : parseBody words .native text = .error refusal) :
    Native.valueOfText? text = none ∧ refusal = (words text, 1) := by
  simp only [parseBody] at refused
  split at refused <;> cases refused
  exact ⟨‹_›, rfl⟩

/-- No line feed is in the name of a file and in its body, or in the message that it cannot be read or
that its native text is refused. -/
structure ConfigFile.Unbroken (d : Disk) (dir : String) (file : ConfigFile) : Prop where
  name : ModuleSurvey.Unbroken file.name
  fault : ∀ fault, d.read (Disk.join dir file.name) = .error fault → ModuleSurvey.Unbroken fault.message
  body : ∀ text body, d.read (Disk.join dir file.name) = .ok text →
    parseBody d.nativeFault file.format text = .ok body → body.Unbroken
  refusal : file.format = .native → ∀ text, d.read (Disk.join dir file.name) = .ok text →
    Native.valueOfText? text = none → ModuleSurvey.Unbroken (d.nativeFault text)

/-- No line feed is in the path of a directory and in the files that are selected from it, or in the
message that it cannot be read. -/
structure Disk.Unbroken (d : Disk) (s : LoaderSettings) (dir : String) : Prop where
  path : ModuleSurvey.Unbroken dir
  fault : ∀ fault, fileNames d dir = .error fault → ModuleSurvey.Unbroken fault.message
  files : ∀ names, fileNames d dir = .ok names → ∀ file ∈ selectNames s names, file.Unbroken d dir

theorem Disk.unbroken_join {dir name : String} (path : ModuleSurvey.Unbroken dir)
    (named : ModuleSurvey.Unbroken name) : ModuleSurvey.Unbroken (join dir name) := by
  unfold join
  split
  · exact path.append named
  · exact (path.append (by decide +kernel)).append named

variable {d : Disk} {s : LoaderSettings} {dir : String} {m : Module}

theorem Module.Unbroken.loadFile (held : m.Unbroken) (path : ModuleSurvey.Unbroken dir)
    {file : ConfigFile} (unbroken : file.Unbroken d dir) : (loadFile d dir m file).Unbroken := by
  have filename := Disk.unbroken_join path unbroken.name
  have place (line : Nat) : ∀ pos, some (SourcePos.mk (Disk.join dir file.name) line) = some pos →
      ModuleSurvey.Unbroken pos.filename := by
    rintro _ ⟨rfl⟩
    exact filename
  have words : ModuleSurvey.Unbroken "Failed to read file" ∧
      ModuleSurvey.Unbroken "Failed to parse configuration file" ∧
      ModuleSurvey.Unbroken "The configuration file " ∧
      ModuleSurvey.Unbroken " could not be read: " := by decide +kernel
  obtain ⟨unread, refused, opening, reason⟩ := words
  -- A file that cannot be read or parsed reports one problem, and else its statements report theirs.
  cases read : d.read (Disk.join dir file.name) with
  | error fault =>
    simp only [ModuleSurvey.loadFile, read]
    have detail := ((opening.append filename).append reason).append (unbroken.fault fault read)
    exact held.report ⟨unread, detail, place 1⟩
  | ok text =>
    cases parsed : parseBody d.nativeFault file.format text with
    | error refusal =>
      have detail : ModuleSurvey.Unbroken refusal.1 := by
        cases format : file.format with
        | json => exact unbroken_of_parseBody (format ▸ parsed)
        | native =>
          obtain ⟨rejected, rfl⟩ := parseBody_native_eq_error (format ▸ parsed)
          exact unbroken.refusal format text read rejected
      simp only [ModuleSurvey.loadFile, read, loadText, parsed]
      exact held.report ⟨refused, detail, place refusal.2⟩
    | ok body =>
      rw [loadFile_of_parsed read parsed]
      have ofBody := unbroken.body text body read parsed
      refine List.foldlRecOn _ _ held fun _ held s member => ?_
      have inFile := Statement.ofBody_inText (BlockIndex.headersInText_scan _ _ _) body s member
      refine held.declare file.role (Statement.unbroken_of_mem_ofBody ofBody _ s member) ?_
      exact inFile.1.symm ▸ filename

/-- A directory without line feeds is reported without line feeds. -/
theorem unbroken_loadModule (unbroken : d.Unbroken s dir) : (loadModule d s dir).Unbroken := by
  unfold loadModule
  cases listed : fileNames d dir with
  | error fault =>
    have words : Unbroken "Failed to read module directory" ∧ Unbroken "Module directory " ∧
        Unbroken " does not exist or cannot be read: IO error for operation on " ∧
        Unbroken ": " := by decide +kernel
    obtain ⟨summary, opening, reason, colon⟩ := words
    have detail := ((((opening.append unbroken.path).append reason).append unbroken.path).append
      colon).append (unbroken.fault fault listed)
    exact (Module.unbroken_new dir).report ⟨summary, detail, nofun⟩
  | ok names =>
    exact List.foldlRecOn _ _ (Module.unbroken_new dir) fun _ held file selected =>
      held.loadFile unbroken.path (unbroken.files names listed file selected)

/-! ## The law -/

/-- The report on a directory has a line for each problem, one more for each line feed in the texts of
the problems, and last of all the verdict; so too the text of the problems, which has no verdict. So
there is one line for each problem iff no problem has a line feed in its texts, and that is so where
nothing that is read has one. -/
theorem report_lines (d : Disk) (s : LoaderSettings) (dir : String) (failOn : FailLevel)
    (color : Bool) :
    let problems := (loadModule d s dir).diagnostics
    let report := CheckReport.evaluate problems failOn
    let written := (linesText color (checkLines problems report)).toList
    let verdict := (verdictLine problems report).chars color
    let breaks := problems.lineFeeds
    written.count '\n' = problems.length + 1 + breaks ∧
    (∃ earlier, written.splitOn '\n' = earlier ++ [verdict, []]) ∧
    (problems ≠ [] → (problems.text.toList.splitOn '\n').length = problems.length + breaks) ∧
    (written.count '\n' = problems.length + 1 ↔ ∀ problem ∈ problems, problem.Unbroken) ∧
    (d.Unbroken s dir →
      written.splitOn '\n' =
        problems.map (fun problem => (diagnosticLine problem).chars color) ++ [verdict, []] ∧
      (problems ≠ [] → problems.text.toList.splitOn '\n' = problems.map (·.text.toList))) := by
  intro problems report written verdict breaks
  have count : written.count '\n' = problems.length + 1 + breaks :=
    Report.count_checkLines color problems report
  have lines := Report.splitOn_checkLines color problems report
  refine ⟨count, ⟨_, lines⟩, fun some_problem => ?_, ?_, fun unbroken => ⟨?_, fun some_problem => ?_⟩⟩
  · rw [Diagnostics.splitOn_text some_problem]
    exact Report.length_flatMap_splitOn problems Diagnostic.lineFeeds_text
  · rw [count, ← Diagnostics.lineFeeds_eq_zero_iff]
    omega
  · have single := Report.flatMap_splitOn_of_unbroken (Report.count_diagnosticLine color)
      (unbroken_loadModule unbroken).diagnostics
    rw [← single]
    exact lines
  · rw [Diagnostics.splitOn_text some_problem]
    exact Report.flatMap_splitOn_of_unbroken Diagnostic.lineFeeds_text
      (unbroken_loadModule unbroken).diagnostics

def sourcelessFile : DirectoryFile :=
  ("main.tf.json", .ok "\x7b\"module\": \x7b\"a\": \x7b\x7d,\n\"b\": \x7b\x7d\x7d\x7d")

theorem sourcelessFile_lines :
    let d := Disk.ofFiles id "mod" [sourcelessFile]
    let problems := (loadModule d {} "mod").diagnostics
    let written := (linesText false (checkLines problems (CheckReport.evaluate problems .error))).toList
    d.Unbroken {} "mod" ∧ problems.length = 2 ∧
    written.splitOn '\n' =
      problems.map (fun problem => (diagnosticLine problem).chars false) ++
        ["✗ 2 error(s), 0 warning(s)".toList, []] ∧
    problems.text.toList.splitOn '\n' = problems.map (·.text.toList) := by
  intro d problems written
  have lists : d.Lists id "mod" [sourcelessFile] := Disk.lists_ofFiles (by decide) (by decide)
  have selected : selectNames {} ([sourcelessFile].map (·.1)) = [⟨"main.tf.json", .json, .primary⟩] := by
    have sorted : sortNames ([sourcelessFile].map (·.1)) = ["main.tf.json"] :=
      sortNames_eq (by decide) (by decide)
    rw [selectNames_eq, sorted]
    decide +kernel
  have parsed : parseBody id .json "\x7b\"module\": \x7b\"a\": \x7b\x7d,\n\"b\": \x7b\x7d\x7d\x7d" =
      .ok (.object [("module", .object [("a", .object []), ("b", .object [])])]) := by
    decide +kernel
  have read : d.read (Disk.join "mod" "main.tf.json") = sourcelessFile.2 :=
    lists.contents sourcelessFile List.mem_cons_self
  have unbroken : d.Unbroken {} "mod" := by
    refine ⟨by decide, fun fault unread => ?_, fun names listed => ?_⟩
    · cases lists.names.symm.trans unread
    · cases lists.names.symm.trans listed
      rw [selected]
      refine List.forall_mem_singleton.2
        ⟨by decide, fun fault unread => ?_, fun text body given is => ?_, nofun⟩
      · cases read.symm.trans unread
      · cases read.symm.trans given
        cases parsed.symm.trans is
        have empty : (Value.object []).Unbroken := .object nofun nofun
        have calls : (Value.object [("a", .object []), ("b", .object [])]).Unbroken :=
          .object (by decide) (by simp [empty])
        exact .object (by decide) (List.forall_mem_singleton.2 calls)
  have reported : problems = [
      .errorAt ⟨"mod/main.tf.json", 1⟩ "Missing source for module call"
        "The module call \"a\" has no source argument.",
      .errorAt ⟨"mod/main.tf.json", 2⟩ "Missing source for module call"
        "The module call \"b\" has no source argument."] := by
    simp only [problems]
    rw [loadModule_of_lists lists, selected]
    decide +kernel
  have verdict : (verdictLine problems (CheckReport.evaluate problems .error)).chars false =
      "✗ 2 error(s), 0 warning(s)".toList := by
    rw [reported]
    decide +kernel
  obtain ⟨-, -, -, -, single⟩ := report_lines d {} "mod" .error false
  obtain ⟨lines, text⟩ := single unbroken
  have some_problem : problems ≠ [] := by
    rw [reported]
    exact List.cons_ne_nil _ _
  exact ⟨unbroken, congrArg List.length reported, verdict ▸ lines, text some_problem⟩

/-- A label with line feeds in it breaks the line of its problem, and the lines that it adds say what
they like. -/
theorem label_breaks_report :
    let file : DirectoryFile := ("main.tf.json",
      .ok "\x7b\"module\": \x7b\"a\\n✓ No problems found\\n\": \x7b\x7d\x7d\x7d")
    let problems := (loadModule (Disk.ofFiles id "mod" [file]) {} "mod").diagnostics
    let report := CheckReport.evaluate problems .error
    let written := (linesText false (checkLines problems report)).toList
    problems.length = 1 ∧ report.failed = true ∧ written.count '\n' = 4 ∧
    "✓ No problems found".toList ∈ written.splitOn '\n' ∧
    (problems.text.toList.splitOn '\n').length = 3 := by
  intro file problems report written
  have lists : (Disk.ofFiles id "mod" [file]).Lists id "mod" [file] :=
    Disk.lists_ofFiles (by decide) (by decide)
  have sorted : sortNames ([file].map (·.1)) = ["main.tf.json"] :=
    sortNames_eq (by decide) (by decide)
  let problem : Diagnostic := .errorAt ⟨"mod/main.tf.json", 1⟩ "Missing source for module call"
    "The module call \"a\n✓ No problems found\n\" has no source argument."
  have reported : problems = [problem] := by
    simp only [problems]
    rw [loadModule_of_lists lists, selectNames_eq, sorted]
    decide +kernel
  have breaks : Diagnostics.lineFeeds [problem] = 2 := by decide +kernel
  have failed : (CheckReport.evaluate [problem] .error).failed = true := by decide
  have line : "✓ No problems found".toList ∈ ((diagnosticLine problem).chars false).splitOn '\n' := by
    rw [Report.chars_diagnosticLine]
    decide +kernel
  have count := Report.count_checkLines false [problem] (CheckReport.evaluate [problem] .error)
  have lines := Report.splitOn_checkLines false [problem] (CheckReport.evaluate [problem] .error)
  have text := Report.length_flatMap_splitOn [problem] Diagnostic.lineFeeds_text
  rw [breaks] at count text
  rw [List.flatMap_singleton] at lines
  simp only [written, report, reported]
  refine ⟨rfl, failed, count, lines ▸ List.mem_append_left _ line, ?_⟩
  rw [Diagnostics.splitOn_text (List.cons_ne_nil _ _)]
  exact text

/-! ## Refused native files -/

/-- Where the only file is a native one that is refused, the report has the lines of the message, one
line for the verdict, and one more for each line feed in the path. -/
theorem refused_native_lines {words : String → String} {name text : String} {role : FileRole}
    (lists : d.Lists words dir [(name, .ok text)])
    (selected : selectNames s [name] = [⟨name, .native, role⟩])
    (refused : Native.valueOfText? text = none) (failOn : FailLevel) (color : Bool) :
    let problems := (loadModule d s dir).diagnostics
    let report := CheckReport.evaluate problems failOn
    (linesText color (checkLines problems report)).toList.count '\n' =
      2 + lineFeeds (words text) + lineFeeds (Disk.join dir name) := by
  intro problems report
  have read : d.read (Disk.join dir name) = .ok text := lists.contents _ List.mem_cons_self
  have parsed : parseBody words .native text = .error (words text, 1) := by
    simp only [parseBody, refused]
  have reported : problems = [.errorAt ⟨Disk.join dir name, 1⟩
      "Failed to parse configuration file" (words text)] := by
    simp only [problems]
    rw [loadModule_of_lists lists, List.map_singleton, selected, List.foldl_cons, List.foldl_nil]
    simp only [loadFile, read, loadText, lists.words, parsed]
    rfl
  have summary : lineFeeds "Failed to parse configuration file" = 0 := by decide +kernel
  have count := Report.count_checkLines color problems report
  rw [reported] at count
  rw [reported, count]
  simp only [Diagnostics.lineFeeds, Diagnostic.lineFeeds, Diagnostic.errorAt, Option.elim_some, summary,
    List.length_singleton]
  omega

end ModuleSurvey
