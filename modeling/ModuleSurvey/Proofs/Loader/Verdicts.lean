import ModuleSurvey.Proofs.Loader.Positions
import ModuleSurvey.Report.Problems

/-! # Verdicts

Whatever goes wrong with a directory is an error: neither the files nor their statements ever warn.
So all who judge a module come to the same verdict, however strict they are, and all count every
problem. And nothing that was reported is taken back or overtaken, so the first problem is the one
that was met first.

* `Diagnostics.OnlyErrors` — problems that are errors, and how these are judged and counted.
* `loadFile_reports`, `foldl_loadFile_reports` — what files report.
* `Loading`, `Loading.diagnostics_prefix` — the modules that loading goes through.
* `verdicts_agree` — the module of a directory.
-/

namespace ModuleSurvey

open Json (Value)
open Report (CheckReport)

/-! ## Problems that are errors -/

def Diagnostics.OnlyErrors (ds : Diagnostics) : Prop := ∀ problem ∈ ds, problem.severity = .error

namespace Diagnostics.OnlyErrors

variable {ds more : Diagnostics}

theorem nil : OnlyErrors [] := nofun

theorem append (first : ds.OnlyErrors) (later : more.OnlyErrors) : (ds ++ more).OnlyErrors :=
  List.forall_mem_append.2 ⟨first, later⟩

theorem isError_eq_true (only : ds.OnlyErrors) {problem : Diagnostic} (member : problem ∈ ds) :
    problem.isError = true :=
  decide_eq_true (only problem member)

theorem errors_eq (only : ds.OnlyErrors) : ds.errors = ds :=
  List.filter_eq_self.2 fun _ member => only.isError_eq_true member

theorem warnings_eq (only : ds.OnlyErrors) : ds.warnings = [] :=
  List.filter_eq_nil_iff.2 fun problem member => by simp [Diagnostic.isWarning, only problem member]

theorem hasErrors_eq (only : ds.OnlyErrors) : ds.hasErrors = !ds.isEmpty := by
  cases ds with
  | nil => rfl
  | cons first more =>
    have isError := only.isError_eq_true List.mem_cons_self
    simp only [hasErrors, List.any_cons, isError, Bool.true_or, List.isEmpty_cons, Bool.not_false]

/-- The failure of errors is that of all of them, and its text that of the first. -/
theorem failure?_eq (only : ds.OnlyErrors) :
    ds.failure? = ds.head?.map fun first => ⟨ds.length, first.text⟩ := by
  unfold failure?
  rw [only.errors_eq]
  cases ds with
  | nil => rfl
  | cons first more => rw [List.head?_cons, Option.map_some, List.length_cons, Nat.add_comm]

theorem evaluate_eq (only : ds.OnlyErrors) (failOn : FailLevel) :
    CheckReport.evaluate ds failOn = ⟨ds.length, 0, failOn ≠ .never && !ds.isEmpty⟩ := by
  have anyError : decide (0 < ds.length) = !ds.isEmpty := by cases ds <;> rfl
  unfold CheckReport.evaluate
  rw [only.errors_eq, only.warnings_eq]
  cases failOn <;> simp [anyError]

end Diagnostics.OnlyErrors

/-! ## What files report -/

open Diagnostics (OnlyErrors)

theorem Module.onlyErrors_reportsAll (role : FileRole) (m : Module) (statements : List Statement) :
    OnlyErrors (m.reportsAll role statements) := by
  intro d reported
  obtain ⟨_, -, _, rfl⟩ := exists_problem_of_mem_reportsAll reported
  rfl

variable {d : Disk} {dir text : String} {s : LoaderSettings} {file : ConfigFile}

def ConfigFile.statements (file : ConfigFile) (dir text : String) (body : Value) : List Statement :=
  (Statement.ofBody body (.scan (Disk.join dir file.name) file.format text)).1

theorem loadFile_of_parsed {body : Value} (read : d.read (Disk.join dir file.name) = .ok text)
    (parsed : parseBody d.nativeFault file.format text = .ok body) (m : Module) :
    loadFile d dir m file = (file.statements dir text body).foldl (Module.declare file.role) m := by
  simp only [loadFile, read, loadText, parsed]
  rfl

theorem loadFile_reports (d : Disk) (dir : String) (m : Module) (file : ConfigFile) :
    ∃ more, (loadFile d dir m file).diagnostics = m.diagnostics ++ more ∧ OnlyErrors more := by
  have single (pos : SourcePos) (summary detail : String) :
      OnlyErrors [.errorAt pos summary detail] :=
    List.forall_mem_singleton.2 rfl
  cases read : d.read (Disk.join dir file.name) with
  | error fault =>
    simp only [loadFile, read]
    exact ⟨_, rfl, single _ _ _⟩
  | ok text =>
    cases parsed : parseBody d.nativeFault file.format text with
    | error refusal =>
      simp only [loadFile, read, loadText, parsed]
      exact ⟨_, rfl, single _ _ _⟩
    | ok body =>
      rw [loadFile_of_parsed read parsed, Module.diagnostics_foldl_declare]
      exact ⟨_, rfl, Module.onlyErrors_reportsAll _ _ _⟩

theorem foldl_loadFile_reports (d : Disk) (dir : String) (files : List ConfigFile) (m : Module) :
    ∃ more, (files.foldl (loadFile d dir) m).diagnostics = m.diagnostics ++ more ∧
      OnlyErrors more := by
  induction files generalizing m with
  | nil => exact ⟨[], (List.append_nil _).symm, .nil⟩
  | cons file files inductionHypothesis =>
    obtain ⟨first, reported, onlyFirst⟩ := loadFile_reports d dir m file
    obtain ⟨later, reportedLater, onlyLater⟩ := inductionHypothesis (loadFile d dir m file)
    refine ⟨first ++ later, ?_, onlyFirst.append onlyLater⟩
    rw [List.foldl_cons, reportedLater, reported, List.append_assoc]

theorem onlyErrors_loadModule (d : Disk) (s : LoaderSettings) (dir : String) :
    OnlyErrors (loadModule d s dir).diagnostics := by
  unfold loadModule
  cases fileNames d dir with
  | error fault => exact List.forall_mem_singleton.2 rfl
  | ok names =>
    obtain ⟨more, reported, only⟩ :=
      foldl_loadFile_reports d dir (selectNames s names) (Module.new dir)
    rw [reported]
    exact OnlyErrors.append .nil only

/-! ## On the way to a module -/

/-- The modules that loading a directory goes through: that of the first files, and that of some
statements more of the file behind them. -/
inductive Loading (d : Disk) (s : LoaderSettings) (dir : String) : Module → Prop
  | files {names : List String} {before after : List ConfigFile}
      (listed : fileNames d dir = .ok names) (selected : selectNames s names = before ++ after) :
      Loading d s dir (before.foldl (loadFile d dir) (Module.new dir))
  | statements {names : List String} {before after : List ConfigFile} {file : ConfigFile}
      {text : String} {body : Value} {done left : List Statement}
      (listed : fileNames d dir = .ok names)
      (selected : selectNames s names = before ++ file :: after)
      (read : d.read (Disk.join dir file.name) = .ok text)
      (parsed : parseBody d.nativeFault file.format text = .ok body)
      (split : file.statements dir text body = done ++ left) :
      Loading d s dir
        (done.foldl (Module.declare file.role) (before.foldl (loadFile d dir) (Module.new dir)))

/-- What was reported on the way is what the directory reports first. -/
theorem Loading.diagnostics_prefix {m : Module} (reached : Loading d s dir m) :
    m.diagnostics <+: (loadModule d s dir).diagnostics := by
  have behind (files : List ConfigFile) (m : Module) :
      m.diagnostics <+: (files.foldl (loadFile d dir) m).diagnostics := by
    obtain ⟨more, reported, -⟩ := foldl_loadFile_reports d dir files m
    exact ⟨more, reported.symm⟩
  cases reached with
  | @files _ _ after listed selected =>
    simp only [loadModule, listed, selected, List.foldl_append]
    exact behind after _
  | @statements _ before after file _ _ done left listed selected read parsed split =>
    simp only [loadModule, listed, selected, List.foldl_append, List.foldl_cons]
    refine List.IsPrefix.trans ?_ (behind after _)
    rw [loadFile_of_parsed read parsed, split, List.foldl_append,
      Module.diagnostics_foldl_declare _ left]
    exact List.prefix_append _ _

/-! ## The law -/

/-- Whether a loaded module has problems at all is what every check that can fail says, whatever its
level, and what the module and its failure say. Each problem is counted as an error and none as a
warning, and the failure counts all of them and gives the first. What is first is what was first
reported, however far loading had come. -/
theorem verdicts_agree (d : Disk) (s : LoaderSettings) (dir : String) :
    let m := loadModule d s dir
    let problems := m.diagnostics
    (CheckReport.evaluate problems .error).failed = !problems.isEmpty ∧
    (CheckReport.evaluate problems .warning).failed = !problems.isEmpty ∧
    m.hasErrors = !problems.isEmpty ∧
    problems.failure?.isSome = !problems.isEmpty ∧
    (∀ failOn, (CheckReport.evaluate problems failOn).errors = problems.length ∧
      (CheckReport.evaluate problems failOn).warnings = 0) ∧
    problems.failure? = problems.head?.map (fun first => ⟨problems.length, first.text⟩) ∧
    ∀ reached first, Loading d s dir reached → reached.diagnostics.head? = some first →
      problems.failure? = some ⟨problems.length, first.text⟩ := by
  intro m problems
  have only : problems.OnlyErrors := onlyErrors_loadModule d s dir
  have failure := only.failure?_eq
  refine ⟨?_, ?_, only.hasErrors_eq, ?_, fun failOn => ?_, failure, ?_⟩
  · rw [only.evaluate_eq]
    rfl
  · rw [only.evaluate_eq]
    rfl
  · rw [failure]
    cases problems <;> rfl
  · rw [only.evaluate_eq]
    exact ⟨rfl, rfl⟩
  · intro reached first loading isFirst
    obtain ⟨later, whole⟩ : reached.diagnostics <+: problems := loading.diagnostics_prefix
    have sameFirst : problems.head? = some first := by
      rw [← whole, List.head?_append, isFirst, Option.some_or]
    rw [failure, sameFirst, Option.map_some]

/-- The directory is judged, and the first of its four problems is that of the first file. -/
theorem faultyFiles_verdicts :
    let m := loadModule (Disk.ofFiles id "mod" faultyFiles) {} "mod"
    let problems := m.diagnostics
    (CheckReport.evaluate problems .error).failed = true ∧
    (CheckReport.evaluate problems .warning).failed = true ∧ m.hasErrors = true ∧
    (CheckReport.evaluate problems .never).errors = 4 ∧
    problems.failure? = some ⟨4, "Error: Failed to parse configuration file; " ++
      "key must be a string at line 2 column 1 (mod/a.tf.json:2)"⟩ := by
  intro m problems
  have lists : (Disk.ofFiles id "mod" faultyFiles).Lists id "mod" faultyFiles :=
    Disk.lists_ofFiles (by decide) (by decide)
  have selected : selectNames {} (faultyFiles.map (·.1)) = [⟨"a.tf.json", .json, .primary⟩] ++
      [⟨"c.tf", .native, .primary⟩, ⟨"main.tf.json", .json, .primary⟩,
        ⟨"b_override.tf.json", .json, .override⟩] := by
    rw [selectNames_eq, sortNames_faultyFiles]
    decide +kernel
  have count : problems.length = 4 := by
    simp only [problems, m]
    rw [loadModule_of_lists lists, selected]
    decide +kernel
  have some_problem : problems.isEmpty = false := by
    rw [List.isEmpty_eq_false_iff, ← List.length_pos_iff, count]
    decide
  obtain ⟨onError, onWarning, ofModule, -, counted, -, met⟩ :=
    verdicts_agree (Disk.ofFiles id "mod" faultyFiles) {} "mod"
  rw [some_problem] at onError onWarning ofModule
  refine ⟨onError, onWarning, ofModule, (counted .never).1.trans count, ?_⟩
  have first := met _ (.errorAt ⟨"mod/a.tf.json", 2⟩ "Failed to parse configuration file"
    "key must be a string at line 2 column 1") (.files lists.names selected) (by decide +kernel)
  rw [count] at first
  exact first.trans (by decide)

end ModuleSurvey
