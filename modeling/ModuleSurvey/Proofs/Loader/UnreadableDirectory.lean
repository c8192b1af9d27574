import ModuleSurvey.CommandLine.Run
import ModuleSurvey.FileTree
import ModuleSurvey.Proofs.Loader.Verdicts

/-! # Paths that are no readable directory

A path may lead nowhere, to a directory whose names cannot be read, or to a plain file. In the first
two cases the walk through the directory stops with a fault, which becomes the only problem of an
empty module, so a check fails unless it never does. In a plain file the walk finds no entries and
no fault: the module is empty without a problem, and every check passes.

* `Disk.Refuses`, `fileNames_eq_error_iff` — why the names of a directory cannot be read.
* `Module.IsRefusal` — the empty module with one error.
* `unreadable_directories` — what comes of a path that is no readable directory, up to the exit code.
-/

namespace ModuleSurvey

open CommandLine (Surroundings)

/-! ## Directories that cannot be read -/

def Disk.IsReadableDirectory (d : Disk) (dir : String) : Prop :=
  d.look dir = .ok .directory ∧ ∃ names, d.names dir = .ok names

/-- The path leads nowhere, or to a directory whose names cannot be read. -/
inductive Disk.Refuses (d : Disk) (dir : String) (fault : DiskFault) : Prop
  | missing (nowhere : d.look dir = .error fault)
  | unlisted (isDirectory : d.look dir = .ok .directory) (unread : d.names dir = .error fault)

variable {d : Disk} {dir : String} {fault : DiskFault}

theorem Disk.isFile_or_refuses (unreadable : ¬ d.IsReadableDirectory dir) :
    d.isFile dir = true ∨ ∃ fault, d.Refuses dir fault := by
  cases leads : d.look dir with
  | error fault => exact .inr ⟨fault, .missing leads⟩
  | ok kind =>
    cases kind with
    | file => exact .inl (by rw [isFile, leads])
    | directory =>
      cases listed : d.names dir with
      | error fault => exact .inr ⟨fault, .unlisted leads listed⟩
      | ok names => exact absurd ⟨leads, names, listed⟩ unreadable

theorem Disk.Refuses.isFile_eq (refused : d.Refuses dir fault) : d.isFile dir = false := by
  cases refused with
  | missing nowhere => rw [isFile, nowhere]
  | unlisted isDirectory _ => rw [isFile, isDirectory]

theorem fileNames_eq_error_iff : fileNames d dir = .error fault ↔ d.Refuses dir fault := by
  constructor
  · intro failed
    cases leads : d.look dir with
    | error other =>
      simp only [fileNames, leads, bind, Except.bind] at failed
      cases failed
      exact .missing leads
    | ok kind =>
      cases kind with
      | file => simp [fileNames, leads, bind, Except.bind, pure, Except.pure] at failed
      | directory =>
        cases listed : d.names dir with
        | error other =>
          simp only [fileNames, leads, listed, bind, Except.bind] at failed
          cases failed
          exact .unlisted leads listed
        | ok names =>
          simp [fileNames, leads, listed, bind, Except.bind, pure, Except.pure] at failed
  · rintro (nowhere | ⟨isDirectory, unread⟩)
    · simp only [fileNames, nowhere, bind, Except.bind]
    · simp only [fileNames, isDirectory, unread, bind, Except.bind]

theorem fileNames_of_isFile (isFile : d.isFile dir = true) : fileNames d dir = .ok [] := by
  unfold Disk.isFile at isFile
  split at isFile
  case h_1 leads => simp only [fileNames, leads, bind, Except.bind, pure, Except.pure]
  case h_2 => cases isFile

/-! ## Their modules -/

/-- The module declares nothing, and its one problem is an error. -/
def Module.IsRefusal (m : Module) (dir : String) : Prop :=
  ∃ problem : Diagnostic, problem.severity = .error ∧ m = (Module.new dir).report problem

theorem Module.not_isRefusal_new (dir path : String) : ¬ (Module.new path).IsRefusal dir := by
  rintro ⟨problem, -, same⟩
  cases congrArg Module.diagnostics same

variable {s : LoaderSettings}

theorem loadModule_of_refuses (refused : d.Refuses dir fault) (s : LoaderSettings) :
    loadModule d s dir = (Module.new dir).report (directoryProblem dir fault) := by
  rw [loadModule, fileNames_eq_error_iff.2 refused]

theorem loadModule_of_isFile (isFile : d.isFile dir = true) (s : LoaderSettings) :
    loadModule d s dir = Module.new dir := by
  rw [loadModule, fileNames_of_isFile isFile]
  simp [selectNames]

theorem isModuleDir_of_unreadable (unreadable : ¬ d.IsReadableDirectory dir) (s : LoaderSettings) :
    isModuleDir d s dir = false := by
  obtain isFile | ⟨fault, refused⟩ := Disk.isFile_or_refuses unreadable
  · rw [isModuleDir, fileNames_of_isFile isFile]
    simp [selectNames]
  · rw [isModuleDir, fileNames_eq_error_iff.2 refused]

/-! ## Checks -/

/-- A check that has its settings fails iff the module has a problem and its level is not the one that
lets everything pass. -/
theorem CommandLine.code_check {w : Surroundings} {path : Option String} {settings : Settings}
    (loaded : Settings.load d w.env path = .ok settings) (failOn : Option FailLevel) :
    (check d w path dir failOn).code =
      if (loadModule d settings.loader dir).diagnostics.isEmpty = true ∨
        failOn.getD settings.check.failOn = .never then 0 else 1 := by
  have only := onlyErrors_loadModule d settings.loader dir
  simp only [check, loaded, only.evaluate_eq]
  cases (loadModule d settings.loader dir).diagnostics.isEmpty <;>
    cases failOn.getD settings.check.failOn <;> simp

/-! ## The law -/

/-- What is no readable directory is no directory of a module either. It is loaded as the empty module,
with the fault as its only problem where it is missing or cannot be read, and without any problem
where it is a plain file. So a check that has its settings fails on the former, unless its level is
the one that lets everything pass, and passes on the latter at every level. -/
theorem unreadable_directories (d : Disk) (dir : String)
    (unreadable : ¬ d.IsReadableDirectory dir) :
    (∀ s, isModuleDir d s dir = false ∧
      ((loadModule d s dir).IsRefusal dir ↔ d.isFile dir = false)) ∧
    (d.isFile dir = false → ∃ fault, d.Refuses dir fault ∧ ∀ s,
      loadModule d s dir = (Module.new dir).report (directoryProblem dir fault)) ∧
    (d.isFile dir = true → ∀ s, loadModule d s dir = Module.new dir) ∧
    ∀ (w : Surroundings) (path : Option String) (settings : Settings) (failOn : Option FailLevel),
      Settings.load d w.env path = .ok settings →
      (CommandLine.check d w path dir failOn).code =
        if d.isFile dir = true ∨ failOn.getD settings.check.failOn = .never then 0 else 1 := by
  have noModule := isModuleDir_of_unreadable unreadable
  obtain isFile | ⟨fault, refused⟩ := Disk.isFile_or_refuses unreadable
  · have empty := loadModule_of_isFile isFile
    refine ⟨fun s => ⟨noModule s, ?_⟩, ?_, fun _ => empty, ?_⟩
    · simp [empty s, isFile, Module.not_isRefusal_new]
    · simp [isFile]
    · intro w path settings failOn loaded
      rw [CommandLine.code_check loaded, empty]
      simp [isFile, Module.new]
  · have reported := loadModule_of_refuses refused
    have noFile := refused.isFile_eq
    refine ⟨fun s => ⟨noModule s, ?_⟩, ?_, ?_, ?_⟩
    · exact iff_of_true ⟨_, rfl, reported s⟩ noFile
    · exact fun _ => ⟨fault, refused, reported⟩
    · simp [noFile]
    · intro w path settings failOn loaded
      rw [CommandLine.code_check loaded, reported]
      simp [noFile, Module.report]

def singleFileTree : FileTree := ⟨[(["main.tf.json"], .file (some "oops"))]⟩

/-- A missing path fails the check. Where the path of the file itself is given, the check passes. -/
theorem singleFileTree_checks :
    let d := singleFileTree.disk []
    let w : Surroundings := ⟨∅, false⟩
    (loadModule d {} "mod").IsRefusal "mod" ∧
    (CommandLine.check d w none "mod" (some .error)).code = 1 ∧
    (CommandLine.check d w none "main.tf.json/x" none).code = 1 ∧
    loadModule d {} "main.tf.json" = Module.new "main.tf.json" ∧
    (CommandLine.check d w none "main.tf.json" (some .warning)).code = 0 := by
  intro d w
  have loaded : Settings.load d w.env none = .ok .default := by decide +kernel
  have unreadable {dir : String} (noDirectory : d.look dir ≠ .ok .directory) :
      ¬ d.IsReadableDirectory dir := fun readable => noDirectory readable.1
  obtain ⟨shapes, -, -, codes⟩ := unreadable_directories d "mod" (unreadable (by decide))
  obtain ⟨-, -, -, codesBelow⟩ :=
    unreadable_directories d "main.tf.json/x" (unreadable (by decide +kernel))
  obtain ⟨-, -, empty, codesFile⟩ :=
    unreadable_directories d "main.tf.json" (unreadable (by decide +kernel))
  refine ⟨(shapes {}).2.2 (by decide), ?_, ?_, empty (by decide +kernel) {}, ?_⟩
  · exact (codes w none _ (some .error) loaded).trans (by decide)
  · exact (codesBelow w none _ none loaded).trans (by decide +kernel)
  · exact (codesFile w none _ (some .warning) loaded).trans (by decide +kernel)

/-- That every path but a readable directory fails the check is false: a plain file is loaded as a
module without problems. -/
theorem plain_file_not_refused :
    ¬ ∀ (d : Disk) (s : LoaderSettings) (dir : String), ¬ d.IsReadableDirectory dir →
      (loadModule d s dir).IsRefusal dir := by
  intro refused
  let d := singleFileTree.disk []
  have isFile : d.isFile "main.tf.json" = true := by decide +kernel
  have unreadable : ¬ d.IsReadableDirectory "main.tf.json" :=
    fun readable => absurd readable.1 (by decide +kernel)
  have isRefusal := refused d {} "main.tf.json" unreadable
  rw [loadModule_of_isFile isFile] at isRefusal
  exact Module.not_isRefusal_new _ _ isRefusal

end ModuleSurvey
