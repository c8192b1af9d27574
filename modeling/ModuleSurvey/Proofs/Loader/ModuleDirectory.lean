import ModuleSurvey.Proofs.Loader.Directory

/-! # Module directories

Whether a directory is one of a module is told from the files that are selected for loading, so the
setting that leaves out override files has a say in it.

* `Disk.HoldsConfig` — a configuration file of either role that is not passed over.
* `isModuleDir_eq_true_iff` — what is asked of such a file.
* `module_directory` — which directories are taken for one of a module.
-/

namespace ModuleSurvey

/-- A regular file of a directory that is not passed over, and is a primary or an override file by
its name. -/
structure Disk.HoldsConfig (d : Disk) (s : LoaderSettings) (dir name : String) : Prop where
  listed : ∃ names, d.names dir = .ok names ∧ name ∈ names
  isFile : d.isFile (join dir name) = true
  shown : s.ignores name = false
  named : isConfigName name = true

variable {d : Disk} {s : LoaderSettings} {dir : String} {names : List String}

theorem fileNames_of_directory (isDirectory : d.look dir = .ok .directory)
    (listed : d.names dir = .ok names) :
    fileNames d dir = .ok (names.filter fun name => d.isFile (Disk.join dir name)) := by
  simp only [fileNames, isDirectory, listed, bind, Except.bind, pure, Except.pure]

theorem selectNames_ne_nil_iff :
    selectNames s names ≠ [] ↔
      ∃ name ∈ names, s.ignores name = false ∧ isConfigName name = true ∧
        (isOverrideName name = true → s.includeOverrides = true) := by
  constructor
  · intro someSelected
    obtain ⟨file, selected⟩ := List.exists_mem_of_ne_nil _ someSelected
    obtain ⟨member, named, shown, included⟩ := mem_selectNames_iff.1 selected
    refine ⟨file.name, member, shown, ?_, ?_⟩
    · rw [← ConfigName.isSome_ofName?, named, Option.isSome_some]
    · exact fun amends => included ((ConfigName.role_of_ofName? named).2 amends)
  · rintro ⟨name, member, shown, isConfig, included⟩
    rw [← ConfigName.isSome_ofName?] at isConfig
    obtain ⟨c, named⟩ := Option.isSome_iff_exists.1 isConfig
    have selected : ⟨name, c.format, c.role⟩ ∈ selectNames s names :=
      mem_selectNames_iff.2 ⟨member, named, shown,
        fun amends => included ((ConfigName.role_of_ofName? named).1 amends)⟩
    exact List.ne_nil_of_mem selected

theorem isModuleDir_eq_true_iff (isDirectory : d.look dir = .ok .directory)
    (listed : d.names dir = .ok names) :
    isModuleDir d s dir = true ↔
      ∃ name, d.HoldsConfig s dir name ∧
        (isOverrideName name = true → s.includeOverrides = true) := by
  have selects : isModuleDir d s dir = true ↔
      selectNames s (names.filter fun name => d.isFile (Disk.join dir name)) ≠ [] := by
    simp [isModuleDir, fileNames_of_directory isDirectory listed]
  rw [selects, selectNames_ne_nil_iff]
  constructor
  · rintro ⟨name, member, shown, named, included⟩
    obtain ⟨member, isFile⟩ := List.mem_filter.1 member
    exact ⟨name, ⟨⟨names, listed, member⟩, isFile, shown, named⟩, included⟩
  · rintro ⟨name, ⟨⟨others, listedToo, member⟩, isFile, shown, named⟩, included⟩
    obtain rfl : names = others := Except.ok.inj (listed.symm.trans listedToo)
    exact ⟨name, List.mem_filter.2 ⟨member, isFile⟩, shown, named, included⟩

/-- What is no directory of a module is loaded as the empty module. -/
theorem loadModule_of_not_isModuleDir (isDirectory : d.look dir = .ok .directory)
    (listed : d.names dir = .ok names) (notModule : isModuleDir d s dir = false) :
    loadModule d s dir = Module.new dir := by
  have files := fileNames_of_directory isDirectory listed
  have nothing : selectNames s (names.filter fun name => d.isFile (Disk.join dir name)) = [] := by
    simpa [isModuleDir, files] using notModule
  rw [loadModule, files]
  simp only [nothing, List.foldl_nil]

/-! ## The law -/

/-- Which readable directories are taken for one of a module: those that hold a configuration file
that is not passed over, but where the settings leave out override files, a primary one. So a
directory with such a file is missed iff override files are left out and it holds no primary one.
Nothing is loaded from a directory that is missed. -/
theorem module_directory (d : Disk) (s : LoaderSettings) (dir : String)
    (isDirectory : d.look dir = .ok .directory) (readable : ∃ names, d.names dir = .ok names) :
    (isModuleDir d s dir = true ↔
      ∃ name, d.HoldsConfig s dir name ∧
        (isOverrideName name = true → s.includeOverrides = true)) ∧
    ((isModuleDir d s dir = true ↔ ∃ name, d.HoldsConfig s dir name) ↔
      ¬ (s.includeOverrides = false ∧ (∃ name, d.HoldsConfig s dir name) ∧
        ∀ name, d.HoldsConfig s dir name → isOverrideName name = true)) ∧
    (isModuleDir d s dir = false → loadModule d s dir = Module.new dir) := by
  obtain ⟨names, listed⟩ := readable
  have told := isModuleDir_eq_true_iff (s := s) isDirectory listed
  refine ⟨told, ?_, loadModule_of_not_isModuleDir isDirectory listed⟩
  rw [told]
  constructor
  · rintro agrees ⟨leftOut, someHeld, allAmend⟩
    obtain ⟨name, held, included⟩ := agrees.2 someHeld
    rw [included (allAmend name held)] at leftOut
    cases leftOut
  · intro notMissed
    refine ⟨fun ⟨name, held, _⟩ => ⟨name, held⟩, fun ⟨name, held⟩ => ?_⟩
    -- If no file that is held is read, all of them are override files, and these are left out.
    by_contra noneRead
    have unread : ∀ other, d.HoldsConfig s dir other →
        isOverrideName other = true ∧ s.includeOverrides = false := by
      intro other heldToo
      by_contra isRead
      exact noneRead ⟨other, heldToo, by grind⟩
    exact notMissed ⟨(unread name held).2, ⟨name, held⟩, fun other held => (unread other held).1⟩

theorem mixedFiles_module_directory :
    let d := Disk.ofFiles id "mod" mixedFiles
    isModuleDir d narrowSettings "mod" = true ∧
    (isModuleDir d narrowSettings "mod" = true ↔ ∃ name, d.HoldsConfig narrowSettings "mod" name) := by
  intro d
  obtain ⟨told, agrees, -⟩ := module_directory d narrowSettings "mod" rfl ⟨mixedFiles.map (·.1), rfl⟩
  have held : d.HoldsConfig narrowSettings "mod" "variables.tf.json" :=
    ⟨⟨mixedFiles.map (·.1), rfl, by decide⟩, by decide, by decide, by decide⟩
  have primary : isOverrideName "variables.tf.json" = false := by decide
  refine ⟨told.2 ⟨_, held, by simp [primary]⟩, agrees.2 ?_⟩
  rintro ⟨-, -, allAmend⟩
  exact Bool.false_ne_true (primary.symm.trans (allAmend _ held))

/-- Where override files are left out, a directory with nothing but an override file is missed,
though the file is not passed over. -/
theorem override_directory_missed :
    let d := Disk.ofFiles id "mod" [("override.tf", .ok "")]
    let s : LoaderSettings := ⟨false, []⟩
    d.look "mod" = .ok .directory ∧ d.names "mod" = .ok ["override.tf"] ∧
    d.HoldsConfig s "mod" "override.tf" ∧
    ¬ (isModuleDir d s "mod" = true ↔ ∃ name, d.HoldsConfig s "mod" name) := by
  intro d s
  have held : d.HoldsConfig s "mod" "override.tf" :=
    ⟨⟨["override.tf"], rfl, by decide⟩, by decide, by decide, by decide⟩
  refine ⟨rfl, rfl, held, fun agrees => ?_⟩
  obtain ⟨name, isHeld, included⟩ := (isModuleDir_eq_true_iff rfl rfl).1 (agrees.2 ⟨_, held⟩)
  obtain ⟨names, listed, member⟩ := isHeld.listed
  obtain rfl : ["override.tf"] = names := Except.ok.inj listed
  obtain rfl : name = "override.tf" := List.mem_singleton.1 member
  exact Bool.false_ne_true (included (by decide))

end ModuleSurvey
