import ModuleSurvey.Proofs.Loader.Directory
import ModuleSurvey.Proofs.Module.Reports

/-! # Broken files

A file that cannot be read, or whose text is refused, has one problem reported and does nothing
else. And since no problem that was reported is ever looked at, the files behind it do what they do
without it: the module of a directory is the one of its other files, with one problem more, between
the problems of the files before and those of the files behind.

* `FileFormat.accepts`, `isSound` — texts that can be parsed, and files that can be read and parsed.
* `loadFile_of_broken`, `loadFile_of_sound` — what either kind of file does.
* `foldl_loadFile_withDiagnostics` — problems reported before are of no concern.
* `loadModule_of_broken`, `loadModule_of_sound` — one broken file, and all of them.
* `broken_file_isolated` — both together.
-/

namespace ModuleSurvey

def FileFormat.accepts (format : FileFormat) (text : String) : Bool :=
  match format with
  | .native => (Native.valueOfText? text).isSome
  | .json => (Json.Value.parse text).isOk

theorem isOk_parseBody (words : String → String) (format : FileFormat) (text : String) :
    (parseBody words format text).isOk = format.accepts text := by
  unfold parseBody FileFormat.accepts
  cases format with
  | native => cases Native.valueOfText? text <;> rfl
  | json => cases Json.Value.parse text <;> rfl

/-- Whether a file can be read, and parsed in the format that its name stands for. -/
def isSound (file : DirectoryFile) : Bool :=
  match file.2 with
  | .error _ => false
  | .ok text => (ConfigName.ofName? file.1).all fun named => named.format.accepts text

variable {d other : Disk} {words : String → String} {dir : String}
  {files others : List DirectoryFile} {s : LoaderSettings} {file : ConfigFile}
  {content : Except DiskFault String}

/-! ## One file -/

theorem loadFile_of_broken (read : d.read (Disk.join dir file.name) = content)
    (named : ConfigName.ofName? file.name = some ⟨file.format, file.role⟩)
    (broken : isSound (file.name, content) = false) :
    ∃ problem : Diagnostic, problem.isError = true ∧
      problem.pos.map (·.filename) = some (Disk.join dir file.name) ∧
      ∀ m, loadFile d dir m file = m.report problem := by
  simp only [loadFile, read]
  cases content with
  | error fault => exact ⟨_, rfl, rfl, fun m => rfl⟩
  | ok text =>
    simp only [isSound, named, Option.all_some, ← isOk_parseBody d.nativeFault] at broken
    simp only [loadText]
    cases parsed : parseBody d.nativeFault file.format text with
    | ok body => simp [parsed, Except.isOk, Except.toBool] at broken
    | error refusal => exact ⟨_, rfl, rfl, fun m => rfl⟩

theorem loadFile_of_sound (read : d.read (Disk.join dir file.name) = content)
    (named : ConfigName.ofName? file.name = some ⟨file.format, file.role⟩)
    (sound : isSound (file.name, content) = true) :
    ∃ statements : List Statement,
      ∀ m, loadFile d dir m file = statements.foldl (Module.declare file.role) m := by
  simp only [loadFile, read]
  cases content with
  | error fault => cases sound
  | ok text =>
    simp only [isSound, named, Option.all_some, ← isOk_parseBody d.nativeFault] at sound
    simp only [loadText]
    cases parsed : parseBody d.nativeFault file.format text with
    | ok body => exact ⟨_, fun m => rfl⟩
    | error refusal => simp [parsed, Except.isOk, Except.toBool] at sound

/-- What a file reports is put behind what was reported before, which changes nothing else. -/
theorem loadFile_withDiagnostics (d : Disk) (dir : String) (m : Module) (file : ConfigFile)
    (named : ConfigName.ofName? file.name = some ⟨file.format, file.role⟩) :
    ∃ more, ∀ ds, loadFile d dir (m.withDiagnostics ds) file =
      (loadFile d dir m file).withDiagnostics (ds ++ more) := by
  cases sound : isSound (file.name, d.read (Disk.join dir file.name)) with
  | false =>
    obtain ⟨problem, -, -, reports⟩ := loadFile_of_broken rfl named sound
    refine ⟨[problem], fun ds => ?_⟩
    rw [reports, reports]
    rfl
  | true =>
    obtain ⟨statements, declares⟩ := loadFile_of_sound rfl named sound
    refine ⟨m.reportsAll file.role statements, fun ds => ?_⟩
    rw [declares, declares, Module.foldl_declare_withDiagnostics]

/-! ## One file after the other -/

def AreNamed (selected : List ConfigFile) : Prop :=
  ∀ file ∈ selected, ConfigName.ofName? file.name = some ⟨file.format, file.role⟩

theorem areNamed_selectNames (s : LoaderSettings) (names : List String) :
    AreNamed (selectNames s names) :=
  fun _ selected => (mem_selectNames_iff.1 selected).2.1

theorem foldl_loadFile_withDiagnostics (d : Disk) (dir : String) {selected : List ConfigFile}
    (named : AreNamed selected) (m : Module) :
    ∃ more, ∀ ds, selected.foldl (loadFile d dir) (m.withDiagnostics ds) =
      (selected.foldl (loadFile d dir) m).withDiagnostics (ds ++ more) := by
  induction selected generalizing m with
  | nil => exact ⟨[], fun ds => by rw [List.append_nil]; rfl⟩
  | cons file selected inductionHypothesis =>
    obtain ⟨namedFile, namedRest⟩ := List.forall_mem_cons.1 named
    obtain ⟨first, ofFile⟩ := loadFile_withDiagnostics d dir m file namedFile
    obtain ⟨rest, ofRest⟩ := inductionHypothesis namedRest (loadFile d dir m file)
    refine ⟨first ++ rest, fun ds => ?_⟩
    rw [List.foldl_cons, ofFile, ofRest, List.append_assoc]
    rfl

theorem diagnostics_foldl_loadFile {selected : List ConfigFile} {m : Module} {more : Diagnostics}
    (shifts : ∀ ds, selected.foldl (loadFile d dir) (m.withDiagnostics ds) =
      (selected.foldl (loadFile d dir) m).withDiagnostics (ds ++ more)) :
    (selected.foldl (loadFile d dir) m).diagnostics = m.diagnostics ++ more :=
  congrArg Module.diagnostics (shifts m.diagnostics)

theorem foldl_loadFile_of_broken {before after : List ConfigFile} (m : Module)
    (named : AreNamed (before ++ file :: after))
    (read : d.read (Disk.join dir file.name) = content)
    (broken : isSound (file.name, content) = false) :
    ∃ problem : Diagnostic, problem.isError = true ∧
      problem.pos.map (·.filename) = some (Disk.join dir file.name) ∧
      ∃ later,
        let earlier := (before.foldl (loadFile d dir) m).diagnostics
        let without := (before ++ after).foldl (loadFile d dir) m
        without.diagnostics = earlier ++ later ∧
        (before ++ file :: after).foldl (loadFile d dir) m =
          without.withDiagnostics (earlier ++ problem :: later) := by
  have namedFile := named file (List.mem_append_right _ List.mem_cons_self)
  have namedAfter : AreNamed after := fun other member =>
    named other (List.mem_append_right _ (List.mem_cons_of_mem _ member))
  obtain ⟨problem, isError, place, reports⟩ := loadFile_of_broken read namedFile broken
  obtain ⟨later, shifts⟩ :=
    foldl_loadFile_withDiagnostics d dir namedAfter (before.foldl (loadFile d dir) m)
  refine ⟨problem, isError, place, later, ?_, ?_⟩
  · rw [List.foldl_append]
    exact diagnostics_foldl_loadFile shifts
  · have reported : ∀ m : Module,
      m.report problem = m.withDiagnostics (m.diagnostics ++ [problem]) := fun _ => rfl
    rw [List.foldl_append, List.foldl_append, List.foldl_cons, reports, reported, shifts,
      List.append_assoc]
    rfl

/-- With any number of broken files among others the module is that of the other ones, with one
problem more for each broken file. -/
theorem foldl_loadFile_filter (d : Disk) (dir : String) {selected : List ConfigFile}
    (named : AreNamed selected) (m : Module) (ds : Diagnostics) (part : m.diagnostics.Sublist ds) :
    let sound (file : ConfigFile) := isSound (file.name, d.read (Disk.join dir file.name))
    let without := (selected.filter sound).foldl (loadFile d dir) m
    ∃ all, selected.foldl (loadFile d dir) (m.withDiagnostics ds) = without.withDiagnostics all ∧
      without.diagnostics.Sublist all ∧
      all.length + m.diagnostics.length =
        without.diagnostics.length + ds.length + selected.countP fun file => !sound file := by
  intro sound
  -- The problems of the one run may be any that hold those of the other one, for a broken file adds
  -- to the former only.
  induction selected generalizing m ds with
  | nil => exact ⟨ds, rfl, part, by simp [Nat.add_comm]⟩
  | cons file selected inductionHypothesis =>
    obtain ⟨namedFile, namedRest⟩ := List.forall_mem_cons.1 named
    have rest := inductionHypothesis namedRest
    cases isItSound : sound file with
    | true =>
      obtain ⟨more, shifts⟩ := loadFile_withDiagnostics d dir m file namedFile
      have reported : (loadFile d dir m file).diagnostics = m.diagnostics ++ more :=
        congrArg Module.diagnostics (shifts m.diagnostics)
      obtain ⟨all, loaded, sublist, lengths⟩ := rest (loadFile d dir m file) (ds ++ more)
        (reported ▸ part.append_right more)
      rw [List.filter_cons_of_pos isItSound, List.foldl_cons, List.foldl_cons, shifts]
      refine ⟨all, loaded, sublist, ?_⟩
      rw [List.countP_cons_of_neg (by simp [isItSound])]
      simp only [reported, List.length_append] at lengths
      omega
    | false =>
      obtain ⟨problem, -, -, reports⟩ :=
        loadFile_of_broken rfl namedFile isItSound
      obtain ⟨all, loaded, sublist, lengths⟩ := rest m (ds ++ [problem])
        (part.trans (List.sublist_append_left ds [problem]))
      rw [List.filter_cons_of_neg (by simp [isItSound]), List.foldl_cons, reports]
      refine ⟨all, loaded, sublist, ?_⟩
      rw [List.countP_cons_of_pos (by simp [isItSound])]
      simp only [List.length_append, List.length_singleton] at lengths
      omega

/-! ## One broken file, and all of them -/

/-- The module of a directory with a broken file, from that of the others. -/
theorem loadModule_of_broken {without : Disk} {broken : DirectoryFile} {role : FileRole}
    (lists : d.Lists words dir files) (listsOthers : without.Lists words dir others)
    (same : files.Perm (broken :: others)) (isRead : s.reads role broken.1 = true)
    (isBroken : isSound broken = false) :
    ∃ (file : ConfigFile) (before after : List ConfigFile) (problem : Diagnostic)
      (later : Diagnostics),
      let earlier := (before.foldl (loadFile d dir) (Module.new dir)).diagnostics
      file.name = broken.1 ∧
      selectNames s (files.map (·.1)) = before ++ file :: after ∧
      selectNames s (others.map (·.1)) = before ++ after ∧
      problem.isError = true ∧
      problem.pos.map (·.filename) = some (Disk.join dir broken.1) ∧
      (loadModule without s dir).diagnostics = earlier ++ later ∧
      loadModule d s dir =
        (loadModule without s dir).withDiagnostics (earlier ++ problem :: later) := by
  obtain ⟨file, before, after, sameName, selected, selectedOthers⟩ :=
    selectNames_cons isRead (others.map (·.1))
  have selectedHere : selectNames s (files.map (·.1)) = before ++ file :: after := by
    rw [← selected]
    exact selectNames_of_perm s (same.map (·.1))
  have read : d.read (Disk.join dir file.name) = broken.2 := by
    rw [sameName]
    exact lists.contents broken (same.mem_iff.2 List.mem_cons_self)
  have shared : ∀ other ∈ others, isRelevant other.1 = true → other ∈ files :=
    fun other member _ => same.mem_iff.2 (List.mem_cons_of_mem _ member)
  obtain ⟨problem, isError, place, later, reported, loaded⟩ :=
    foldl_loadFile_of_broken (Module.new dir) (selectedHere ▸ areNamed_selectNames s _) read
      (by rw [sameName]; exact isBroken)
  refine ⟨file, before, after, problem, later, sameName, selectedHere, selectedOthers, isError,
    sameName ▸ place, ?_, ?_⟩
  · rw [loadModule_of_shared lists listsOthers shared, selectedOthers]
    exact reported
  · rw [loadModule_of_lists lists, loadModule_of_shared lists listsOthers shared, selectedHere,
      selectedOthers]
    exact loaded

theorem loadModule_of_sound {sound : Disk} (lists : d.Lists words dir files)
    (listsSound : sound.Lists words dir (files.filter isSound)) :
    ∃ all, loadModule d s dir = (loadModule sound s dir).withDiagnostics all ∧
      (loadModule sound s dir).diagnostics.Sublist all ∧
      all.length = (loadModule sound s dir).diagnostics.length +
        files.countP fun file => s.readsAny file.1 && !isSound file := by
  -- Loading meets the files by their names, so these are judged by what the disk has under them.
  let soundName (name : String) := isSound (name, d.read (Disk.join dir name))
  have judged : ∀ file ∈ files, isSound file = soundName file.1 := fun file member => by
    simp only [soundName, lists.contents file member]
  have soundSelected : selectNames s ((files.filter isSound).map (·.1)) =
      (selectNames s (files.map (·.1))).filter (soundName ·.name) := by
    rw [List.filter_congr judged, map_name_filter, selectNames_filter]
  have loadedSound := loadModule_of_shared lists listsSound
    (fun _ member _ => (List.mem_filter.1 member).1) s
  rw [soundSelected] at loadedSound
  have counted : (selectNames s (files.map (·.1))).countP (fun file => !soundName file.name) =
      files.countP fun file => s.readsAny file.1 && !isSound file := by
    rw [countP_selectNames s _ fun name => !soundName name, List.countP_map]
    exact List.countP_congr fun file member => by simp [judged file member]
  obtain ⟨all, loaded, sublist, lengths⟩ :=
    foldl_loadFile_filter d dir (areNamed_selectNames s (files.map (·.1))) (Module.new dir) []
      (List.Sublist.refl [])
  rw [← loadedSound] at loaded sublist lengths
  rw [counted] at lengths
  refine ⟨all, ?_, sublist, lengths⟩
  rw [loadModule_of_lists lists]
  exact loaded

/-! ## The law -/

/-- A file that is selected and cannot be read or parsed makes no difference to the module of its
directory but for one problem more, an error at a place in that file, which stands behind all
problems of the files that are loaded before it and before all those of the files behind it. So with
any number of broken files the module is that of the sound ones, up to the problems, of which there
are as many more as there are broken files. -/
theorem broken_file_isolated (s : LoaderSettings) (words : String → String) (dir : String) :
    (∀ (d without : Disk) (files others : List DirectoryFile) (broken : DirectoryFile)
      (role : FileRole), d.Lists words dir files → without.Lists words dir others →
      files.Perm (broken :: others) → s.reads role broken.1 = true → isSound broken = false →
      ∃ (file : ConfigFile) (before after : List ConfigFile) (problem : Diagnostic)
        (later : Diagnostics),
        let earlier := (before.foldl (loadFile d dir) (Module.new dir)).diagnostics
        file.name = broken.1 ∧
        selectNames s (files.map (·.1)) = before ++ file :: after ∧
        selectNames s (others.map (·.1)) = before ++ after ∧
        problem.isError = true ∧
        problem.pos.map (·.filename) = some (Disk.join dir broken.1) ∧
        (loadModule without s dir).diagnostics = earlier ++ later ∧
        loadModule d s dir =
          { loadModule without s dir with diagnostics := earlier ++ problem :: later }) ∧
    (∀ (d sound : Disk) (files : List DirectoryFile), d.Lists words dir files →
      sound.Lists words dir (files.filter isSound) →
      ∃ all, loadModule d s dir = { loadModule sound s dir with diagnostics := all } ∧
        (loadModule sound s dir).diagnostics.Sublist all ∧
        all.length = (loadModule sound s dir).diagnostics.length +
          files.countP fun file => s.readsAny file.1 && !isSound file) := by
  constructor
  · intro d without files others broken role lists listsOthers same isRead isBroken
    exact loadModule_of_broken lists listsOthers same isRead isBroken
  · intro d sound files lists listsSound
    exact loadModule_of_sound lists listsSound

def intactFiles : List DirectoryFile := [
  ("a.tf.json", .ok "\x7b\"variable\": \x7b\"region\": \x7b\x7d\x7d\x7d"),
  ("c.tf.json", .ok "\x7b\"output\": \x7b\"id\": \x7b\x7d\x7d\x7d")]

def unreadableFile : DirectoryFile := ("override.tf", .error .notText)

def unclosedFile : DirectoryFile := ("b.tf.json", .ok "\x7b")

theorem unclosedFile_isolated :
    let d := Disk.ofFiles id "mod" (unclosedFile :: unreadableFile :: intactFiles)
    let without := Disk.ofFiles id "mod" (unreadableFile :: intactFiles)
    let sound := Disk.ofFiles id "mod" intactFiles
    (∃ earlier problem later,
      problem.pos.map (·.filename) = some "mod/b.tf.json" ∧
      (loadModule without {} "mod").diagnostics = earlier ++ later ∧
      loadModule d {} "mod" =
        { loadModule without {} "mod" with diagnostics := earlier ++ problem :: later }) ∧
    (∃ all, loadModule d {} "mod" = { loadModule sound {} "mod" with diagnostics := all } ∧
      all.length = (loadModule sound {} "mod").diagnostics.length + 2) ∧
    (loadModule sound {} "mod").inputs.keys = ["region"] := by
  intro d without sound
  have lists : d.Lists id "mod" (unclosedFile :: unreadableFile :: intactFiles) :=
    Disk.lists_ofFiles (by decide) (by decide)
  have listsWithout : without.Lists id "mod" (unreadableFile :: intactFiles) :=
    Disk.lists_ofFiles (by decide) (by decide)
  have listsSound : sound.Lists id "mod" intactFiles := Disk.lists_ofFiles (by decide) (by decide)
  have notClosed : isSound unclosedFile = false := by decide +kernel
  have notReadable : isSound unreadableFile = false := rfl
  have intact : ∀ file ∈ intactFiles, isSound file = true := by decide +kernel
  have onlySound : (unclosedFile :: unreadableFile :: intactFiles).filter isSound = intactFiles := by
    rw [List.filter_cons_of_neg (by simp [notClosed]), List.filter_cons_of_neg (by simp [notReadable]),
      List.filter_eq_self.2 intact]
  have twoBroken : ((unclosedFile :: unreadableFile :: intactFiles).countP fun file =>
      ({} : LoaderSettings).readsAny file.1 && !isSound file) = 2 := by decide +kernel
  obtain ⟨single, several⟩ := broken_file_isolated {} id "mod"
  obtain ⟨_, before, after, problem, later, -, -, -, -, place, reported, loaded⟩ :=
    single d without _ _ unclosedFile .primary lists listsWithout (List.Perm.refl _) (by decide)
      notClosed
  obtain ⟨all, loadedAll, -, lengths⟩ := several d sound _ lists (onlySound.symm ▸ listsSound)
  have sorted : sortNames (intactFiles.map (·.1)) = ["a.tf.json", "c.tf.json"] :=
    sortNames_eq (by decide) (by decide)
  rw [twoBroken] at lengths
  refine ⟨⟨_, problem, later, place, reported, loaded⟩, ⟨all, loadedAll, lengths⟩, ?_⟩
  rw [loadModule_of_lists listsSound, selectNames_eq, sorted]
  decide +kernel

end ModuleSurvey
