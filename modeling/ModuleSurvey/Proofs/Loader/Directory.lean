import ModuleSurvey.Proofs.ByteOrder
import ModuleSurvey.Proofs.Loader.Selection
import Mathlib.Data.List.Nodup

/-! # Directories

What loading sees of a disk are the names of the files in one directory and what reading each of
them gives.

* `DirectoryFile`, `Disk.Lists` — a file, and the files of a directory as a disk lists them.
* `Disk.ofFiles`, `Disk.lists_ofFiles` — a disk with given files.
* `loadModule_of_lists`, `loadModule_of_shared` — the module of a directory depends on its files
  alone.
* `file_selection` — which files make the module, and in which order.
-/

namespace ModuleSurvey

/-- The name of a file, and its text or why it cannot be read. -/
abbrev DirectoryFile := String × Except DiskFault String

namespace Disk

/-- The files in a directory, in the order of the listing, and the words in which native ones are
refused. -/
structure Lists (d : Disk) (words : String → String) (dir : String) (files : List DirectoryFile) :
    Prop where
  words : d.nativeFault = words
  names : fileNames d dir = .ok (files.map (·.1))
  contents : ∀ file ∈ files, d.read (join dir file.1) = file.2

/-! ## A disk with given files -/

def ofFiles (words : String → String) (dir : String) (files : List DirectoryFile) : Disk where
  look path :=
    if path = dir then .ok .directory
    else if files.any (join dir ·.1 = path) then .ok .file
    else .error .notFound
  names path := if path = dir then .ok (files.map (·.1)) else .error .notFound
  read path := ((files.find? (join dir ·.1 = path)).map (·.2)).getD (.error .notFound)
  writeFault? _ := none
  nativeFault := words

theorem join_inj {dir name other : String} : join dir name = join dir other ↔ name = other := by
  unfold join
  split <;> simp [String.append_right_inj]

theorem join_ne_dir {dir name : String} (named : name ≠ "") : join dir name ≠ dir := by
  intro same
  have sameChars := congrArg String.toList same
  unfold join at sameChars
  split at sameChars
  case isTrue => exact named (by simpa using sameChars)
  case isFalse => simp at sameChars

theorem look_ofFiles {words : String → String} {dir : String} {files : List DirectoryFile}
    {file : DirectoryFile} (member : file ∈ files) (named : file.1 ≠ "") :
    (ofFiles words dir files).look (join dir file.1) = .ok .file := by
  have found : files.any (join dir ·.1 = join dir file.1) = true :=
    List.any_eq_true.2 ⟨file, member, by simp⟩
  simp only [ofFiles, join_ne_dir named, found, if_true, if_false]

/-- Any files with different names are the files of a directory on some disk. -/
theorem lists_ofFiles {words : String → String} {dir : String} {files : List DirectoryFile}
    (distinct : (files.map (·.1)).Nodup) (named : ∀ file ∈ files, file.1 ≠ "") :
    (ofFiles words dir files).Lists words dir files where
  words := rfl
  names := by
    have isDirectory : (ofFiles words dir files).look dir = .ok .directory := if_pos rfl
    have areNames : (ofFiles words dir files).names dir = .ok (files.map (·.1)) := if_pos rfl
    have areFiles : ∀ name ∈ files.map (·.1), (ofFiles words dir files).isFile (join dir name) = true := by
      intro name member
      obtain ⟨file, isFile, rfl⟩ := List.mem_map.1 member
      rw [Disk.isFile, look_ofFiles isFile (named file isFile)]
    simp only [fileNames, isDirectory, areNames, bind, Except.bind, pure, Except.pure]
    rw [List.filter_eq_self.2 areFiles]
  contents := by
    intro file member
    cases found : files.find? (join dir ·.1 = join dir file.1) with
    | none =>
      have notFound := List.find?_eq_none.1 found file member
      simp at notFound
    | some first =>
      -- No two files have one name, so the first one with this path is this one.
      have sameName : first.1 = file.1 := join_inj.1 (by simpa using List.find?_some found)
      have same := List.inj_on_of_nodup_map distinct (List.mem_of_find?_eq_some found) member sameName
      simp only [ofFiles, found, Option.map_some, Option.getD_some, same]

end Disk

/-! ## The module of a directory -/

variable {d other : Disk} {words : String → String} {dir : String}
  {files others : List DirectoryFile} {s settings : LoaderSettings}

theorem loadModule_of_lists (lists : d.Lists words dir files) (s : LoaderSettings) :
    loadModule d s dir =
      (selectNames s (files.map (·.1))).foldl (loadFile d dir) (Module.new dir) := by
  rw [loadModule, lists.names]

theorem map_name_filter (keep : String → Bool) (files : List DirectoryFile) :
    (files.filter fun file => keep file.1).map (·.1) = (files.map (·.1)).filter keep := by
  rw [List.filter_map]
  rfl

theorem loadFile_congr {file : ConfigFile} (sameWords : d.nativeFault = other.nativeFault)
    (sameText : d.read (Disk.join dir file.name) = other.read (Disk.join dir file.name))
    (m : Module) : loadFile d dir m file = loadFile other dir m file := by
  simp only [loadFile, sameWords, sameText]

theorem exists_content {file : ConfigFile} (selected : file ∈ selectNames s (files.map (·.1))) :
    ∃ content, (file.name, content) ∈ files := by
  obtain ⟨⟨name, content⟩, member, sameName⟩ :=
    List.mem_map.1 (mem_selectNames_iff.1 selected).1
  exact ⟨content, sameName ▸ member⟩

/-- A directory whose relevant files are in another one too may be loaded from there. -/
theorem loadModule_of_shared (lists : d.Lists words dir files) (listsOther : other.Lists words dir others)
    (shared : ∀ file ∈ others, isRelevant file.1 = true → file ∈ files) (s : LoaderSettings) :
    loadModule other s dir =
      (selectNames s (others.map (·.1))).foldl (loadFile d dir) (Module.new dir) := by
  rw [loadModule_of_lists listsOther]
  have sameWords := listsOther.words.trans lists.words.symm
  refine List.foldl_ext _ _ _ fun m file selected => loadFile_congr sameWords ?_ m
  obtain ⟨content, isThere⟩ := exists_content selected
  have isHere := shared _ isThere (isRelevant_of_mem_selectNames selected)
  exact (listsOther.contents _ isThere).trans (lists.contents _ isHere).symm

theorem loadModule_of_relevant (lists : d.Lists words dir files) (listsOther : other.Lists words dir others)
    (same : (files.filter fun file => isRelevant file.1).Perm
      (others.filter fun file => isRelevant file.1)) (s : LoaderSettings) :
    loadModule d s dir = loadModule other s dir := by
  have sameSelected : selectNames s (files.map (·.1)) = selectNames s (others.map (·.1)) := by
    rw [← selectNames_filter_isRelevant, ← selectNames_filter_isRelevant s (others.map (·.1)),
      ← map_name_filter, ← map_name_filter]
    exact selectNames_of_perm s (same.map _)
  have shared : ∀ file ∈ others, isRelevant file.1 = true → file ∈ files :=
    fun file isThere relevant =>
      (List.mem_filter.1 (same.mem_iff.2 (List.mem_filter.2 ⟨isThere, relevant⟩))).1
  rw [loadModule_of_lists lists, loadModule_of_shared lists listsOther shared, sameSelected]

/-- The module of a directory with any settings is the one by default of the files that they
keep. -/
theorem loadModule_of_kept (lists : d.Lists words dir files)
    (listsKept : other.Lists words dir (files.filter fun file => s.keeps file.1)) :
    loadModule d s dir = loadModule other {} dir := by
  rw [loadModule_of_lists lists, selectNames_settings, ← map_name_filter]
  exact (loadModule_of_shared lists listsKept (fun _ kept _ => (List.mem_filter.1 kept).1) {}).symm

/-! ## The law -/

/-- Which files of a directory make its module, and in which order. With any settings the module is
the one that the default settings give for the files that they keep. It is the same for any order of
the listing, and whatever else there is under names that are hidden, left behind by editors or have
another ending. And the files are brought in one by one, the primary ones before the override ones,
each of the two groups in the order of the bytes of the names. The disks that are compared may refuse
native files in any words, if in the same ones. -/
theorem file_selection (s : LoaderSettings) (words : String → String) (dir : String) :
    (∀ (d kept : Disk) (files : List DirectoryFile), d.Lists words dir files →
      kept.Lists words dir (files.filter fun file => s.keeps file.1) →
      loadModule d s dir = loadModule kept {} dir) ∧
    (∀ (d other : Disk) (files others : List DirectoryFile), d.Lists words dir files →
      other.Lists words dir others →
      (files.filter fun file => isRelevant file.1).Perm
        (others.filter fun file => isRelevant file.1) →
      loadModule d s dir = loadModule other s dir) ∧
    (∀ (d : Disk) (files : List DirectoryFile), d.Lists words dir files →
      ∃ primaries overrides : List ConfigFile,
        loadModule d s dir =
          overrides.foldl (loadFile d dir) (primaries.foldl (loadFile d dir) (Module.new dir)) ∧
        (primaries.map (·.name)).Pairwise (utf8Bytes · ≤ utf8Bytes ·) ∧
        (overrides.map (·.name)).Pairwise (utf8Bytes · ≤ utf8Bytes ·) ∧
        (primaries.map (·.name)).Perm ((files.map (·.1)).filter (s.reads .primary)) ∧
        (overrides.map (·.name)).Perm ((files.map (·.1)).filter (s.reads .override)) ∧
        ∀ file ∈ primaries ++ overrides,
          ConfigName.ofName? file.name = some ⟨file.format, file.role⟩) := by
  refine ⟨fun d kept files lists listsKept => loadModule_of_kept lists listsKept,
    fun d other files others lists listsOther same => loadModule_of_relevant lists listsOther same s,
    fun d files lists => ?_⟩
  let sorted := sortNames (files.map (·.1))
  have ordered : ∀ role, ((sorted.filterMap (s.fileIn? role)).map (·.name)).Pairwise
      (utf8Bytes · ≤ utf8Bytes ·) := by
    intro role
    rw [map_name_fileIn?]
    exact ((pairwise_sortNames _).filter _).imp le_iff_utf8Bytes_le.1
  have arranged : ∀ role, ((sorted.filterMap (s.fileIn? role)).map (·.name)).Perm
      ((files.map (·.1)).filter (s.reads role)) := by
    intro role
    rw [map_name_fileIn?]
    exact (sortNames_perm _).filter _
  refine ⟨sorted.filterMap (s.fileIn? .primary), sorted.filterMap (s.fileIn? .override), ?_,
    ordered .primary, ordered .override, arranged .primary, arranged .override, ?_⟩
  · rw [loadModule_of_lists lists, selectNames_eq, List.foldl_append]
  · intro file selected
    rw [← selectNames_eq] at selected
    exact (mem_selectNames_iff.1 selected).2.1

def mixedFiles : List DirectoryFile := [
  ("variables.tf.json", .ok "\x7b\"variable\": \x7b\"region\": \x7b\x7d\x7d\x7d"),
  ("a_override.tf.json", .ok "\x7b\"variable\": \x7b\"region\": \x7b\"default\": 1\x7d\x7d\x7d"),
  ("legacy.tf.json", .ok "\x7b\"variable\": \x7b\"old\": \x7b\x7d\x7d\x7d"),
  (".hidden.tf", .error .notText),
  ("README.md", .ok "")]

def narrowSettings : LoaderSettings := ⟨false, ["legacy.tf.json"]⟩

theorem mixedFiles_selected :
    let d := Disk.ofFiles id "mod" mixedFiles
    let kept := Disk.ofFiles id "mod" (mixedFiles.filter fun file => narrowSettings.keeps file.1)
    let turned := Disk.ofFiles id "mod" (mixedFiles.take 3).reverse
    d.Lists id "mod" mixedFiles ∧
    loadModule d narrowSettings "mod" = loadModule kept {} "mod" ∧
    loadModule d narrowSettings "mod" = loadModule turned narrowSettings "mod" ∧
    (loadModule d narrowSettings "mod").inputs.keys = ["region"] ∧
    (loadModule d {} "mod").inputs.keys = ["old", "region"] := by
  intro d kept turned
  obtain ⟨bySettings, byRelevance, -⟩ := file_selection narrowSettings id "mod"
  have lists : d.Lists id "mod" mixedFiles := Disk.lists_ofFiles (by decide) (by decide)
  have listsKept : kept.Lists id "mod" (mixedFiles.filter fun file => narrowSettings.keeps file.1) :=
    Disk.lists_ofFiles (by decide) (by decide)
  have listsTurned : turned.Lists id "mod" (mixedFiles.take 3).reverse :=
    Disk.lists_ofFiles (by decide) (by decide)
  have relevant : (mixedFiles.filter fun file => isRelevant file.1) = mixedFiles.take 3 := rfl
  have relevantTurned : ((mixedFiles.take 3).reverse.filter fun file => isRelevant file.1) =
    (mixedFiles.take 3).reverse := rfl
  have same : (mixedFiles.filter fun file => isRelevant file.1).Perm
      ((mixedFiles.take 3).reverse.filter fun file => isRelevant file.1) := by
    rw [relevant, relevantTurned]
    exact (List.reverse_perm _).symm
  have sorted : sortNames (mixedFiles.map (·.1)) =
      [".hidden.tf", "README.md", "a_override.tf.json", "legacy.tf.json", "variables.tf.json"] :=
    sortNames_eq (by decide) (by decide)
  refine ⟨lists, bySettings d kept _ lists listsKept, byRelevance d turned _ _ lists listsTurned same,
    ?_, ?_⟩
  · rw [loadModule_of_lists lists, selectNames_eq, sorted]
    decide +kernel
  · rw [loadModule_of_lists lists, selectNames_eq, sorted]
    decide +kernel

end ModuleSurvey
