import ModuleSurvey.Proofs.Json.Faults
import ModuleSurvey.Proofs.Loader.BrokenFiles
import ModuleSurvey.Proofs.Module.Positions

/-! # Places in a directory

Whatever the files of a directory contain, each place in its module is on a line of a file that was
loaded. A file that cannot be read has one line, and the place of a text that is refused is within
the text. What a file reports stands behind what the files before it reported, so the problems are in
the order of the files.

* `PointsInto` — places in a file.
* `loadFile_pointsInto` — what one file does to the places.
* `positions_in_loaded_files` — the module of a directory.
-/

namespace ModuleSurvey

open Json (Value)

/-! ## Places in a file -/

def Disk.lastLine (d : Disk) (path : String) : Nat :=
  match d.read path with
  | .ok text => Text.lastLine text.toList
  -- A file that cannot be read has one line.
  | .error _ => 1

def PointsInto (d : Disk) (dir : String) (file : ConfigFile) (pos : SourcePos) : Prop :=
  pos.filename = Disk.join dir file.name ∧ 1 ≤ pos.line ∧ pos.line ≤ d.lastLine pos.filename

def Diagnostic.PointsInto (d : Disk) (dir : String) (file : ConfigFile) (problem : Diagnostic) :
    Prop :=
  ∃ pos, problem.pos = some pos ∧ ModuleSurvey.PointsInto d dir file pos

/-- Whether a file is loaded before another one: the primary files are, and those of one role are
loaded in the order of the bytes of their names. -/
def ConfigFile.NotBehind (file other : ConfigFile) : Prop :=
  file.role = .primary ∧ other.role = .override ∨
    file.role = other.role ∧ utf8Bytes file.name ≤ utf8Bytes other.name

variable {d : Disk} {dir text : String} {s : LoaderSettings} {file : ConfigFile} {m : Module}
  {Good : SourcePos → Prop}

/-! ## One file -/

theorem line_of_parseBody {words : String → String} {format : FileFormat} {detail : String}
    {line : Nat} (refused : parseBody words format text = .error (detail, line)) :
    1 ≤ line ∧ line ≤ Text.lastLine text.toList := by
  unfold parseBody at refused
  split at refused
  · split at refused
    · cases refused
    · cases refused
      exact ⟨Nat.le_refl 1, Nat.le_add_left 1 _⟩
  · split at refused
    · cases refused
    · cases refused
      exact ⟨Json.Fault.line_pos _ _, Value.line_le_of_parse ‹_›⟩

/-- A file declares and reports at places in it. -/
theorem loadFile_pointsInto (d : Disk) (dir : String) (m : Module) (file : ConfigFile)
    (places : m.PlacesIn Good) (good : ∀ pos, PointsInto d dir file pos → Good pos) :
    (loadFile d dir m file).PlacesIn Good ∧
      ∃ more, (loadFile d dir m file).diagnostics = m.diagnostics ++ more ∧
        ∀ problem ∈ more, problem.PointsInto d dir file := by
  -- A file that cannot be read or parsed reports one problem and declares nothing.
  have reports : ∀ {line : Nat} {summary detail : String}, 1 ≤ line →
      line ≤ d.lastLine (Disk.join dir file.name) →
      let problem := Diagnostic.errorAt ⟨Disk.join dir file.name, line⟩ summary detail
      (m.report problem).PlacesIn Good ∧
        ∃ more, (m.report problem).diagnostics = m.diagnostics ++ more ∧
          ∀ problem ∈ more, problem.PointsInto d dir file := by
    intro line summary detail positive bound problem
    refine ⟨places, [problem], rfl, fun other member => ?_⟩
    obtain rfl := List.mem_singleton.1 member
    exact ⟨_, rfl, rfl, positive, bound⟩
  unfold loadFile
  dsimp only
  cases read : d.read (Disk.join dir file.name) with
  | error fault => exact reports (Nat.le_refl 1) (by rw [Disk.lastLine, read])
  | ok text =>
    have lastLine : d.lastLine (Disk.join dir file.name) = Text.lastLine text.toList := by
      rw [Disk.lastLine, read]
    dsimp only
    unfold loadText
    cases parsed : parseBody d.nativeFault file.format text with
    | error refusal =>
      obtain ⟨positive, bound⟩ := line_of_parseBody parsed
      exact reports positive (lastLine.symm ▸ bound)
    | ok body =>
      let index := BlockIndex.scan (Disk.join dir file.name) file.format text
      have inFile : ∀ s ∈ (Statement.ofBody body index).1, PointsInto d dir file s.pos := by
        intro s member
        obtain ⟨sameName, positive, bound⟩ :=
          Statement.ofBody_inText (BlockIndex.headersInText_scan _ _ _) body s member
        exact ⟨sameName, positive, sameName ▸ lastLine.symm ▸ bound⟩
      refine ⟨places.foldl_declare file.role fun s member => good s.pos (inFile s member), _,
        Module.diagnostics_foldl_declare file.role _ m, fun problem reported => ?_⟩
      obtain ⟨s, member, -, rfl⟩ := Module.exists_problem_of_mem_reportsAll reported
      exact ⟨s.pos, rfl, inFile s member⟩

/-! ## One file after the other -/

theorem foldl_loadFile_pointsInto (d : Disk) (dir : String) (selected : List ConfigFile) :
    let m := selected.foldl (loadFile d dir) (Module.new dir)
    m.PlacesIn (fun pos => ∃ file ∈ selected, PointsInto d dir file pos) ∧
    (∀ problem ∈ m.diagnostics, ∃ file ∈ selected, problem.PointsInto d dir file) ∧
    (selected.Pairwise ConfigFile.NotBehind → m.diagnostics.Pairwise fun first second =>
      ∃ file ∈ selected, ∃ other ∈ selected, first.PointsInto d dir file ∧
        second.PointsInto d dir other ∧ file.NotBehind other) := by
  intro m
  induction selected using List.reverseRecOn with
  | nil => exact ⟨Module.placesIn_new _ dir, nofun, fun _ => .nil⟩
  | append_singleton selected file inductionHypothesis =>
    obtain ⟨placesBefore, problemsBefore, orderBefore⟩ := inductionHypothesis
    have more : ∀ other ∈ selected, other ∈ selected ++ [file] := fun other member =>
      List.mem_append_left _ member
    have last : file ∈ selected ++ [file] := List.mem_append_right _ List.mem_cons_self
    let earlier := selected.foldl (loadFile d dir) (Module.new dir)
    have placesEarlier : earlier.PlacesIn fun pos =>
        ∃ other ∈ selected ++ [file], PointsInto d dir other pos := by
      intro target pos found
      obtain ⟨other, isOther, inOther⟩ := placesBefore target pos found
      exact ⟨other, more other isOther, inOther⟩
    obtain ⟨places, reported, diagnostics, inFile⟩ :=
      loadFile_pointsInto d dir earlier file placesEarlier fun pos inFile => ⟨file, last, inFile⟩
    have loaded : m = loadFile d dir earlier file := by
      simp only [m, earlier, List.foldl_append, List.foldl_cons, List.foldl_nil]
    rw [loaded, diagnostics]
    refine ⟨places, fun problem member => ?_, fun order => ?_⟩
    · rcases List.mem_append.1 member with before | here
      · obtain ⟨other, isOther, inOther⟩ := problemsBefore problem before
        exact ⟨other, more other isOther, inOther⟩
      · exact ⟨file, last, inFile problem here⟩
    · obtain ⟨orderSelected, -, upToFile⟩ := List.pairwise_append.1 order
      -- Two problems of earlier files, two of this one, and one of each.
      refine List.pairwise_append.2 ⟨?_, ?_, ?_⟩
      · refine (orderBefore orderSelected).imp ?_
        rintro first second ⟨one, isOne, other, isOther, rest⟩
        exact ⟨one, more one isOne, other, more other isOther, rest⟩
      · refine List.pairwise_of_forall_mem_list fun first isFirst second isSecond => ?_
        exact ⟨file, last, file, last, inFile first isFirst, inFile second isSecond,
          Or.inr ⟨rfl, List.le_refl _⟩⟩
      · intro first isFirst second isSecond
        obtain ⟨other, isOther, inOther⟩ := problemsBefore first isFirst
        exact ⟨other, more other isOther, file, last, inOther, inFile second isSecond,
          upToFile other isOther file List.mem_cons_self⟩

theorem pairwise_selectNames (s : LoaderSettings) (names : List String) :
    (selectNames s names).Pairwise ConfigFile.NotBehind := by
  have inRole : ∀ role, ((sortNames names).filterMap (s.fileIn? role)).Pairwise
      ConfigFile.NotBehind := by
    intro role
    refine List.pairwise_filterMap.2 ((pairwise_sortNames names).imp fun ordered => ?_)
    intro file found other foundOther
    obtain ⟨rfl, sameRole, -⟩ := fileIn?_eq_some_iff.1 found
    obtain ⟨rfl, sameRoleOther, -⟩ := fileIn?_eq_some_iff.1 foundOther
    exact Or.inr ⟨sameRole.trans sameRoleOther.symm, le_iff_utf8Bytes_le.1 ordered⟩
  rw [selectNames_eq]
  refine List.pairwise_append.2 ⟨inRole .primary, inRole .override, fun file member other memberOther => ?_⟩
  obtain ⟨_, -, found⟩ := List.mem_filterMap.1 member
  obtain ⟨_, -, foundOther⟩ := List.mem_filterMap.1 memberOther
  exact Or.inl ⟨(fileIn?_eq_some_iff.1 found).2.1, (fileIn?_eq_some_iff.1 foundOther).2.1⟩

theorem eq_of_pointsInto {selected : List ConfigFile} (named : AreNamed selected)
    {other : ConfigFile} {problem : Diagnostic} (member : file ∈ selected)
    (memberOther : other ∈ selected) (inFile : problem.PointsInto d dir file)
    (inOther : problem.PointsInto d dir other) : file = other := by
  obtain ⟨pos, isPos, sameName, -⟩ := inFile
  obtain ⟨_, samePos, sameNameOther, -⟩ := inOther
  cases isPos.symm.trans samePos
  -- The path of the file gives its name, and the name gives its format and its role.
  have oneName : file.name = other.name := Disk.join_inj.1 (sameName.symm.trans sameNameOther)
  have oneKind := (named file member).symm.trans (oneName ▸ named other memberOther)
  cases file
  cases other
  simp_all

/-! ## The law -/

/-- In the module of a directory that can be read, every entry and every problem is at a place in a
file that was selected, on one of its lines. And of two problems the earlier one is not in a file that
is loaded behind the file of the later one. -/
theorem positions_in_loaded_files (d : Disk) (s : LoaderSettings) (dir : String)
    (names : List String) (readable : fileNames d dir = .ok names) :
    let m := loadModule d s dir
    let selected := selectNames s names
    (∀ target pos, m.place? target = some pos → ∃ file ∈ selected, PointsInto d dir file pos) ∧
    (∀ problem ∈ m.diagnostics, ∃ file ∈ selected, problem.PointsInto d dir file) ∧
    m.diagnostics.Pairwise fun first second => ∀ file ∈ selected, ∀ other ∈ selected,
      first.PointsInto d dir file → second.PointsInto d dir other → file.NotBehind other := by
  intro m selected
  have loaded : m = selected.foldl (loadFile d dir) (Module.new dir) := by
    simp only [m, loadModule, readable]
    rfl
  obtain ⟨places, problems, order⟩ := foldl_loadFile_pointsInto d dir selected
  rw [loaded]
  refine ⟨places, problems, (order (pairwise_selectNames s names)).imp ?_⟩
  rintro first second ⟨one, isOne, another, isAnother, inOne, inAnother, ordered⟩ file member other
    memberOther inFile inOther
  have named := areNamed_selectNames s names
  rw [eq_of_pointsInto named member isOne inFile inOne,
    eq_of_pointsInto named memberOther isAnother inOther inAnother]
  exact ordered

/-- A directory with an override file that amends nothing, a text that is refused on its second line, a
file that is no text, and one with an attribute that does not do. -/
def faultyFiles : List DirectoryFile := [
  ("b_override.tf.json", .ok "\x7b\"output\": \x7b\n\n\"id\": \x7b\x7d\x7d\x7d"),
  ("a.tf.json", .ok "\x7b\n["),
  ("c.tf", .error .notText),
  ("main.tf.json", .ok "\x7b\"variable\": \x7b\n\"region\": \x7b\x7d,\n\"zone\": \x7b\"type\": []\x7d\x7d\x7d")]

theorem sortNames_faultyFiles : sortNames (faultyFiles.map (·.1)) =
    ["a.tf.json", "b_override.tf.json", "c.tf", "main.tf.json"] :=
  sortNames_eq (by decide) (by decide)

theorem faultyFiles_positions :
    let d := Disk.ofFiles id "mod" faultyFiles
    let m := loadModule d {} "mod"
    let selected := selectNames {} (faultyFiles.map (·.1))
    m.place? (.inputVariable "region") = some ⟨"mod/main.tf.json", 2⟩ ∧
    (∃ file ∈ selected, PointsInto d "mod" file ⟨"mod/main.tf.json", 2⟩) ∧
    m.diagnostics.map (·.pos) = [some ⟨"mod/a.tf.json", 2⟩, some ⟨"mod/c.tf", 1⟩,
      some ⟨"mod/main.tf.json", 3⟩, some ⟨"mod/b_override.tf.json", 3⟩] ∧
    (∀ problem ∈ m.diagnostics, ∃ file ∈ selected, problem.PointsInto d "mod" file) ∧
    m.diagnostics.Pairwise fun first second => ∀ file ∈ selected, ∀ other ∈ selected,
      first.PointsInto d "mod" file → second.PointsInto d "mod" other → file.NotBehind other := by
  intro d m selected
  have lists : d.Lists id "mod" faultyFiles := Disk.lists_ofFiles (by decide) (by decide)
  obtain ⟨places, problems, order⟩ :=
    positions_in_loaded_files d {} "mod" (faultyFiles.map (·.1)) lists.names
  have region : m.place? (.inputVariable "region") = some ⟨"mod/main.tf.json", 2⟩ := by
    simp only [m]
    rw [loadModule_of_lists lists, selectNames_eq, sortNames_faultyFiles]
    decide +kernel
  refine ⟨region, places _ _ region, ?_, problems, order⟩
  simp only [m]
  rw [loadModule_of_lists lists, selectNames_eq, sortNames_faultyFiles]
  decide +kernel

end ModuleSurvey
