import ModuleSurvey.Proofs.Loader.FileNames

/-! # Selecting names

The files of a module are found by sorting the names of a directory, passing over some of them, and
taking those of either role. So nothing depends on the order of the names, a name may be passed over
before or afterwards, and settings pass over names and do nothing else.

* `sortNames_of_perm`, `sortNames_filter`, `sortNames_cons` — sorted names.
* `LoaderSettings.fileIn?`, `selectNames_eq` — the files of either role.
* `selectNames_of_perm`, `selectNames_filter`, `selectNames_cons` — names rearranged, left out and
  added.
* `selectNames_settings` — all settings from the default ones.
-/

namespace ModuleSurvey

/-! ## Sorted names -/

def sortNames (names : List String) : List String := names.mergeSort (· ≤ ·)

theorem sortNames_perm (names : List String) : (sortNames names).Perm names :=
  List.mergeSort_perm names _

theorem pairwise_sortNames (names : List String) : (sortNames names).Pairwise (· ≤ ·) := by
  have transitive : ∀ a b c : String, decide (a ≤ b) = true → decide (b ≤ c) = true →
      decide (a ≤ c) = true := fun a b c => by simpa using String.le_trans
  have total : ∀ a b : String, (decide (a ≤ b) || decide (b ≤ a)) = true := fun a b => by
    simpa using String.le_total a b
  exact (List.pairwise_mergeSort transitive total names).imp of_decide_eq_true

theorem sortNames_eq {names sorted : List String} (ordered : sorted.Pairwise (· ≤ ·))
    (same : sorted.Perm names) : sortNames names = sorted :=
  List.Perm.eq_of_pairwise (fun _ _ _ _ => String.le_antisymm) (pairwise_sortNames names) ordered
    ((sortNames_perm names).trans same.symm)

theorem sortNames_of_perm {names others : List String} (same : names.Perm others) :
    sortNames names = sortNames others :=
  sortNames_eq (pairwise_sortNames others) ((sortNames_perm others).trans same.symm)

theorem sortNames_filter (keep : String → Bool) (names : List String) :
    sortNames (names.filter keep) = (sortNames names).filter keep :=
  sortNames_eq ((pairwise_sortNames names).filter keep) ((sortNames_perm names).filter keep)

theorem sortNames_cons (name : String) (names : List String) :
    ∃ before after, sortNames (name :: names) = before ++ name :: after ∧
      sortNames names = before ++ after := by
  have member : name ∈ sortNames (name :: names) :=
    (sortNames_perm _).mem_iff.2 List.mem_cons_self
  obtain ⟨before, after, split⟩ := List.append_of_mem member
  have ordered := pairwise_sortNames (name :: names)
  have arranged := sortNames_perm (name :: names)
  rw [split] at ordered arranged
  -- What stands around the name is sorted too, so it is the way in which the others are arranged.
  have withoutName : (before ++ after).Sublist (before ++ name :: after) :=
    (List.sublist_cons_self name after).append_left before
  exact ⟨before, after, split, sortNames_eq (ordered.sublist withoutName)
    (List.perm_middle.symm.trans arranged).cons_inv⟩

/-! ## The files of either role -/

def LoaderSettings.fileIn? (s : LoaderSettings) (role : FileRole) (name : String) :
    Option ConfigFile :=
  if role = .override ∧ s.includeOverrides = false then none
  else (s.file? name).filter (·.role = role)

theorem selectNames_eq (s : LoaderSettings) (names : List String) :
    selectNames s names =
      (sortNames names).filterMap (s.fileIn? .primary)
        ++ (sortNames names).filterMap (s.fileIn? .override) := by
  unfold selectNames LoaderSettings.fileIn? sortNames
  cases s.includeOverrides <;> simp [List.filter_filterMap]

variable {s : LoaderSettings} {role : FileRole} {name : String} {file : ConfigFile}
  {names others : List String}

theorem fileIn?_eq_some_iff :
    s.fileIn? role name = some file ↔
      file.name = name ∧ file.role = role ∧ ConfigName.ofName? name = some ⟨file.format, role⟩ ∧
        s.ignores name = false ∧ (role = .override → s.includeOverrides = true) := by
  unfold LoaderSettings.fileIn?
  split
  case isTrue leftOut =>
    refine iff_of_false nofun fun ⟨_, _, _, _, included⟩ => ?_
    exact Bool.false_ne_true (leftOut.2.symm.trans (included leftOut.1))
  case isFalse notLeftOut =>
    have included : role = .override → s.includeOverrides = true := by simpa using notLeftOut
    rw [Option.filter_eq_some_iff, LoaderSettings.file?]
    obtain ⟨ownName, format, ownRole⟩ := file
    cases s.ignores name with
    | true => simp
    | false =>
      cases ConfigName.ofName? name with
      | none => simp
      | some c =>
        obtain ⟨namedFormat, namedRole⟩ := c
        constructor
        · rintro ⟨isFile, sameRole⟩
          obtain rfl : ownRole = role := of_decide_eq_true sameRole
          cases isFile
          exact ⟨rfl, rfl, rfl, rfl, included⟩
        · rintro ⟨rfl, rfl, named, -, -⟩
          cases named
          exact ⟨rfl, decide_eq_true rfl⟩

theorem mem_selectNames_iff :
    file ∈ selectNames s names ↔
      file.name ∈ names ∧ ConfigName.ofName? file.name = some ⟨file.format, file.role⟩ ∧
        s.ignores file.name = false ∧ (file.role = .override → s.includeOverrides = true) := by
  have inRole : ∀ role, file ∈ (sortNames names).filterMap (s.fileIn? role) ↔
      file.name ∈ names ∧ s.fileIn? role file.name = some file := by
    intro role
    simp only [List.mem_filterMap, (sortNames_perm names).mem_iff]
    constructor
    · rintro ⟨name, listed, found⟩
      obtain ⟨rfl, -⟩ := fileIn?_eq_some_iff.1 found
      exact ⟨listed, found⟩
    · rintro ⟨listed, found⟩
      exact ⟨_, listed, found⟩
  rw [selectNames_eq, List.mem_append, inRole, inRole]
  simp only [fileIn?_eq_some_iff]
  cases file.role <;> simp

theorem selectNames_of_perm (s : LoaderSettings) (same : names.Perm others) :
    selectNames s names = selectNames s others := by
  rw [selectNames_eq, selectNames_eq, sortNames_of_perm same]

theorem filterMap_fileIn?_filter (s : LoaderSettings) (role : FileRole) (keep : String → Bool)
    (names : List String) :
    (names.filter keep).filterMap (s.fileIn? role) =
      (names.filterMap (s.fileIn? role)).filter (keep ·.name) := by
  rw [List.filterMap_filter, List.filter_filterMap]
  congr 1
  funext name
  cases found : s.fileIn? role name with
  | none => simp
  | some file =>
    obtain ⟨rfl, -⟩ := fileIn?_eq_some_iff.1 found
    simp only [Option.filter_some]

theorem selectNames_filter (s : LoaderSettings) (keep : String → Bool) (names : List String) :
    selectNames s (names.filter keep) = (selectNames s names).filter (keep ·.name) := by
  simp only [selectNames_eq, sortNames_filter, filterMap_fileIn?_filter, List.filter_append]

/-! ## The names that are read -/

/-- Whether a name may be that of a configuration file: it is neither hidden nor left behind by an
editor, and has one of the two endings. -/
def isRelevant (name : String) : Bool := !isHiddenName name && isConfigName name

def LoaderSettings.reads (s : LoaderSettings) (role : FileRole) (name : String) : Bool :=
  isRelevant name && !s.ignore.contains name &&
    match role with
    | .primary => !isOverrideName name
    | .override => s.includeOverrides && isOverrideName name

theorem isSome_fileIn? (s : LoaderSettings) (role : FileRole) (name : String) :
    (s.fileIn? role name).isSome = s.reads role name := by
  have passedOver : s.ignores name = (isHiddenName name || s.ignore.contains name) := rfl
  rw [Bool.eq_iff_iff, Option.isSome_iff_exists]
  simp only [fileIn?_eq_some_iff, passedOver, LoaderSettings.reads, isRelevant,
    ← ConfigName.isSome_ofName?]
  cases named : ConfigName.ofName? name with
  | none => simp
  | some c =>
    obtain ⟨format, namedRole⟩ := c
    have amends : namedRole = .override ↔ isOverrideName name = true :=
      ConfigName.role_of_ofName? named
    constructor
    · rintro ⟨file, -, -, sameName, passed, included⟩
      cases sameName
      cases role <;> grind
    · intro isRead
      have sameRole : namedRole = role := by
        cases role <;> cases namedRole <;> simp_all
      refine ⟨⟨name, format, role⟩, rfl, rfl, by rw [sameRole], ?_, ?_⟩
      · grind
      · rintro rfl
        grind

theorem map_name_fileIn? (s : LoaderSettings) (role : FileRole) (names : List String) :
    (names.filterMap (s.fileIn? role)).map (·.name) = names.filter (s.reads role) := by
  induction names with
  | nil => rfl
  | cons name names inductionHypothesis =>
    have isRead := isSome_fileIn? s role name
    cases found : s.fileIn? role name with
    | none =>
      rw [found] at isRead
      rw [List.filterMap_cons_none found, inductionHypothesis,
        List.filter_cons_of_neg (by simp [← isRead])]
    | some file =>
      rw [found] at isRead
      obtain ⟨rfl, -⟩ := fileIn?_eq_some_iff.1 found
      rw [List.filterMap_cons_some found, List.map_cons, inductionHypothesis,
        List.filter_cons_of_pos (by simp [← isRead])]

theorem isRelevant_of_mem_selectNames (selected : file ∈ selectNames s names) :
    isRelevant file.name = true := by
  obtain ⟨-, named, passed, -⟩ := mem_selectNames_iff.1 selected
  have ended : isConfigName file.name = true := by
    rw [← ConfigName.isSome_ofName?, named]
    rfl
  have shown : isHiddenName file.name = false := (Bool.or_eq_false_iff.1 passed).1
  simp [isRelevant, ended, shown]

theorem reads_role_unique {other : FileRole} (here : s.reads role name = true)
    (there : s.reads other name = true) : role = other := by
  cases role <;> cases other <;> simp_all [LoaderSettings.reads]

/-- A further name that is read takes its place among the files. -/
theorem selectNames_cons (isRead : s.reads role name = true) (names : List String) :
    ∃ file before after, file.name = name ∧ selectNames s (name :: names) = before ++ file :: after ∧
      selectNames s names = before ++ after := by
  obtain ⟨before, after, withName, withoutName⟩ := sortNames_cons name names
  obtain ⟨file, found⟩ := Option.isSome_iff_exists.1 ((isSome_fileIn? s role name).trans isRead)
  have sameName := (fileIn?_eq_some_iff.1 found).1
  have notOther : ∀ other, other ≠ role → s.fileIn? other name = none := by
    intro other different
    rw [← Option.not_isSome_iff_eq_none, isSome_fileIn?]
    exact fun there => different (reads_role_unique there isRead)
  rw [selectNames_eq, selectNames_eq, withName, withoutName]
  simp only [List.filterMap_append]
  let inRole (role : FileRole) := List.filterMap (s.fileIn? role)
  -- The name gives one file in its own role and none in the other one.
  cases role with
  | primary =>
    rw [List.filterMap_cons_some found, List.filterMap_cons_none (notOther .override nofun)]
    exact ⟨file, inRole .primary before,
      inRole .primary after ++ (inRole .override before ++ inRole .override after), sameName,
      by simp [inRole], by simp [inRole]⟩
  | override =>
    rw [List.filterMap_cons_some found, List.filterMap_cons_none (notOther .primary nofun)]
    exact ⟨file, inRole .primary before ++ inRole .primary after ++ inRole .override before,
      inRole .override after, sameName, by simp [inRole], by simp [inRole]⟩

def LoaderSettings.readsAny (s : LoaderSettings) (name : String) : Bool :=
  s.reads .primary name || s.reads .override name

theorem countP_reads (s : LoaderSettings) (names : List String) (counts : String → Bool) :
    (names.countP fun name => counts name && s.reads .primary name)
        + (names.countP fun name => counts name && s.reads .override name) =
      names.countP fun name => s.readsAny name && counts name := by
  induction names with
  | nil => rfl
  | cons name names inductionHypothesis =>
    have oneRole : ¬ (s.reads .primary name = true ∧ s.reads .override name = true) :=
      fun both => nomatch reads_role_unique both.1 both.2
    have inEither : s.readsAny name = (s.reads .primary name || s.reads .override name) := rfl
    rw [List.countP_cons, List.countP_cons, List.countP_cons, ← inductionHypothesis, inEither]
    grind

theorem countP_selectNames (s : LoaderSettings) (names : List String) (counts : String → Bool) :
    (selectNames s names).countP (counts ·.name) =
      names.countP fun name => s.readsAny name && counts name := by
  have ofNames : (selectNames s names).countP (counts ·.name) =
      ((selectNames s names).map (·.name)).countP counts := by
    rw [List.countP_map]
    rfl
  rw [ofNames, selectNames_eq, List.map_append, map_name_fileIn?, map_name_fileIn?,
    List.countP_append, List.countP_filter, List.countP_filter, (sortNames_perm names).countP_eq,
    (sortNames_perm names).countP_eq, countP_reads]

theorem selectNames_filter_isRelevant (s : LoaderSettings) (names : List String) :
    selectNames s (names.filter isRelevant) = selectNames s names := by
  rw [selectNames_filter]
  exact List.filter_eq_self.2 fun _ => isRelevant_of_mem_selectNames

/-! ## Settings -/

/-- Whether settings let a file be read that is read by default. -/
def LoaderSettings.keeps (s : LoaderSettings) (name : String) : Bool :=
  !s.ignore.contains name && (s.includeOverrides || !isOverrideName name)

/-- Settings leave out files that are read by default, and do nothing else. -/
theorem selectNames_settings (s : LoaderSettings) (names : List String) :
    selectNames s names = selectNames {} (names.filter s.keeps) := by
  have sameFiles : ∀ role name, s.fileIn? role name =
      if s.keeps name = true then ({} : LoaderSettings).fileIn? role name else none := by
    intro role name
    apply Option.ext
    intro file
    have asDefault : (if s.keeps name = true then ({} : LoaderSettings).fileIn? role name else none) =
        some file ↔ s.keeps name = true ∧ ({} : LoaderSettings).fileIn? role name = some file := by
      simp
    rw [asDefault, fileIn?_eq_some_iff, fileIn?_eq_some_iff]
    have passedOver : s.ignores name = (isHiddenName name || s.ignore.contains name) := rfl
    have passedOverByDefault : ({} : LoaderSettings).ignores name = isHiddenName name :=
      Bool.or_false _
    have amends : ConfigName.ofName? name = some ⟨file.format, role⟩ →
        (role = .override ↔ isOverrideName name = true) := ConfigName.role_of_ofName?
    rw [passedOver, passedOverByDefault, LoaderSettings.keeps]
    grind
  simp only [selectNames_eq, sortNames_filter, List.filterMap_filter, ← sameFiles]

end ModuleSurvey
