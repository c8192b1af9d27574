import ModuleSurvey.CommandLine.Run
import ModuleSurvey.FileTree
import ModuleSurvey.Proofs.Yaml.Record

/-! # Which settings a command line uses

Where no settings file is given, one is looked for: first where a variable of the environment says,
then in the working directory and in that of the user. On the command line the same variable stands
for the option that gives the file, wherever the option is left out. So a command uses what would be
found if the variable names a file that is there, or is not set. But if it names one that is not
there, the search goes on to the next place, and the command fails.

* `Disk.IsFaithful` — disks on which whatever can be read is there.
* `Settings.discover_eq`, `Settings.toOption_load_variable` — the file that is found, and the one that
  the variable names.
* `ReadsWithoutConfig` — command lines on which the option is left out.
* `Command.run_congr`, `Command.code_of_fault` — what a command does with its settings.
* `settings_without_option` — the settings of such a command line, and what comes of them.
-/

namespace ModuleSurvey

/-! ## Disks -/

/-- Whatever can be read is there. -/
def Disk.IsFaithful (d : Disk) : Prop :=
  ∀ path text, d.read path = .ok text → d.holds path = true

theorem FileTree.isFaithful_disk (t : FileTree) (cwd : Place) {nativeFault : String → String} :
    (t.disk cwd nativeFault).IsFaithful := by
  intro path text read
  simp only [disk] at read
  simp only [Disk.holds, disk]
  cases leads : t.resolve cwd path with
  | error fault => simp [leads, bind, Except.bind] at read
  | ok place =>
    simp only [leads, bind, Except.bind] at read ⊢
    cases stands : t.node? place with
    | none => simp [stands, throw, throwThe, MonadExceptOf.throw] at read
    | some node => cases node <;> rfl

/-! ## Settings files -/

namespace Settings

variable {d : Disk} {env : Environment} {path : String}

/-- The file that is found: the one that the variable names if it is there, or else the local one, or
else that of the user. -/
theorem discover_eq (d : Disk) (env : Environment) :
    discover d env = ((env.get? configPathVariable).filter d.holds).or
      (((some localPath).filter d.holds).or ((homePath? env).filter d.holds)) := by
  have find?_toList (o : Option String) : o.toList.find? d.holds = o.filter d.holds := by
    cases o with
    | none => rfl
    | some path => cases held : d.holds path <;> simp [Option.filter, held]
  have find?_localPath : [localPath].find? d.holds = (some localPath).filter d.holds :=
    find?_toList (some localPath)
  rw [discover, candidates, List.find?_append, List.find?_append, find?_toList, find?_toList,
    find?_localPath, Option.or_assoc]

theorem toOption_load (d : Disk) (env : Environment) (path : Option String) :
    (load d env path).toOption = (source d env path).toOption.map (overridden env) := by
  unfold load
  cases source d env path <;> rfl

theorem toOption_mapError {α β γ : Type} (f : α → β) (x : Except α γ) :
    (x.mapError f).toOption = x.toOption := by
  cases x <;> rfl

/-- A file that is found has the same settings as where it is asked for, but for the words in which a
fault is told. -/
theorem toOption_load_of_discovered (found : discover d env = some path) :
    (load d env (some path)).toOption = (load d env none).toOption := by
  simp only [toOption_load, source, found, toOption_mapError]

theorem toOption_load_of_missing (faithful : d.IsFaithful) (missing : d.holds path = false) :
    (load d env (some path)).toOption = none := by
  cases read : d.read path with
  | ok text => exact absurd (faithful path text read) (by simp [missing])
  | error fault =>
    rw [toOption_load, source, toOption_mapError, ofFile, read]
    rfl

theorem toOption_load_variable (faithful : d.IsFaithful) :
    (load d env (env.get? configPathVariable)).toOption =
      if (env.get? configPathVariable).all d.holds then (load d env none).toOption else none := by
  cases named : env.get? configPathVariable with
  | none => rfl
  | some path =>
    cases held : d.holds path with
    | false => simp [held, toOption_load_of_missing faithful held]
    | true =>
      have found : discover d env = some path := by
        rw [discover_eq, named, Option.filter_some_pos held, Option.some_or]
      simp [held, toOption_load_of_discovered found]

end Settings

namespace CommandLine

/-! ## Command lines without the option -/

/-- The command line is understood, and to none of its commands the option for a settings file is
given. -/
def ReadsWithoutConfig (env : Environment) (words : List String) (i : Invocation) : Prop :=
  ∃ levels, readCommands env (words.length + 1) [] tool words = .ok levels ∧
    (∀ l ∈ levels, Given.value? l.given configOption.name = none) ∧
    i = .ofLevels env levels

variable {d : Disk} {env : Environment} {words : List String} {i : Invocation}

theorem ReadsWithoutConfig.parse_eq (line : ReadsWithoutConfig env words i) :
    Invocation.parse env words = .ok i := by
  obtain ⟨levels, read, -, rfl⟩ := line
  rw [Invocation.parse, read]
  rfl

/-- The variable stands for the option. -/
theorem ReadsWithoutConfig.configPath_eq (line : ReadsWithoutConfig env words i) :
    i.configPath = env.get? configPathVariable := by
  obtain ⟨levels, -, notGiven, rfl⟩ := line
  have noneGiven : (levels.reverse.findSome? fun l => Given.value? l.given configOption.name) = none :=
    List.findSome?_eq_none_iff.2 fun l member => notGiven l (List.mem_reverse.1 member)
  have none_or (o : Option String) : (none <|> o <|> none) = o := by cases o <;> rfl
  simp only [Invocation.ofLevels, sharedValue?, noneGiven]
  exact none_or _

theorem environmentFits_of_readCommands {depth : Nat} {path : List String} {s : Form}
    {levels : List Level} (read : readCommands env depth path s words = .ok levels) :
    ∃ l ∈ levels, ∃ r : Reading, r.given = l.given ∧ environmentFits env s r = true := by
  cases depth with
  | zero => cases read
  | succ depth =>
    obtain ⟨⟨r, below⟩, -, read⟩ := bind_eq_ok_iff.1 read
    -- The command is checked behind the one below it, if there is one.
    have checked {inner : List Level} (ended : (do
        let settled ← r.settle
        if environmentFits env s settled then return ⟨s.name, settled.given⟩ :: inner
        else throw Stop.usage : Except Stop (List Level)) = .ok levels) :
        ∃ l ∈ levels, ∃ r : Reading, r.given = l.given ∧ environmentFits env s r = true := by
      obtain ⟨settled, -, ended⟩ := bind_eq_ok_iff.1 ended
      split at ended
      · cases ended
        exact ⟨_, List.mem_cons_self, settled, rfl, ‹_›⟩
      · cases ended
    cases below with
    | none =>
      dsimp only at read
      split at read
      · cases read
      · exact checked read
    | some below =>
      obtain ⟨inner, -, read⟩ := bind_eq_ok_iff.1 read
      exact checked read

theorem ReadsWithoutConfig.variable_ne_empty (line : ReadsWithoutConfig env words i) :
    env.get? configPathVariable ≠ some "" := by
  -- The option takes no empty path, so with an empty variable the line is not understood.
  intro empty
  obtain ⟨levels, read, notGiven, rfl⟩ := line
  obtain ⟨l, member, r, sameGiven, fits⟩ := environmentFits_of_readCommands read
  have notHere : r.has configOption.name = false := by
    have missing : SortedMap.lookupEntry configOption.name r.given = none :=
      sameGiven ▸ notGiven l member
    rw [Reading.has, missing, Option.isSome_none]
  have accepted := List.all_eq_true.1 fits configOption (by decide)
  simp [configOption, empty, ValueKind.accepts] at accepted
  simp [configOption, accepted] at notHere

/-! ## Runs -/

/-- Whether a command uses settings, and does not name their file itself. -/
def Command.looksForSettings : Command → Bool
  | inspect .. | check .. | config (.view _) | config (.validate none) => true
  | config (.validate (some _)) | config (.generate ..) => false

variable {c : Command} {w : Surroundings} {path other : Option String} {s : Settings}

theorem Command.code_of_fault (looks : c.looksForSettings = true)
    (failed : (Settings.load d w.env path).toOption = none) : (c.run d w path).code = 1 := by
  obtain ⟨fault, load⟩ : ∃ fault, Settings.load d w.env path = .error fault := by
    cases load : Settings.load d w.env path with
    | ok s => simp [load, Except.toOption] at failed
    | error fault => exact ⟨fault, rfl⟩
  cases c with
  | inspect => simp only [run, CommandLine.inspect, load, Outcome.failed]
  | check => simp only [run, CommandLine.check, load, Outcome.failed]
  | config c =>
    cases c with
    | view => simp only [run, viewSettings, load, Outcome.failed]
    | validate file =>
      cases file with
      | none => simp [run, validateSettings, load, Outcome.failed]
      | some file => cases looks
    | generate => cases looks

/-- A command does the same with the same settings, wherever these are from; only where it also shows
the paths it shows the one that was given. -/
theorem Command.run_congr (loaded : (Settings.load d w.env path).toOption = some s)
    (loadedOther : (Settings.load d w.env other).toOption = some s)
    (pathless : c ≠ .config (.view true)) : c.run d w path = c.run d w other := by
  have ok_of_toOption {x : Except Settings.LoadFault Settings} (loaded : x.toOption = some s) :
      x = .ok s := by
    cases x <;> cases loaded
    rfl
  have same := (ok_of_toOption loaded).trans (ok_of_toOption loadedOther).symm
  cases c with
  | inspect => simp only [run, CommandLine.inspect, same]
  | check => simp only [run, CommandLine.check, same]
  | config c =>
    cases c with
    | view paths =>
      cases paths with
      | true => exact absurd rfl pathless
      | false => simp only [run, viewSettings, same, Bool.false_eq_true, if_false]
    | validate file =>
      cases file with
      | none => simp [run, validateSettings, same]
      | some file => rfl
    | generate => rfl

/-! ## The law -/

/-- On a command line without the option the settings file is the one that the variable names. If it
is there, or no file is named, the settings are those that are found, and a command does what it does
with these. If it is not there, the search would pass on to the next place, but there are no settings,
and a command that looks for some fails. -/
theorem settings_without_option (d : Disk) (faithful : d.IsFaithful) (env : Environment)
    (words : List String) (i : Invocation) (line : ReadsWithoutConfig env words i) :
    let named := env.get? configPathVariable
    let used := (Settings.load d env i.configPath).toOption
    i.configPath = named ∧ named ≠ some "" ∧
    used = (if named.all d.holds then (Settings.load d env none).toOption else none) ∧
    Settings.discover d env = (named.filter d.holds).or
      (((some Settings.localPath).filter d.holds).or ((Settings.homePath? env).filter d.holds)) ∧
    ∀ terminal c, i.command = some c →
      (c.looksForSettings = true → used = none → (run d env terminal words).code = 1) ∧
      ∀ s, used = some s → c ≠ .config (.view true) →
        run d env terminal words =
          Invocation.run d ⟨env, wantsColor env terminal⟩ { i with configPath := none } := by
  intro named used
  have path : i.configPath = named := line.configPath_eq
  have same : used = if named.all d.holds then (Settings.load d env none).toOption else none := by
    simp only [used, path]
    exact Settings.toOption_load_variable faithful
  refine ⟨path, line.variable_ne_empty, same, Settings.discover_eq d env, ?_⟩
  intro terminal c asked
  have ran : run d env terminal words = i.run d ⟨env, wantsColor env terminal⟩ := by
    rw [run, line.parse_eq]
  rw [ran]
  constructor
  · intro looks failed
    simp only [Invocation.run, asked]
    split
    · rfl
    · exact Command.code_of_fault looks failed
  · intro s loaded pathless
    have found : (Settings.load d env none).toOption = some s := by
      rw [loaded] at same
      split at same
      · exact same.symm
      · cases same
    simp only [Invocation.run, asked]
    split
    · rfl
    · exact Command.run_congr loaded found pathless

def settingsTree : FileTree := ⟨[(["tfinspect.yaml"], .file (some "check:\n  fail_on: never\n"))]⟩

def naming (path : String) : Environment := (∅ : SortedMap String).insert configPathVariable path

def checkWith (path : String) : Invocation := ⟨some path, "warn", some (.check "mod" none)⟩

theorem checkWith_line (path : String)
    (read : (readCommands (naming path) 3 [] tool ["check", "mod"]).toOption =
      some [⟨"tfinspect", []⟩, ⟨"check", [("dir", "mod")]⟩])
    (asked : checkWith path =
      .ofLevels (naming path) [⟨"tfinspect", []⟩, ⟨"check", [("dir", "mod")]⟩]) :
    ReadsWithoutConfig (naming path) ["check", "mod"] (checkWith path) := by
  refine ⟨_, ?_, by decide, asked⟩
  cases outcome : readCommands (naming path) 3 [] tool ["check", "mod"] with
  | error stop => simp [outcome, Except.toOption] at read
  | ok levels => simpa [outcome, Except.toOption] using read

theorem checkWith_missing_line :
    ReadsWithoutConfig (naming "missing.yaml") ["check", "mod"] (checkWith "missing.yaml") :=
  checkWith_line "missing.yaml" (by decide +kernel) (by decide +kernel)

/-- A file that is not there makes the check fail, although settings would be found; one that is there
is used. -/
theorem checkWith_missing_and_held :
    let d := settingsTree.disk []
    let never : Settings := { check := ⟨.never⟩ }
    (Settings.discover d (naming "missing.yaml") = some "./tfinspect.yaml" ∧
      (Settings.load d (naming "missing.yaml") none).toOption = some never ∧
      (Settings.load d (naming "missing.yaml") (some "missing.yaml")).toOption = none ∧
      (run d (naming "missing.yaml") false ["check", "mod"]).code = 1) ∧
    (Settings.load d (naming "tfinspect.yaml") (some "tfinspect.yaml")).toOption = some never ∧
    run d (naming "tfinspect.yaml") false ["check", "mod"] =
      Invocation.run d ⟨naming "tfinspect.yaml", false⟩ ⟨none, "warn", some (.check "mod" none)⟩ := by
  intro d never
  have faithful : d.IsFaithful := FileTree.isFaithful_disk _ _
  constructor
  · obtain ⟨-, -, used, found, runs⟩ :=
      settings_without_option d faithful _ _ _ checkWith_missing_line
    have none_used : (Settings.load d (naming "missing.yaml") (some "missing.yaml")).toOption = none :=
      used.trans (if_neg (by decide +kernel))
    refine ⟨found.trans (by decide +kernel), by decide +kernel, none_used, ?_⟩
    exact (runs false _ rfl).1 rfl none_used
  · obtain ⟨-, -, used, -, runs⟩ := settings_without_option d faithful _ _ _
      (checkWith_line "tfinspect.yaml" (by decide +kernel) (by decide +kernel))
    have never_used :
        (Settings.load d (naming "tfinspect.yaml") (some "tfinspect.yaml")).toOption = some never :=
      used.trans (by decide +kernel)
    exact ⟨never_used, (runs false _ rfl).2 never never_used (by decide)⟩

/-- That a command line without the option always has the settings that are found is false: it has none
where the variable names a file that is not there. -/
theorem used_settings_not_always_found :
    ¬ ∀ (d : Disk) (env : Environment) (words : List String) (i : Invocation), d.IsFaithful →
      ReadsWithoutConfig env words i →
      (Settings.load d env i.configPath).toOption = (Settings.load d env none).toOption := by
  intro same
  have sameHere := same (settingsTree.disk []) _ _ _ (FileTree.isFaithful_disk _ _)
    checkWith_missing_line
  exact absurd sameHere (by decide +kernel)

end CommandLine

end ModuleSurvey
