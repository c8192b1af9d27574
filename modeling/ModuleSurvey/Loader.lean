import ModuleSurvey.Disk
import ModuleSurvey.Json.Reader
import ModuleSurvey.Module.Declare
import ModuleSurvey.Native.Body
import ModuleSurvey.Settings.Basic

/-! # Loading a directory

* `ConfigName`, `ConfigName.ofName?` — the format and the role that a file's name stands for.
* `selectNames` — which files of a directory belong to the module, in the order in which they are
  read: the primary files by name, then the override files by name.
* `loadModule` — the module of a directory; whatever goes wrong is a problem of the module.
* `isModuleDir` — whether a directory holds a file of a module.
-/

namespace ModuleSurvey

/-! ## File names -/

structure ConfigName where
  format : FileFormat
  role : FileRole
  deriving DecidableEq, Repr

namespace ConfigName

def roleOf (stem : List Char) : FileRole :=
  if stem = "override".toList ∨ (Text.dropEnd? "_override".toList stem).isSome then .override
  else .primary

def ofName? (name : String) : Option ConfigName :=
  match Text.dropEnd? ".tf.json".toList name.toList with
  | some stem => some ⟨.json, roleOf stem⟩
  | none => (Text.dropEnd? ".tf".toList name.toList).map fun stem => ⟨.native, roleOf stem⟩

end ConfigName

/-- Hidden files and the files that editors leave behind. -/
def isHiddenName (name : String) : Bool :=
  let cs := name.toList
  cs.head? = some '.' || cs.head? = some '#' || cs.getLast? = some '~'

def LoaderSettings.ignores (s : LoaderSettings) (name : String) : Bool :=
  isHiddenName name || s.ignore.contains name

structure ConfigFile where
  name : String
  format : FileFormat
  role : FileRole
  deriving DecidableEq, Repr

def LoaderSettings.file? (s : LoaderSettings) (name : String) : Option ConfigFile :=
  if s.ignores name then none
  else (ConfigName.ofName? name).map fun c => ⟨name, c.format, c.role⟩

def selectNames (s : LoaderSettings) (names : List String) : List ConfigFile :=
  let files := (names.mergeSort (· ≤ ·)).filterMap s.file?
  files.filter (·.role = .primary)
    ++ if s.includeOverrides then files.filter (·.role = .override) else []

/-! ## Loading -/

def fileNames (d : Disk) (dir : String) : Except DiskFault (List String) := do
  match ← d.look dir with
  -- A path that leads to a file has no entries.
  | .file => return []
  | .directory => return (← d.names dir).filter fun name => d.isFile (Disk.join dir name)

/-- The body of a file, or why the text is refused, and in which line. A native text is refused in
the given words, which tell no line. -/
def parseBody (nativeFault : String → String) (format : FileFormat) (text : String) :
    Except (String × Nat) Json.Value :=
  match format with
  | .native =>
    match Native.valueOfText? text with
    | some v => .ok v
    | none => .error (nativeFault text, 1)
  | .json =>
    match Json.Value.parse text with
    | .ok v => .ok v
    | .error f => .error (f.message text.toList, f.line text.toList)

def loadText (nativeFault : String → String) (m : Module) (path : String) (file : ConfigFile)
    (text : String) : Module :=
  match parseBody nativeFault file.format text with
  | .error (detail, line) =>
    m.report (.errorAt ⟨path, line⟩ "Failed to parse configuration file" detail)
  | .ok body => m.decode file.role (.scan path file.format text) body

def loadFile (d : Disk) (dir : String) (m : Module) (file : ConfigFile) : Module :=
  let path := Disk.join dir file.name
  match d.read path with
  | .error fault =>
    m.report (.errorAt ⟨path, 1⟩ "Failed to read file"
      ("The configuration file " ++ path ++ " could not be read: " ++ fault.message))
  | .ok text => loadText d.nativeFault m path file text

def directoryProblem (dir : String) (fault : DiskFault) : Diagnostic :=
  .error "Failed to read module directory"
    ("Module directory " ++ dir ++ " does not exist or cannot be read: IO error for operation on "
      ++ dir ++ ": " ++ fault.message)

def loadModule (d : Disk) (s : LoaderSettings) (dir : String) : Module :=
  match fileNames d dir with
  | .error fault => (Module.new dir).report (directoryProblem dir fault)
  | .ok names => (selectNames s names).foldl (loadFile d dir) (Module.new dir)

def isModuleDir (d : Disk) (s : LoaderSettings) (dir : String) : Bool :=
  match fileNames d dir with
  | .error _ => false
  | .ok names => !(selectNames s names).isEmpty

end ModuleSurvey
