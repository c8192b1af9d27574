import ModuleSurvey.CommandLine.Run

/-! # The command line tool

Looks at the files that a command line is about, runs it on what was seen, and carries out what the
run decides. -/

namespace ModuleSurvey.Main

structure Sight where
  kind : Except DiskFault NodeKind
  names : Except DiskFault (List String)
  content : Except DiskFault String

def faultOf : IO.Error → DiskFault
  | .noFileOrDirectory .. => .notFound
  | .inappropriateType _ 21 _ => .isDirectory
  | .inappropriateType .. => .notDirectory
  | e => .other e.toString

def attempt {α : Type} (act : IO α) : IO (Except DiskFault α) := do
  try return .ok (← act) catch e => return .error (faultOf e)

def readText (path : String) : IO (Except DiskFault String) := do
  match ← attempt (IO.FS.readBinFile path) with
  | .error f => return .error f
  | .ok bytes =>
    match String.fromUTF8? bytes with
    | some text => return .ok text
    | none => return .error .notText

def readNames (path : String) : IO (List String) := do
  let entries ← (← IO.FS.realPath path).readDir
  return entries.toList.map (·.fileName)

def look (path : String) : IO Sight := do
  match ← attempt (readNames path) with
  | .ok names => return ⟨.ok .directory, .ok names, .error .isDirectory⟩
  | .error fault =>
    match ← readText path with
    | .error .isDirectory => return ⟨.ok .directory, .error fault, .error .isDirectory⟩
    | .error .notText => return ⟨.ok .file, .error .notDirectory, .error .notText⟩
    | .error f => return ⟨.error f, .error f, .error f⟩
    | .ok text => return ⟨.ok .file, .error .notDirectory, .ok text⟩

def lookInside (dir : String) (s : Sight) : IO (List (String × Sight)) := do
  (s.names.toOption.getD []).mapM fun name => do
    let path := Disk.join dir name
    return (path, ← look path)

def diskOf (sights : List (String × Sight)) : Disk where
  look path := (SortedMap.lookupEntry path sights).elim (.error .notFound) (·.kind)
  names path := (SortedMap.lookupEntry path sights).elim (.error .notFound) (·.names)
  read path := (SortedMap.lookupEntry path sights).elim (.error .notFound) (·.content)
  writeFault? _ := none
  -- The parser here finds no place and no cause, so it has one message for all texts.
  nativeFault _ := "The file is not well formed."

def survey (env : Environment) (i : CommandLine.Invocation) : IO Disk := do
  let files ← (i.files env).mapM fun path => do return (path, ← look path)
  match i.directory? with
  | none => return diskOf files
  | some dir =>
    let s ← look dir
    return diskOf (files ++ (dir, s) :: (← lookInside dir s))

def variableNames : List String := [
  "HOME", "RUST_LOG", "CLICOLOR", "CLICOLOR_FORCE", "NO_COLOR", configPathVariable,
  formatVariable, failLevelVariable, CommandLine.logLevelVariable]

def environment : IO Environment := do
  let entries ← variableNames.filterMapM fun name => do
    return (← IO.getEnv name).map fun value => (name, value)
  return .ofList entries

def writeFile? (file : Option (String × String)) : IO (Option DiskFault) := do
  match file with
  | none => return none
  | some (path, text) =>
    match ← attempt (IO.FS.writeFile path text) with
    | .ok () => return none
    | .error f => return some f

def run (words : List String) : IO UInt32 := do
  let env ← environment
  let out ← IO.getStdout
  let err ← IO.getStderr
  let terminal ← out.isTty
  let disk ←
    match CommandLine.Invocation.parse env words with
    | .ok i => survey env i
    | .error _ => pure (diskOf [])
  let outcome := CommandLine.run disk env terminal words
  let outcome ←
    match ← writeFile? outcome.file with
    | none => pure outcome
    | some f =>
      let faulty := { disk with writeFault? := fun _ => some f }
      pure (CommandLine.run faulty env terminal words)
  out.putStr outcome.out
  out.flush
  err.putStr outcome.err
  return outcome.code.toUInt32

end ModuleSurvey.Main

def main (words : List String) : IO UInt32 := ModuleSurvey.Main.run words
