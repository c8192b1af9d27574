/-! # Disks

All that the library sees of its surroundings when it reads a directory: what a path leads to, the
names in a directory, the text of a file, why a file cannot be written, and how the parser of native
files words its refusals.

* `DiskFault` — why a path cannot be used, in the words of the system.
* `Disk` — the observations, each a function of a path.
-/

namespace ModuleSurvey

inductive DiskFault where
  | notFound
  | notDirectory
  | isDirectory
  | tooManyLinks
  /-- The content of a file is no text. -/
  | notText
  | other (message : String)
  deriving DecidableEq, Repr

def DiskFault.message : DiskFault → String
  | notFound => "No such file or directory (os error 2)"
  | notDirectory => "Not a directory (os error 20)"
  | isDirectory => "Is a directory (os error 21)"
  | tooManyLinks => "Too many levels of symbolic links (os error 40)"
  | notText => "stream did not contain valid UTF-8"
  | other message => message

/-- What a path leads to, all links followed. -/
inductive NodeKind where
  | file
  | directory
  deriving DecidableEq, Repr

/-- A file system as it is seen from the working directory, with the parser that its native files are
handed to. -/
structure Disk where
  look : String → Except DiskFault NodeKind
  /-- The names in a directory, in any order. -/
  names : String → Except DiskFault (List String)
  read : String → Except DiskFault String
  /-- Why a file cannot be written at a path, if so. -/
  writeFault? : String → Option DiskFault
  /-- The message of the parser for a text of a native file that it refuses. It may have any number of
  lines. -/
  nativeFault : String → String

namespace Disk

def holds (d : Disk) (path : String) : Bool := (d.look path).isOk

def isFile (d : Disk) (path : String) : Bool :=
  match d.look path with
  | .ok .file => true
  | _ => false

def join (dir name : String) : String :=
  if dir = "" ∨ dir.toList.getLast? = some '/' then dir ++ name else dir ++ "/" ++ name

end Disk

end ModuleSurvey
