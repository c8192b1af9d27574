import ModuleSurvey.Disk
import ModuleSurvey.Text.Lines

/-! # File trees

A file system held in memory, with directories, files and symbolic links.

* `FileTree` — the nodes by their places below the root.
* `FileTree.resolve` — the place a path leads to: name by name, each link followed, at most forty
  of them.
* `FileTree.disk` — the tree as it is seen from a working directory.
* `FileTree.write`, `FileTree.put` — writing a file, and adding a node with the directories above
  it.
-/

namespace ModuleSurvey

/-- The names on the way from the root to a node. -/
abbrev Place := List String

inductive TreeNode where
  | directory
  /-- A file; its content may be no text. -/
  | file (content : Option String)
  /-- A link with its target, seen from the link's directory. -/
  | link (target : String)
  deriving DecidableEq, Repr

structure FileTree where
  nodes : List (Place × TreeNode)
  deriving Repr

namespace FileTree

def node? (t : FileTree) (place : Place) : Option TreeNode :=
  if place = [] then some .directory else (t.nodes.find? (·.1 = place)).map (·.2)

def parts (path : String) : List String :=
  let names := (Text.splitOn '/' path.toList).map String.ofList
  -- A slash at the end asks for a directory, as a point would.
  names.filter (· ≠ "") ++ if path.toList.getLast? = some '/' then ["."] else []

def origin (cwd : Place) (path : String) : Place :=
  if path.toList.head? = some '/' then [] else cwd

def walk (t : FileTree) (follow : Place → List String → Except DiskFault Place) :
    Place → List String → Except DiskFault Place
  | here, [] => .ok here
  | here, name :: names =>
    if t.node? here ≠ some .directory then .error .notDirectory
    else if name = "." then walk t follow here names
    else if name = ".." then walk t follow here.dropLast names
    else
      match t.node? (here ++ [name]) with
      | none => .error .notFound
      -- A link is handed over with its directory, and with the names of its target and of the rest
      -- of the way.
      | some (.link target) => follow (origin here target) (parts target ++ names)
      | some _ => walk t follow (here ++ [name]) names

/-- The place that names lead to from a directory, where at most `links` links are followed. -/
def resolveFrom (t : FileTree) : (links : Nat) → Place → List String → Except DiskFault Place
  | 0 => t.walk fun _ _ => .error .tooManyLinks
  | links + 1 => t.walk (resolveFrom t links)

def maxLinks : Nat := 40

def resolve (t : FileTree) (cwd : Place) (path : String) : Except DiskFault Place :=
  if path = "" then .error .notFound
  else resolveFrom t maxLinks (origin cwd path) (parts path)

def namesBelow (t : FileTree) (place : Place) : List String :=
  t.nodes.filterMap fun (p, _) => if p.dropLast = place then p.getLast? else none

def writeTarget (t : FileTree) (cwd : Place) : (links : Nat) → String → Except DiskFault Place
  | links, path =>
    if path = "" then .error .notFound
    else
      match t.resolve cwd path with
      | .ok place =>
        match t.node? place with
        | some (.file _) => .ok place
        | _ => .error .isDirectory
      | .error .notFound =>
        if path.toList.getLast? = some '/' then .error .isDirectory
        else
          match (parts path).getLast? with
          | none => .error .notFound
          | some name => do
            -- The directory of a new file has to be there.
            let dir ← resolveFrom t maxLinks (origin cwd path) (parts path).dropLast
            if t.node? dir ≠ some .directory then throw .notDirectory
            match t.node? (dir ++ [name]), links with
            | none, _ => return dir ++ [name]
            | some (.link target), links + 1 => writeTarget t dir links target
            | _, _ => throw .notFound
      | .error fault => .error fault

def set (t : FileTree) (place : Place) (node : TreeNode) : FileTree :=
  ⟨t.nodes.filter (·.1 ≠ place) ++ [(place, node)]⟩

def write (t : FileTree) (cwd : Place) (path text : String) : Except DiskFault FileTree := do
  return t.set (← t.writeTarget cwd maxLinks path) (.file (some text))

/-- Adds the directories on the way along names that are not there yet, and gives the place at the
end of it. -/
def makeDirectories : FileTree → Place → List String → FileTree × Place
  | t, here, [] => (t, here)
  | t, here, name :: names =>
    match resolveFrom t maxLinks here [name] with
    | .ok place => makeDirectories t place names
    | .error _ => makeDirectories (t.set (here ++ [name]) .directory) (here ++ [name]) names

def put (t : FileTree) (cwd : Place) (path : String) (node : TreeNode) : FileTree :=
  let names := parts path
  let (t, dir) := t.makeDirectories (origin cwd path) names.dropLast
  match names.getLast? with
  | none => t
  | some name =>
    match node, t.node? (dir ++ [name]) with
    | .directory, some _ => t
    | _, _ => t.set (dir ++ [name]) node

/-- The tree as it is seen from a working directory. Where no parser is given, a native text that is
refused is its own message. -/
def disk (t : FileTree) (cwd : Place) (nativeFault : String → String := id) : Disk where
  look path := do
    match t.node? (← t.resolve cwd path) with
    | some .directory => return .directory
    | some _ => return .file
    | none => throw .notFound
  names path := do
    let place ← t.resolve cwd path
    match t.node? place with
    | some .directory => return t.namesBelow place
    | _ => throw .notDirectory
  read path := do
    match t.node? (← t.resolve cwd path) with
    | some (.file (some text)) => return text
    | some (.file none) => throw .notText
    | _ => throw .isDirectory
  writeFault? path :=
    match t.writeTarget cwd maxLinks path with
    | .ok _ => none
    | .error fault => some fault
  nativeFault

end FileTree

end ModuleSurvey
