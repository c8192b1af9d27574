import ModuleSurvey.Yaml.Content

/-! # Reading nodes as values

Readers of a wanted shape, which tell what is wrong with a node and where.

* `Misfit` — a mismatch and its place: the path through the document and the mark.
* `readText`, `readBool`, `readList`, `readChoice`, `readRecord` — readers of a wanted shape.
-/

namespace ModuleSurvey.Yaml

/-! ## Faults -/

/-- What is wrong with a document, and at which path and mark. The place is unknown until a reader
around it tells it. -/
structure Misfit where
  mismatch : Mismatch
  place : Option (String × Mark)
  deriving DecidableEq, Repr

namespace Misfit

/-- The fault at a place, unless its place is known already. -/
def placed (path : String) (mark : Mark) (f : Misfit) : Misfit :=
  { f with place := some (f.place.getD (path, mark)) }

def markText (mark : Mark) : String :=
  -- The beginning of the text is not named.
  if mark = .start then ""
  else " at line " ++ toString (mark.line + 1) ++ " column " ++ toString (mark.column + 1)

def message (f : Misfit) : String :=
  match f.place with
  | none => f.mismatch.message
  | some (path, mark) =>
    -- The path of the root is not named.
    (if path = "" then "" else path ++ ": ") ++ f.mismatch.message ++ markText mark

end Misfit

abbrev NodeReader (α : Type) := (path : String) → Node → Except Misfit α

def placed {α : Type} (path : String) (mark : Mark) : Except Misfit α → Except Misfit α
  | .ok a => .ok a
  | .error f => .error (f.placed path mark)

namespace Node

def target : Node → Node
  | reference _ n => target n
  | n => n

def misfit (wanted : String) : Node → Mismatch
  | scalar _ tag style text =>
    match Scalar.ofNode tag style text with
    | .ok s => .wrongType s.found wanted
    | .error demand => .wrongValue (.string text) demand
  | sequence .. => .wrongType .sequence wanted
  | mapping .. => .wrongType .map wanted
  | reference _ n => misfit wanted n

def isEmpty : Node → Bool
  | scalar _ _ style text => style = .plain && text = ""
  | _ => false

end Node

def refuse {α : Type} (wanted : String) (path : String) (n : Node) : Except Misfit α :=
  .error ⟨n.misfit wanted, some (path, n.mark)⟩

/-! ## Simple values -/

def readText (wanted : String) : NodeReader String := fun path n =>
  match n.target with
  | .scalar _ _ _ text => .ok text
  | n => refuse wanted path n

/-- Reads a truth value: a plain scalar, or a literal one with its tag. -/
def readBool : NodeReader Bool := fun path n =>
  match n.target with
  | .scalar mark tag style text =>
    match style, readBool? text with
    | .plain, some b => .ok b
    | .literal, some b =>
      if tag = some (Scalar.coreTag "bool") then .ok b
      else refuse "a boolean" path (.scalar mark tag style text)
    | _, _ => refuse "a boolean" path (.scalar mark tag style text)
  | n => refuse "a boolean" path n

def readWord {α : Type} (choices : List (String × α)) (word : String) : Except Misfit α :=
  match SortedMap.lookupEntry word choices with
  | some a => .ok a
  | none => .error ⟨.unknownVariant word (choices.map (·.1)), none⟩

/-- Reads one of several words, written as a scalar or as a local tag of an empty value. -/
def readChoice {α : Type} (choices : List (String × α)) : NodeReader α
  | path, .reference mark n => placed path mark (readChoice choices path n)
  | path, .scalar mark tag style text =>
    match localTag? tag with
    | none => placed path mark (readWord choices text)
    | some word => do
      let a ← readWord choices word
      if style = .plain && (text = "" || nullWords.contains text) then return a
      else throw ⟨.wrongValue (.string text) "null", some (path, mark)⟩
  | path, n =>
    let tag :=
      match n with
      | .sequence _ tag _ | .mapping _ tag _ => tag
      | _ => none
    match localTag? tag with
    | none => refuse "a YAML tag starting with '!'" path n
    | some word => do
      let _ ← readWord choices word
      refuse "unit" path n

/-! ## Lists and records -/

/-- Reads the items of a list from the item number `index` on. -/
def readItems {α : Type} (item : NodeReader α) (path : String) :
    (index : Nat) → List Node → Except Misfit (List α)
  | _, [] => .ok []
  | index, n :: ns => do
    let a ← item (path ++ "[" ++ toString index ++ "]") n
    return a :: (← readItems item path (index + 1) ns)

def readList {α : Type} (item : NodeReader α) : NodeReader (List α) := fun path n =>
  match n.target with
  | .sequence mark _ items => placed path mark (readItems item path 0 items)
  -- Nothing stands for the empty list.
  | n => if n.isEmpty then .ok [] else refuse "a sequence" path n

abbrev FieldReader (α : Type) := (path : String) → Node → α → Except Misfit α

def entryPath (path : String) (key : Node) : String :=
  let name :=
    match key with
    | .scalar _ _ _ text => text
    -- A key that is a reference has no name in the path.
    | _ => "?"
  if path = "" then name else path ++ "." ++ name

def readFields {α : Type} (fields : List (String × FieldReader α)) (path : String) :
    (seen : List String) → List (Node × Node) → α → Except Misfit α
  | _, [], a => .ok a
  | seen, (key, value) :: entries, a => do
    let name ← readText "field identifier" path key
    match SortedMap.lookupEntry name fields with
    -- Entries that are no fields are passed over.
    | none => readFields fields path seen entries a
    | some field =>
      if seen.contains name then throw ⟨.duplicateField name, none⟩
      let a ← field (entryPath path key) value a
      readFields fields path (name :: seen) entries a

def readRecord {α : Type} (wanted : String) (default : α) (fields : List (String × FieldReader α)) :
    NodeReader α := fun path n =>
  match n.target with
  | .mapping mark _ entries => placed path mark (readFields fields path [] entries default)
  -- Nothing stands for the defaults alone.
  | n => if n.isEmpty then .ok default else refuse ("struct " ++ wanted) path n

end ModuleSurvey.Yaml
