import ModuleSurvey.Json.Value
import ModuleSurvey.Provider
import ModuleSurvey.SourcePos

/-! # Declarations

What a module declares.

* `Variable`, `Output` — its inputs and results.
* `Resource` — a managed resource or a data source; `Resource.address` is its name in the module.
* `ModuleCall` — the use of another module.
-/

namespace ModuleSurvey

/-- An input variable. It is required when it was declared without a default. -/
structure Variable where
  name : String
  type : Option String
  description : String
  default : Option Json.Value
  required : Bool
  sensitive : Bool
  pos : SourcePos
  deriving DecidableEq

def Variable.new (name : String) (pos : SourcePos) : Variable :=
  ⟨name, none, "", none, true, false, pos⟩

def Variable.setDefault (v : Variable) (default : Json.Value) : Variable :=
  { v with default := some default, required := false }

structure Output where
  name : String
  description : String
  sensitive : Bool
  pos : SourcePos
  deriving DecidableEq

def Output.new (name : String) (pos : SourcePos) : Output := ⟨name, "", false, pos⟩

inductive ResourceMode where
  | managed
  | data
  deriving DecidableEq, Repr, Inhabited

def ResourceMode.text : ResourceMode → String
  | managed => "managed"
  | data => "data"

structure Resource where
  mode : ResourceMode
  type : String
  name : String
  provider : ProviderRef
  pos : SourcePos
  deriving DecidableEq

namespace Resource

/-- A resource whose provider is implied by its type. -/
def new (mode : ResourceMode) (type name : String) (pos : SourcePos) : Resource :=
  ⟨mode, type, name, .plain (impliedProvider type), pos⟩

def addressOf (mode : ResourceMode) (type name : String) : String :=
  match mode with
  | .managed => type ++ "." ++ name
  | .data => "data." ++ type ++ "." ++ name

def address (r : Resource) : String := addressOf r.mode r.type r.name

end Resource

/-- The use of another module: its source address, empty if the declaration left it out, and the
constraint on its version. -/
structure ModuleCall where
  name : String
  source : String
  version : String
  pos : SourcePos
  deriving DecidableEq

def ModuleCall.new (name source : String) (pos : SourcePos) : ModuleCall :=
  ⟨name, source, "", pos⟩

end ModuleSurvey
