import ModuleSurvey.Declaration

/-! # Blocks

The body of a configuration file is an object whose members are the types of its blocks. Below a
type come the labels, each level an object or a list of objects, and below the last label the
bodies.

* `BlockType` — the types that declare something, each with the number of its labels.
* `Block.collect` — all blocks below a value, or the first value that is no object.
-/

namespace ModuleSurvey

open Json (Value Members)

inductive BlockType where
  | terraform
  | provider
  | inputVariable
  | output
  | resource (mode : ResourceMode)
  | moduleCall
  deriving DecidableEq, Repr

namespace BlockType

def word : BlockType → String
  | terraform => "terraform"
  | provider => "provider"
  | inputVariable => "variable"
  | output => "output"
  | resource .managed => "resource"
  | resource .data => "data"
  | moduleCall => "module"

def all : List BlockType :=
  [terraform, provider, inputVariable, output, resource .managed, resource .data, moduleCall]

def ofWord? (s : String) : Option BlockType := all.find? (·.word = s)

def labelCount : BlockType → Nat
  | terraform => 0
  | provider | inputVariable | output | moduleCall => 1
  | resource _ => 2

end BlockType

structure Block where
  labels : List String
  body : Members

/-- Why a value holds no blocks: behind these labels stands something that is no object. -/
structure BlockFault where
  labels : List String
  found : String
  deriving DecidableEq, Repr

def BlockFault.message (f : BlockFault) : String :=
  "expected an object"
    ++ (if f.labels.isEmpty then "" else " for \"" ++ ".".intercalate f.labels ++ "\"")
    ++ ", found " ++ f.found

namespace Block

mutual

/-- The blocks that stand `count` labels below a value, from left to right. `labels` are the
labels that lead to the value. -/
def collect (labels : List String) (count : Nat) : Value → Except BlockFault (List Block)
  | .array vs => collectItems labels count vs
  | .object ms =>
    match count with
    | 0 => .ok [⟨labels, ms⟩]
    | count + 1 => collectMembers labels count ms
  | v => .error ⟨labels, v.kind⟩

def collectItems (labels : List String) (count : Nat) :
    List Value → Except BlockFault (List Block)
  | [] => .ok []
  | v :: vs => do return (← collect labels count v) ++ (← collectItems labels count vs)

def collectMembers (labels : List String) (count : Nat) :
    List (String × Value) → Except BlockFault (List Block)
  | [] => .ok []
  | (label, v) :: ms => do
    return (← collect (labels ++ [label]) count v) ++ (← collectMembers labels count ms)

end

end Block

end ModuleSurvey
