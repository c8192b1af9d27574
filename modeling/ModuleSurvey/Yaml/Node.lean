import ModuleSurvey.Yaml.Token

/-! # Nodes of a YAML document

* `Node` — a scalar, a sequence, a mapping, or a reference to an anchored node.
* `Node.size`, `Node.depth` — the number of nodes as they are written, and how deep they are
  nested when references are followed.
-/

namespace ModuleSurvey.Yaml

/-- A node, with its place and its tag as they are written. The place is that of its first
character, properties included. -/
inductive Node where
  | scalar (mark : Mark) (tag : Option String) (style : ScalarStyle) (text : String)
  | sequence (mark : Mark) (tag : Option String) (items : List Node)
  | mapping (mark : Mark) (tag : Option String) (entries : List (Node × Node))
  /-- A reference, with the node that it stands for. -/
  | reference (mark : Mark) (target : Node)
  deriving Inhabited

namespace Node

def empty (mark : Mark) : Node := .scalar mark none .plain ""

def mark : Node → Mark
  | scalar m .. | sequence m .. | mapping m .. | reference m _ => m

mutual

/-- The number of marks that delimit the node and all nodes in it: one for a scalar or a
reference, two for a collection. -/
def size : Node → Nat
  | scalar .. => 1
  | sequence _ _ items => 2 + sizeItems items
  | mapping _ _ entries => 2 + sizeEntries entries
  | reference .. => 1

def sizeItems : List Node → Nat
  | [] => 0
  | n :: ns => size n + sizeItems ns

def sizeEntries : List (Node × Node) → Nat
  | [] => 0
  | (k, v) :: es => size k + size v + sizeEntries es

end

mutual

/-- How many collections are open at most, references followed. -/
def depth : Node → Nat
  | scalar .. => 0
  | sequence _ _ items => 1 + depthItems items
  | mapping _ _ entries => 1 + depthEntries entries
  | reference _ target => depth target

def depthItems : List Node → Nat
  | [] => 0
  | n :: ns => max (depth n) (depthItems ns)

def depthEntries : List (Node × Node) → Nat
  | [] => 0
  | (k, v) :: es => max (max (depth k) (depth v)) (depthEntries es)

end

end Node

end ModuleSurvey.Yaml
