import ModuleSurvey.Block
import ModuleSurvey.BlockIndex

/-! # Statements

The body of a file as a list of located blocks.

* `Statement` — a block that declares something, with its place, or the place of something that
  is no block.
* `Statement.ofBody` — the statements of a body, in the order of the block types, and of the
  blocks of each type.
-/

namespace ModuleSurvey

open Json (Value Members)

/-- A block with its place, or what stands where blocks should be. -/
inductive Statement where
  | terraform (pos : SourcePos) (body : Members)
  | provider (pos : SourcePos) (name : String) (body : Members)
  | inputVariable (pos : SourcePos) (name : String) (body : Members)
  | output (pos : SourcePos) (name : String) (body : Members)
  | resource (pos : SourcePos) (mode : ResourceMode) (type name : String) (body : Members)
  | moduleCall (pos : SourcePos) (name : String) (body : Members)
  /-- The value of a block type does not consist of blocks. -/
  | malformed (pos : SourcePos) (type : BlockType) (fault : BlockFault)
  /-- The whole body is no object. -/
  | noBody (pos : SourcePos)

namespace Statement

/-- The statement of a block with as many labels as its type asks for. -/
def ofBlock? (type : BlockType) (pos : SourcePos) (block : Block) : Option Statement :=
  match type, block.labels with
  | .terraform, [] => some (.terraform pos block.body)
  | .provider, [name] => some (.provider pos name block.body)
  | .inputVariable, [name] => some (.inputVariable pos name block.body)
  | .output, [name] => some (.output pos name block.body)
  | .resource mode, [type, name] => some (.resource pos mode type name block.body)
  | .moduleCall, [name] => some (.moduleCall pos name block.body)
  | _, _ => none

/-- The statements of blocks of one type, whose places are looked up one after the other. -/
def ofBlocks (type : BlockType) : List Block → BlockIndex → List Statement × BlockIndex
  | [], index => ([], index)
  | block :: blocks, index =>
    let (pos, index) := index.locate type.word block.labels
    let (statements, index) := ofBlocks type blocks index
    ((ofBlock? type pos block).toList ++ statements, index)

def ofMember (name : String) (value : Value) (index : BlockIndex) :
    List Statement × BlockIndex :=
  match BlockType.ofWord? name with
  -- A type that declares nothing is passed over.
  | none => ([], index)
  | some type =>
    match Block.collect [] type.labelCount value with
    | .ok blocks => ofBlocks type blocks index
    -- A value with a fault in it counts as one statement.
    | .error fault =>
      let (pos, index) := index.locate type.word []
      ([.malformed pos type fault], index)

def ofMembers : Members → BlockIndex → List Statement × BlockIndex
  | [], index => ([], index)
  | (name, value) :: ms, index =>
    let (first, index) := ofMember name value index
    let (more, index) := ofMembers ms index
    (first ++ more, index)

def ofBody (body : Value) (index : BlockIndex) : List Statement × BlockIndex :=
  match body with
  | .object ms => ofMembers ms index
  | _ => ([.noBody index.filePos], index)

end Statement

end ModuleSurvey
