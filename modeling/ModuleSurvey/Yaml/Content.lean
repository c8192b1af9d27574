import ModuleSurvey.Text.Lines
import ModuleSurvey.Yaml.Document
import ModuleSurvey.Yaml.Scalar
import ModuleSurvey.Yaml.Token.Lexer

/-! # What a document holds

A document is sound if all of it is, whether it is wanted or not: scalars fit their tags, and a
mapping has each key once, where keys are the same when their values are, however they are
written.

* `Content` — the value of a node, references followed.
* `Content.same` — equality, where the entries of a mapping have no order.
* `Node.content?` — the value of a node, unless something is wrong with it.
* `parse?`, `Document.isSound` — the document of a text, and whether all of it is sound.
-/

namespace ModuleSurvey.Yaml

inductive Content where
  | scalar (s : Scalar)
  | sequence (items : List Content)
  | mapping (entries : List (Content × Content))
  /-- A value with a local tag, given without its exclamation mark. -/
  | tagged (tag : String) (content : Content)
  deriving Inhabited

namespace Scalar

def same : Scalar → Scalar → Bool
  | float x, float y => x.same y
  | a, b => a = b

end Scalar

namespace Content

mutual

def same : Content → Content → Bool
  | scalar a, scalar b => a.same b
  | sequence as, sequence bs => sameItems as bs
  | mapping as, mapping bs => as.length == bs.length && sameEntries as bs
  | tagged s a, tagged t b => s == t && same a b
  | _, _ => false

def sameItems : List Content → List Content → Bool
  | [], [] => true
  | a :: as, b :: bs => same a b && sameItems as bs
  | _, _ => false

def sameEntries : List (Content × Content) → List (Content × Content) → Bool
  | [], _ => true
  | (k, v) :: as, bs => bs.any (fun (l, w) => same k l && same v w) && sameEntries as bs

end

def hasKey (entries : List (Content × Content)) (key : Content) : Bool :=
  entries.any fun (k, _) => same k key

end Content

def localTag? (tag : Option String) : Option String :=
  tag.bind fun t => (Text.dropStart? ['!'] t.toList).map String.ofList

/-- The value under a local tag, which may not be empty. -/
def Content.under (tag : Option String) (content : Content) : Option Content :=
  match localTag? tag with
  | none => some content
  | some "" => none
  | some name => some (.tagged name content)

namespace Node

mutual

def content? : Node → Option Content
  | scalar _ tag style text => do
    let s ← (Scalar.ofNode tag style text).toOption
    match s with
    -- Whole numbers have 64 bits at most.
    | .whole n => if !Json.isExact n then none
    | _ => pure ()
    Content.under tag (.scalar s)
  | sequence _ tag items => do Content.under tag (.sequence (← contentItems? items))
  | mapping _ tag entries => do Content.under tag (.mapping (← contentEntries? entries []))
  | reference _ target => content? target

def contentItems? : List Node → Option (List Content)
  | [] => some []
  | n :: ns => do return (← content? n) :: (← contentItems? ns)

def contentEntries? : List (Node × Node) → List (Content × Content) →
    Option (List (Content × Content))
  | [], before => some before
  | (k, v) :: es, before => do
    let key ← content? k
    -- No key may come twice.
    if Content.hasKey before key then none
    contentEntries? es (before ++ [(key, ← content? v)])

end

end Node

namespace Document

def maxDepth : Nat := 128

def isSound (d : Document) : Bool :=
  match d.root with
  | none => true
  | some root =>
    -- References may not multiply what is written more than a hundredfold.
    d.references ≤ 100 * root.size && root.depth ≤ maxDepth && root.content?.isSome

end Document

def parse? (text : String) : Option Document := (lexemes? text.toList).bind Document.ofLexemes?

end ModuleSurvey.Yaml
