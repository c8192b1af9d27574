import ModuleSurvey.SortedMap
import ModuleSurvey.Yaml.Node

/-! # Documents

A text holds one document at most, which is put together from its tokens.

* `Document` — the root of a text, and how much it holds.
* `Assembly` — the tokens that are left and the anchors so far.
* `takeNode` — the next node, with the readers of the four kinds of collections.
* `Document.ofLexemes?` — the document of all tokens.
-/

namespace ModuleSurvey.Yaml

structure Document where
  /-- The root, or nothing where the text is empty. -/
  root : Option Node
  /-- How many references are met when all of them are followed. -/
  references : Nat
  deriving Inhabited

/-! ## State -/

/-- What an anchor stands for: a node, and the number of references met in it. -/
structure Anchored where
  node : Node
  references : Nat

structure Assembly where
  tokens : List Lexeme
  /-- The anchors so far, the latest first; without a node while it is being read. -/
  anchors : List (String × Option Anchored)
  /-- How many references were met, those behind references included. -/
  references : Nat

namespace Assembly

def peek (c : Assembly) : Lexeme := c.tokens.headD ⟨.streamEnd, .start⟩

def pass (c : Assembly) : Assembly := { c with tokens := c.tokens.drop 1 }

def bind (c : Assembly) (anchor : Option String) (target : Option Anchored) : Assembly :=
  match anchor with
  | none => c
  | some name => { c with anchors := (name, target) :: c.anchors }

end Assembly

/-! ## Properties -/

abbrev Handles := List (String × String)

def Handles.default : Handles := [("!", "!"), ("!!", "tag:yaml.org,2002:")]

def Handles.tag? (h : Handles) (handle suffix : String) : Option String :=
  if handle = "" then some suffix
  else (SortedMap.lookupEntry handle h).map (· ++ suffix)

/-- The anchor and the tag of a node, in either order, and what follows them. -/
def readProperties (h : Handles) (c : Assembly) :
    Option (Option String × Option String × Assembly) :=
  match c.peek.token, c.pass.peek.token with
  | .anchor name, .tag handle suffix => do
    return (some name, some (← h.tag? handle suffix), c.pass.pass)
  | .tag handle suffix, .anchor name => do
    return (some name, some (← h.tag? handle suffix), c.pass.pass)
  | .anchor name, _ => some (some name, none, c.pass)
  | .tag handle suffix, _ => do return (none, some (← h.tag? handle suffix), c.pass)
  | _, _ => some (none, none, c)

/-- The tag of a scalar: a single exclamation mark says nothing about it. -/
def scalarTag (tag : Option String) : Option String := if tag = some "!" then none else tag

/-! ## Where nothing is written -/

/-- Whether a part of an entry is left out, in a mapping that is laid out by indentation. -/
def endsBlockPart : Token → Bool
  | .key | .value | .blockEnd => true
  | _ => false

def endsBlockItem (indentless : Bool) : Token → Bool
  | .blockEntry | .blockEnd => true
  | .key | .value => indentless
  | _ => false

/-! ## Nodes -/

mutual

/-- The next node. `block` says that a collection may be laid out by indentation, and `indentless`
that the hyphens of a sequence may stand in the column of the mapping around it. -/
def takeNode (h : Handles) (block indentless : Bool) : (steps : Nat) → Assembly →
    Option (Node × Assembly)
  | 0, _ => none
  | n + 1, c => do
    let mark := c.peek.mark
    if let .reference name := c.peek.token then
      match SortedMap.lookupEntry name c.anchors with
      | some (some target) =>
        return (.reference mark target.node,
          { c.pass with references := c.references + 1 + target.references })
      | _ => none
    else
      let (anchor, tag, c) ← readProperties h c
      let before := c.references
      let inner := c.bind anchor none
      let finish (node : Node) (c : Assembly) : Node × Assembly :=
        (node, c.bind anchor (some ⟨node, c.references - before⟩))
      match c.peek.token with
      | .scalar style text => return finish (.scalar mark (scalarTag tag) style text) c.pass
      | .flowSequenceStart =>
        let (items, c) ← takeFlowItems h true n inner.pass
        return finish (.sequence mark tag items) c
      | .flowMappingStart =>
        let (entries, c) ← takeFlowEntries h true n inner.pass
        return finish (.mapping mark tag entries) c
      | token =>
        if token = .blockSequenceStart ∧ block then
          let (items, c) ← takeBlockItems h false n inner.pass
          return finish (.sequence mark tag items) c
        else if token = .blockEntry ∧ indentless then
          let (items, c) ← takeBlockItems h true n inner
          return finish (.sequence mark tag items) c
        else if token = .blockMappingStart ∧ block then
          let (entries, c) ← takeBlockEntries h n inner.pass
          return finish (.mapping mark tag entries) c
        else if anchor.isSome ∨ tag.isSome then
          return finish (.scalar mark tag .plain "") c
        else none

def takeBlockItems (h : Handles) (indentless : Bool) : (steps : Nat) → Assembly →
    Option (List Node × Assembly)
  | 0, _ => none
  | n + 1, c => do
    match c.peek with
    | ⟨.blockEntry, mark⟩ =>
      let c := c.pass
      let (item, c) ←
        if endsBlockItem indentless c.peek.token then some (.empty mark.next, c)
        else takeNode h true false n c
      let (items, c) ← takeBlockItems h indentless n c
      return (item :: items, c)
    | ⟨token, _⟩ =>
      if indentless then return ([], c)
      else if token = .blockEnd then return ([], c.pass)
      else none

def takeBlockPart (h : Handles) (mark : Mark) : (steps : Nat) → Assembly →
    Option (Node × Assembly)
  | 0, _ => none
  | n + 1, c =>
    if endsBlockPart c.peek.token then some (.empty mark.next, c)
    else takeNode h true true n c

def takeBlockEntries (h : Handles) : (steps : Nat) → Assembly →
    Option (List (Node × Node) × Assembly)
  | 0, _ => none
  | n + 1, c => do
    match c.peek with
    | ⟨.key, mark⟩ =>
      let (key, c) ← takeBlockPart h mark n c.pass
      let (value, c) ←
        match c.peek with
        | ⟨.value, mark⟩ => takeBlockPart h mark n c.pass
        | ⟨_, mark⟩ => some (.empty mark, c)
      let (entries, c) ← takeBlockEntries h n c
      return ((key, value) :: entries, c)
    | ⟨.blockEnd, _⟩ => return ([], c.pass)
    | _ => none

def takeFlowValue (h : Handles) (closing : Token) : (steps : Nat) → Assembly →
    Option (Node × Assembly)
  | 0, _ => none
  | n + 1, c =>
    if c.peek.token = .value then
      let c := c.pass
      if c.peek.token = .flowEntry ∨ c.peek.token = closing then some (.empty c.peek.mark, c)
      else takeNode h false false n c
    else some (.empty c.peek.mark, c)

/-- A single entry that is an item of a sequence, behind its key sign. -/
def takePair (h : Handles) : (steps : Nat) → Assembly → Option ((Node × Node) × Assembly)
  | 0, _ => none
  | n + 1, c => do
    let ⟨token, mark⟩ := c.peek
    let (key, c) ←
      if token = .value ∨ token = .flowEntry ∨ token = .flowSequenceEnd then
        -- Where the key is left out, the token in its place is passed over.
        some (.empty mark.next, c.pass)
      else takeNode h false false n c
    let (value, c) ← takeFlowValue h .flowSequenceEnd n c
    return ((key, value), c)

def takeFlowItems (h : Handles) (first : Bool) : (steps : Nat) → Assembly →
    Option (List Node × Assembly)
  | 0, _ => none
  | n + 1, c => do
    if c.peek.token = .flowSequenceEnd then return ([], c.pass)
    if !first ∧ c.peek.token ≠ .flowEntry then none
    let c := if first then c else c.pass
    match c.peek with
    | ⟨.flowSequenceEnd, _⟩ => return ([], c.pass)
    | ⟨.key, mark⟩ =>
      let (entry, c) ← takePair h n c.pass
      let (items, c) ← takeFlowItems h false n c
      return (.mapping mark none [entry] :: items, c)
    | _ =>
      let (item, c) ← takeNode h false false n c
      let (items, c) ← takeFlowItems h false n c
      return (item :: items, c)

def takeFlowEntries (h : Handles) (first : Bool) : (steps : Nat) → Assembly →
    Option (List (Node × Node) × Assembly)
  | 0, _ => none
  | n + 1, c => do
    if c.peek.token = .flowMappingEnd then return ([], c.pass)
    if !first ∧ c.peek.token ≠ .flowEntry then none
    let c := if first then c else c.pass
    match c.peek.token with
    | .flowMappingEnd => return ([], c.pass)
    | .key =>
      let c := c.pass
      let token := c.peek.token
      let (key, c) ←
        if token = .value ∨ token = .flowEntry ∨ token = .flowMappingEnd then
          some (.empty c.peek.mark, c)
        else takeNode h false false n c
      let (value, c) ← takeFlowValue h .flowMappingEnd n c
      let (entries, c) ← takeFlowEntries h false n c
      return ((key, value) :: entries, c)
    | _ =>
      let (key, c) ← takeNode h false false n c
      let value := .empty c.peek.mark
      let (entries, c) ← takeFlowEntries h false n c
      return ((key, value) :: entries, c)

end

/-! ## Documents -/

def readDirectives : (versioned : Bool) → Handles → List Lexeme → Option (Handles × List Lexeme)
  | versioned, h, ⟨.versionDirective major minor, _⟩ :: tokens =>
    -- The version may be told once, and so may the meaning of each handle.
    if versioned ∨ major ≠ 1 ∨ (minor ≠ 1 ∧ minor ≠ 2) then none
    else readDirectives true h tokens
  | versioned, h, ⟨.tagDirective handle start, _⟩ :: tokens =>
    if (SortedMap.lookupEntry handle h).isSome then none
    else readDirectives versioned ((handle, start) :: h) tokens
  | _, h, tokens => some (h, tokens)

def endsDocument : Token → Bool
  | .versionDirective .. | .tagDirective .. | .documentStart | .documentEnd | .streamEnd => true
  | _ => false

def takeRoot (tokens : List Lexeme) : Option (Node × Assembly) :=
  let steps := 4 * tokens.length + 4
  match tokens with
  | ⟨.versionDirective .., _⟩ :: _ | ⟨.tagDirective .., _⟩ :: _ | ⟨.documentStart, _⟩ :: _ => do
    let (handles, tokens) ← readDirectives false [] tokens
    let c : Assembly := ⟨tokens, [], 0⟩
    if c.peek.token ≠ .documentStart then none
    let c := c.pass
    if endsDocument c.peek.token then return (.empty c.peek.mark, c)
    else takeNode (handles ++ .default) true false steps c
  | tokens => takeNode .default true false steps ⟨tokens, [], 0⟩

/-- The document of a text's tokens, if they are well formed and there is no second one. -/
def Document.ofLexemes? (tokens : List Lexeme) : Option Document :=
  match tokens with
  | ⟨.streamEnd, _⟩ :: _ => some ⟨none, 0⟩
  | tokens => do
    let (root, c) ← takeRoot tokens
    match c.tokens.dropWhile (·.token = .documentEnd) with
    | ⟨.streamEnd, _⟩ :: _ => return ⟨some root, c.references⟩
    | _ => none

end ModuleSurvey.Yaml
