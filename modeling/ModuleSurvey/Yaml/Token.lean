/-! # Tokens of a YAML document

* `Mark` — a place in a text.
* `Token`, `Lexeme` — a token, and a token at its place.
* `isSpace`, `isBreak`, `atGap` — white space, line breaks, and whether a word ends here.
* `normalized?` — the characters of a text with every line break written in one way; a text with a
  control character has none.
-/

namespace ModuleSurvey.Yaml

/-! ## Places -/

/-- A place in a text. Lines and columns are counted from zero; every character takes one column. -/
structure Mark where
  line : Nat
  column : Nat
  deriving DecidableEq, Repr, Inhabited

namespace Mark

def start : Mark := ⟨0, 0⟩

def skip (m : Mark) (n : Nat) : Mark := { m with column := m.column + n }

def next (m : Mark) : Mark := m.skip 1

def nextLine (m : Mark) : Mark := ⟨m.line + 1, 0⟩

end Mark

/-! ## Tokens -/

inductive ScalarStyle where
  | plain
  | singleQuoted
  | doubleQuoted
  | literal
  | folded
  deriving DecidableEq, Repr

/-- A token. The beginning and the end of a collection that is laid out by indentation are tokens
of their own. -/
inductive Token where
  | blockSequenceStart
  | blockMappingStart
  | blockEnd
  | flowSequenceStart
  | flowSequenceEnd
  | flowMappingStart
  | flowMappingEnd
  | blockEntry
  | flowEntry
  | key
  | value
  | reference (name : String)
  | anchor (name : String)
  /-- A tag: the handle of its beginning, empty where the tag is written in full, and the rest. -/
  | tag (handle suffix : String)
  | scalar (style : ScalarStyle) (text : String)
  | versionDirective (major minor : Nat)
  | tagDirective (handle start : String)
  | documentStart
  | documentEnd
  | streamEnd
  deriving DecidableEq, Repr

structure Lexeme where
  token : Token
  mark : Mark
  deriving DecidableEq, Repr

/-! ## Characters -/

def isSpace (c : Char) : Bool := c == ' ' || c == '\t'

/-- The line breaks of a normalized text. -/
def isBreak (c : Char) : Bool := c == '\n' || c == '\u2028' || c == '\u2029'

def atGap : List Char → Bool
  | [] => true
  | c :: _ => isSpace c || isBreak c

/-- Whether the line starts with a mark between documents: three hyphens or three points. -/
def isDocumentMark : List Char → Bool
  | '-' :: '-' :: '-' :: cs => atGap cs
  | '.' :: '.' :: '.' :: cs => atGap cs
  | _ => false

def isFlowIndicator (c : Char) : Bool :=
  c == ',' || c == '[' || c == ']' || c == '\x7b' || c == '\x7d'

/-- The characters of anchors, tag handles and directive names. -/
def isWordChar (c : Char) : Bool := c.isAlphanum || c == '_' || c == '-'

def isAllowed (c : Char) : Bool :=
  let n := c.toNat
  n == 0x9 || n == 0xA || n == 0xD || (0x20 ≤ n && n ≤ 0x7E) || n == 0x85 ||
  (0xA0 ≤ n && n ≤ 0xFFFD) || 0x10000 ≤ n

/-- A text in which every line break but the two Unicode separators is a line feed. -/
def withLineFeeds : List Char → List Char
  | '\r' :: '\n' :: cs => '\n' :: withLineFeeds cs
  | '\r' :: cs => '\n' :: withLineFeeds cs
  | '\u0085' :: cs => '\n' :: withLineFeeds cs
  | c :: cs => c :: withLineFeeds cs
  | [] => []

/-- The characters of a text in the form in which it is read, or nothing where one of them may
not stand in a text. -/
def normalized? (cs : List Char) : Option (List Char) :=
  if cs.all isAllowed then some (withLineFeeds cs) else none

end ModuleSurvey.Yaml
