import ModuleSurvey.SourcePos
import ModuleSurvey.Text.Blank
import ModuleSurvey.Text.Identifier
import ModuleSurvey.Text.Lines

/-! # Where blocks begin

The readers of both syntaxes give values without places, so the places of blocks are looked up in
the text of the file.

* `Header`, `Header.ofLine?` — the line that opens a block of a native file.
* `seekKey` — the next name of a member in a JSON text.
* `BlockIndex` — a file's text and the look-ups made in it so far; `BlockIndex.locate` gives the
  place of a block, one occurrence after the other for equal look-ups.
-/

namespace ModuleSurvey

inductive FileFormat where
  | native
  | json
  deriving DecidableEq, Repr, Inhabited

/-! ## Headers of native blocks -/

structure Header where
  word : String
  labels : List String
  deriving DecidableEq, Repr

namespace Header

def startsName (c : Char) : Bool := Text.isAsciiLetter c || c == '_'

def continuesName (c : Char) : Bool := startsName c || c.isDigit || c == '-'

def takeName? : List Char → Option (String × List Char)
  | [] => none
  | c :: cs =>
    if startsName c then
      some (String.ofList (c :: cs.takeWhile continuesName), cs.dropWhile continuesName)
    else none

/-- Splits a label off the front of a text: a name, or any characters between quotes. -/
def takeLabel? : List Char → Option (String × List Char)
  | '"' :: cs => (Text.cutAtFirst? '"' cs).map fun (label, rest) => (String.ofList label, rest)
  | cs => takeName? cs

/-- The labels up to the opening brace, each behind white space. `steps` bounds their number. -/
def labelsOf? : (steps : Nat) → List Char → Option (List String)
  | 0, _ => none
  | steps + 1, cs =>
    match Text.trimStart cs with
    | '\x7b' :: _ => some []
    | rest =>
      if rest.length = cs.length then none
      else do
        let (label, rest) ← takeLabel? rest
        return label :: (← labelsOf? steps rest)

/-- The header that a line is: a name, labels and an opening brace, with anything behind it. -/
def ofLine? (line : List Char) : Option Header := do
  let (word, rest) ← takeName? (Text.trimStart line)
  return ⟨word, ← labelsOf? (line.length + 1) rest⟩

def key (h : Header) : String := " ".intercalate (h.word :: h.labels)

def ofText (text : List Char) : List (Header × Nat) :=
  (Text.lines text).zipIdx.filterMap fun (line, i) => (ofLine? line).map fun h => (h, i + 1)

end Header

/-! ## Names of JSON members -/

def quotedKey (name : String) : List Char := '"' :: name.toList ++ ['"']

def colonFollows (cs : List Char) : Bool := (Text.trimStart cs).head? == some ':'

/-- The text from the next occurrence of a quoted name on that is followed by a colon. -/
def seekQuoted (quoted : List Char) : (skip : Nat) → List Char → Option (List Char)
  | _, [] => none
  -- These characters are passed over.
  | skip + 1, _ :: cs => seekQuoted quoted skip cs
  | 0, c :: cs =>
    match Text.dropStart? quoted (c :: cs) with
    | some rest =>
      -- An occurrence without a colon is passed over as a whole.
      if colonFollows rest then some (c :: cs) else seekQuoted quoted (quoted.length - 1) cs
    | none => seekQuoted quoted 0 cs

def seekKey (name : String) (cs : List Char) : Option (List Char) :=
  seekQuoted (quotedKey name) 0 cs

/-- The text from the first of these names on, each sought from the one before it on. -/
def seekPath : (names : List String) → List Char → Option (List Char)
  | [], cs => some cs
  | name :: names, cs => do seekPath names (← seekKey name cs)

/-- Goes on to the occurrence of a name `more` times behind the one at the front of the text, and
stops at the last one. -/
def seekLater (name : String) : (more : Nat) → List Char → List Char
  | 0, cs => cs
  | more + 1, cs =>
    match seekKey name cs.tail with
    | some later => seekLater name more later
    | none => cs

def lineOfRest (text rest : List Char) : Nat :=
  (text.take (text.length - rest.length)).count '\n' + 1

/-! ## The index -/

/-- A file's text and the look-ups made in it, each by its words in a row. -/
structure BlockIndex where
  filename : String
  format : FileFormat
  text : List Char
  headers : List (String × Nat)
  asked : List String

namespace BlockIndex

def scan (filename : String) (format : FileFormat) (text : String) : BlockIndex where
  filename := filename
  format := format
  text := text.toList
  headers :=
    match format with
    | .native => (Header.ofText text.toList).map fun (h, line) => (h.key, line)
    | .json => []
  asked := []

def filePos (x : BlockIndex) : SourcePos := ⟨x.filename, 1⟩

def nativeLine? (x : BlockIndex) (key : String) (seen : Nat) : Option Nat :=
  let found := (x.headers.filter (·.1 == key)).map (·.2)
  -- The one number `seen`, counted from zero, or the last one.
  found[seen]?.or found.getLast?

def jsonLine? (x : BlockIndex) (word : String) (labels : List String) (seen : Nat) :
    Option Nat := do
  let path := word :: labels
  -- Every name but the last one is taken where it occurs first behind the one before it.
  let start ← seekPath path.dropLast x.text
  let name := path.getLastD word
  -- Of the last name the occurrence number `seen` counts, from zero on.
  let first ← seekKey name start
  return lineOfRest x.text (seekLater name seen first)

def locate (x : BlockIndex) (word : String) (labels : List String) : SourcePos × BlockIndex :=
  let key := (Header.mk word labels).key
  let seen := x.asked.count key
  let line? :=
    match x.format with
    | .native => x.nativeLine? key seen
    | .json => x.jsonLine? word labels seen
  -- The first line stands in for a block that is not found.
  (⟨x.filename, line?.getD 1⟩, { x with asked := key :: x.asked })

end BlockIndex

end ModuleSurvey
