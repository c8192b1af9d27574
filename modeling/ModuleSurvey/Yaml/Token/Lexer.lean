import ModuleSurvey.Yaml.Token.Name

/-! # Reading tokens

Takes a YAML text apart into tokens. What is written before a colon turns out to be the key of a
mapping only when the colon is met, so a lexer remembers where a key may have begun, and puts the
tokens for it there later.

* `Lexer` — the text that is left, the tokens so far and what may follow.
* `Lexer.advance?`, `Lexer.token?` — going on to the next token, and reading it.
* `lexemes?` — the tokens of a text.
-/

namespace ModuleSurvey.Yaml

/-! ## State -/

structure KeyPlace where
  /-- Whether nothing but a key can stand there. -/
  required : Bool
  /-- The number of tokens before the key. -/
  tokens : Nat
  mark : Mark
  deriving DecidableEq, Repr

structure Lexer where
  rest : List Char
  mark : Mark
  /-- The tokens so far, the latest first, and their number. -/
  made : List Lexeme
  count : Nat
  /-- The columns of the open collections that are laid out by indentation, the innermost first. -/
  columns : List Nat
  keyAllowed : Bool
  /-- The place of a key in the innermost flow collection, or outside of all of them. -/
  key : Option KeyPlace
  /-- The same around each of the open flow collections. -/
  outerKeys : List (Option KeyPlace)
  deriving DecidableEq, Repr

namespace Lexer

def start (cs : List Char) : Lexer :=
  { rest := cs, mark := .start, made := [], count := 0, columns := [], keyAllowed := true,
    key := none, outerKeys := [] }

def flow (s : Lexer) : Bool := !s.outerKeys.isEmpty

/-- The first column behind the indentation of the innermost open collection. -/
def indent (s : Lexer) : Nat :=
  match s.columns with
  | [] => 0
  | column :: _ => column + 1

def add (s : Lexer) (token : Token) : Lexer :=
  { s with made := ⟨token, s.mark⟩ :: s.made, count := s.count + 1 }

def insert (s : Lexer) (before : Nat) (x : Lexeme) : Lexer :=
  let later := s.count - before
  { s with made := s.made.take later ++ x :: s.made.drop later, count := s.count + 1 }

def pass (s : Lexer) (n : Nat) : Lexer :=
  { s with rest := s.rest.drop n, mark := s.mark.skip n }

/-! ## Indentation -/

def indentsMore (s : Lexer) (column : Nat) : Bool := !s.flow && s.indent ≤ column

def openBlock (s : Lexer) (token : Token) : Lexer :=
  if s.indentsMore s.mark.column then
    { s.add token with columns := s.mark.column :: s.columns }
  else s

def openMappingBefore (s : Lexer) (k : KeyPlace) : Lexer :=
  if s.indentsMore k.mark.column then
    { s.insert k.tokens ⟨.blockMappingStart, k.mark⟩ with columns := k.mark.column :: s.columns }
  else s

def closeBlocks (s : Lexer) (closes : Nat → Bool) : Lexer :=
  if s.flow then s
  else
    let closed := s.columns.takeWhile closes
    { s with
      made := closed.map (fun _ => ⟨.blockEnd, s.mark⟩) ++ s.made
      count := s.count + closed.length
      columns := s.columns.dropWhile closes }

/-! ## Keys -/

/-- Whether it is too late for the colon behind a key: it has to stand in the same line, and not
too far away. -/
def KeyPlace.isStale (k : KeyPlace) (mark : Mark) : Bool :=
  k.mark.line < mark.line || k.mark.column + 1024 < mark.column

/-- A place without the key, unless the key is required. -/
def dropPlace? : Option KeyPlace → Option (Option KeyPlace)
  | some k => if k.required then none else some none
  | none => some none

def dropStaleKeys? (s : Lexer) : Option Lexer := do
  let live (k : Option KeyPlace) : Option (Option KeyPlace) :=
    if k.any (KeyPlace.isStale · s.mark) then dropPlace? k else some k
  return { s with key := ← live s.key, outerKeys := ← s.outerKeys.mapM live }

def dropKey? (s : Lexer) : Option Lexer := do
  return { s with key := ← dropPlace? s.key }

def saveKey? (s : Lexer) : Option Lexer := do
  if s.keyAllowed then
    let s ← s.dropKey?
    let required := !s.flow && s.columns.head? = some s.mark.column
    return { s with key := some ⟨required, s.count, s.mark⟩ }
  else return s

/-! ## Between tokens -/

def skipGap (flow : Bool) : (comment keyAllowed : Bool) → Mark → List Char →
    List Char × Mark × Bool
  | _, keyAllowed, mark, [] => ([], mark, keyAllowed)
  | comment, keyAllowed, mark, c :: cs =>
    -- Outside of flow collections a key may begin in each new line, and no tab stand before it.
    if isBreak c then skipGap flow false (keyAllowed || !flow) mark.nextLine cs
    else if comment || c == ' ' || (c == '\t' && (flow || !keyAllowed)) then
      skipGap flow comment keyAllowed mark.next cs
    else if c == '#' then skipGap flow true keyAllowed mark.next cs
    else (c :: cs, mark, keyAllowed)

def skipByteOrderMark (s : Lexer) : Lexer :=
  if s.mark = .start ∧ s.rest.head? = some '\ufeff' then s.pass 1 else s

def advance? (s : Lexer) : Option Lexer := do
  let s := s.skipByteOrderMark
  let (rest, mark, keyAllowed) := skipGap s.flow false s.keyAllowed s.mark s.rest
  let s ← { s with rest, mark, keyAllowed }.dropStaleKeys?
  -- The collections that are indented more are closed.
  return s.closeBlocks fun column => mark.column < column

/-! ## Tokens -/

def finish? (s : Lexer) : Option (List Lexeme) := do
  let s := if s.mark.column = 0 then s else { s with mark := s.mark.nextLine }
  let s ← (s.closeBlocks fun _ => true).dropKey?
  return (s.add .streamEnd).made.reverse

def directive? (s : Lexer) : Option Lexer := do
  let s ← (s.closeBlocks fun _ => true).dropKey?
  let (token, rest, mark) ← readDirective s.mark (s.rest.drop 1)
  return { s.add token with rest, mark, keyAllowed := false }

def documentMark? (s : Lexer) (token : Token) : Option Lexer := do
  let s ← (s.closeBlocks fun _ => true).dropKey?
  return { (s.add token).pass 3 with keyAllowed := false }

def openFlow? (s : Lexer) (token : Token) : Option Lexer := do
  let s ← s.saveKey?
  return { (s.add token).pass 1 with
    key := none, outerKeys := s.key :: s.outerKeys, keyAllowed := true }

def closeFlow? (s : Lexer) (token : Token) : Option Lexer := do
  let s ← s.dropKey?
  let s := { (s.add token).pass 1 with keyAllowed := false }
  match s.outerKeys with
  | [] => return s
  | key :: outerKeys => return { s with key, outerKeys }

def flowEntry? (s : Lexer) : Option Lexer := do
  let s ← s.dropKey?
  return { (s.add .flowEntry).pass 1 with keyAllowed := true }

def blockEntry? (s : Lexer) : Option Lexer := do
  if !s.flow && !s.keyAllowed then none
  let s ← (s.openBlock .blockSequenceStart).dropKey?
  return { (s.add .blockEntry).pass 1 with keyAllowed := true }

def keySign? (s : Lexer) : Option Lexer := do
  if !s.flow && !s.keyAllowed then none
  let s ← (s.openBlock .blockMappingStart).dropKey?
  return { (s.add .key).pass 1 with keyAllowed := !s.flow }

def valueSign? (s : Lexer) : Option Lexer :=
  match s.key with
  -- A key may have begun before the colon. It has been found.
  | some k =>
    let s := (s.insert k.tokens ⟨.key, k.mark⟩).openMappingBefore k
    some { (s.add .value).pass 1 with key := none, keyAllowed := false }
  | none =>
    if !s.flow && !s.keyAllowed then none
    else
      let s := s.openBlock .blockMappingStart
      some { (s.add .value).pass 1 with keyAllowed := !s.flow }

def anchor? (s : Lexer) (token : String → Token) : Option Lexer := do
  let s ← s.saveKey?
  let (name, rest) ← readAnchorName (s.rest.drop 1)
  return { s.add (token (String.ofList name)) with
    rest, mark := s.mark.skip (name.length + 1), keyAllowed := false }

def tag? (s : Lexer) : Option Lexer := do
  let s ← s.saveKey?
  let (token, n, rest) ← readTag s.flow (s.rest.drop 1)
  return { s.add token with rest, mark := s.mark.skip (n + 1), keyAllowed := false }

def addScalar (s : Lexer) (style : ScalarStyle) (read : ScalarText) (keyAllowed : Bool) : Lexer :=
  { s.add (.scalar style (String.ofList read.text)) with
    rest := read.rest, mark := read.mark, keyAllowed }

def blockScalar? (s : Lexer) (style : ScalarStyle) : Option Lexer := do
  let s ← s.dropKey?
  let read ← readBlock (style = .folded) s.indent s.mark.next (s.rest.drop 1)
  return s.addScalar style read true

def quotedScalar? (s : Lexer) (style : ScalarStyle) : Option Lexer := do
  let s ← s.saveKey?
  let cs := s.rest.drop 1
  let read ←
    if style = .singleQuoted then readSingleQuoted .none s.mark.next cs
    else readDoubleQuoted (.text .none) s.mark.next cs
  return s.addScalar style read false

def plainScalar? (s : Lexer) : Option Lexer := do
  let s ← s.saveKey?
  let read ← readPlain s.flow s.indent .none s.mark s.rest
  -- A key may begin behind the scalar if a line ends there.
  return s.addScalar .plain read read.lineEnded

def isIndicator (c : Char) : Bool :=
  isFlowIndicator c || c == '-' || c == '?' || c == ':' || c == '#' || c == '&' || c == '*' ||
  c == '!' || c == '|' || c == '>' || c == '\x27' || c == '"' || c == '%' || c == '@' ||
  c == '\x60'

def beginsPlain (flow : Bool) (c : Char) (cs : List Char) : Bool :=
  !(isSpace c || isIndicator c)
    -- A hyphen, and outside of flow collections a question mark or a colon, begins a scalar where
    -- no white space follows.
    || (!atGap cs && (c == '-' || (!flow && (c == '?' || c == ':'))))

def token? (s : Lexer) (c : Char) (cs : List Char) : Option Lexer :=
  if s.mark.column = 0 ∧ c = '%' then s.directive?
  else if s.mark.column = 0 ∧ isDocumentMark (c :: cs) then
    s.documentMark? (if c = '-' then .documentStart else .documentEnd)
  else if c = '[' then s.openFlow? .flowSequenceStart
  else if c = '\x7b' then s.openFlow? .flowMappingStart
  else if c = ']' then s.closeFlow? .flowSequenceEnd
  else if c = '\x7d' then s.closeFlow? .flowMappingEnd
  else if c = ',' then s.flowEntry?
  else if c = '-' ∧ atGap cs then s.blockEntry?
  else if c = '?' ∧ (s.flow ∨ atGap cs) then s.keySign?
  else if c = ':' ∧ (s.flow ∨ atGap cs) then s.valueSign?
  else if c = '*' then s.anchor? .reference
  else if c = '&' then s.anchor? .anchor
  else if c = '!' then s.tag?
  else if c = '|' ∧ !s.flow then s.blockScalar? .literal
  else if c = '>' ∧ !s.flow then s.blockScalar? .folded
  else if c = '\x27' then s.quotedScalar? .singleQuoted
  else if c = '"' then s.quotedScalar? .doubleQuoted
  else if beginsPlain s.flow c cs then s.plainScalar?
  else none

def run? : (steps : Nat) → Lexer → Option (List Lexeme)
  | 0, _ => none
  | steps + 1, s => do
    let s ← s.advance?
    match s.rest with
    | [] => s.finish?
    -- Every step takes at least one character.
    | c :: cs => (← s.token? c cs).run? steps

end Lexer

def lexemes? (cs : List Char) : Option (List Lexeme) := do
  let cs ← normalized? cs
  (Lexer.start cs).run? (cs.length + 1)

end ModuleSurvey.Yaml
