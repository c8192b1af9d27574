import ModuleSurvey.Yaml.Token.Text

/-! # Readers of anchors, tags and directives

* `readAnchorName` — the name of an anchor or of a reference to one.
* `readTag` — a tag, written in full, with a handle, or local.
* `readDirective` — a line that tells the version of a document or the meaning of a handle.
-/

namespace ModuleSurvey.Yaml

open Json (hexValue? digitsValue)

/-! ## Names -/

def splitWord (cs : List Char) : List Char × List Char :=
  (cs.takeWhile isWordChar, cs.dropWhile isWordChar)

/-- The characters other than white space that may stand right behind an anchor. -/
def isAnchorEnd (c : Char) : Bool :=
  c == '?' || c == ':' || c == ',' || c == ']' || c == '\x7d' || c == '%' || c == '@' ||
  c == '\x60'

def readAnchorName (cs : List Char) : Option (List Char × List Char) :=
  let (name, rest) := splitWord cs
  if name ≠ [] && (atGap rest || rest.head?.any isAnchorEnd) then some (name, rest) else none

/-! ## Resource names -/

/-- The characters of a tag besides percent signs. A tag that is written in full may hold commas
and brackets. -/
def isUriChar (full : Bool) (c : Char) : Bool :=
  isWordChar c || c == ';' || c == '/' || c == '?' || c == ':' || c == '@' || c == '&' ||
  c == '=' || c == '+' || c == '$' || c == '.' || c == '!' || c == '~' || c == '*' ||
  c == '\x27' || c == '(' || c == ')' || (full && (c == ',' || c == '[' || c == ']'))

/-- The bits of the first byte of an encoded character, and how many bytes follow. -/
def leadingByte? (byte : Nat) : Option (Nat × Nat) :=
  if byte < 0x80 then some (byte, 0)
  else if 0xC0 ≤ byte ∧ byte < 0xE0 then some (byte % 0x20, 1)
  else if 0xE0 ≤ byte ∧ byte < 0xF0 then some (byte % 0x10, 2)
  else if 0xF0 ≤ byte ∧ byte < 0xF8 then some (byte % 0x08, 3)
  else none

/-- The text of a tag, the number of characters that it takes, and the text behind it. Of an encoded
character `more` bytes are still to come, and `value` is what the others make. -/
def readUri (full : Bool) : (more value : Nat) → List Char →
    Option (List Char × Nat × List Char)
  | more, value, '%' :: a :: b :: cs => do
    -- A percent sign and two digits stand for a byte.
    let byte := 16 * (← hexValue? a) + (← hexValue? b)
    let (value, more) ←
      match more with
      | 0 => leadingByte? byte
      | more + 1 => if 0x80 ≤ byte ∧ byte < 0xC0 then some (64 * value + byte % 64, more) else none
    let (text, n, rest) ← readUri full more value cs
    return (if more = 0 then Char.ofNat value :: text else text, n + 3, rest)
  | 0, _, c :: cs =>
    if c = '%' then none
    else if isUriChar full c then
      (readUri full 0 0 cs).map fun (text, n, rest) => (c :: text, n + 1, rest)
    else some ([], 0, c :: cs)
  | 0, _, [] => some ([], 0, [])
  | _ + 1, _, _ => none

/-! ## Tags -/

/-- The tag behind an exclamation mark, the number of characters that it takes, and the text
behind it. -/
def readTagText : List Char → Option (Token × Nat × List Char)
  | '<' :: cs => do
    let (suffix, n, rest) ← readUri true 0 0 cs
    match rest with
    | '>' :: rest => if n = 0 then none else some (.tag "" (String.ofList suffix), n + 2, rest)
    | _ => none
  | cs => do
    let (word, rest) := splitWord cs
    match rest with
    | '!' :: rest =>
      let (suffix, n, rest) ← readUri false 0 0 rest
      if n = 0 then none
      else
        let handle := '!' :: word ++ ['!']
        some (.tag (String.ofList handle) (String.ofList suffix), word.length + 1 + n, rest)
    | rest =>
      let (more, n, rest) ← readUri false 0 0 rest
      let suffix := word ++ more
      if suffix = [] then some (.tag "" "!", 0, rest)
      else some (.tag "!" (String.ofList suffix), word.length + n, rest)

def readTag (flow : Bool) (cs : List Char) : Option (Token × Nat × List Char) := do
  let (token, n, rest) ← readTagText cs
  -- White space has to follow, or a comma in a flow collection.
  if atGap rest || (flow && rest.head? = some ',') then some (token, n, rest) else none

/-! ## Directives -/

def readVersionNumber (cs : List Char) : Option (Nat × List Char) :=
  let digits := cs.takeWhile Char.isDigit
  if digits = [] ∨ 9 < digits.length then none
  else some (digitsValue digits, cs.dropWhile Char.isDigit)

def readVersion (cs : List Char) : Option (Token × List Char) := do
  let (major, rest) ← readVersionNumber (cs.dropWhile isSpace)
  match rest with
  | '.' :: rest =>
    let (minor, rest) ← readVersionNumber rest
    return (.versionDirective major minor, rest)
  | _ => none

/-- The handle of a directive: an exclamation mark alone, or a word between two of them. -/
def readHandle : List Char → Option (List Char × List Char)
  | '!' :: cs =>
    match splitWord cs with
    | (word, '!' :: rest) => some ('!' :: word ++ ['!'], rest)
    | ([], rest) => some (['!'], rest)
    | _ => none
  | _ => none

def readHandleMeaning (cs : List Char) : Option (Token × List Char) := do
  let (handle, rest) ← readHandle (cs.dropWhile isSpace)
  match rest with
  | c :: _ =>
    if isSpace c then
      let (start, n, rest) ← readUri true 0 0 (rest.dropWhile isSpace)
      if n ≠ 0 && atGap rest then
        some (.tagDirective (String.ofList handle) (String.ofList start), rest)
      else none
    else none
  | [] => none

/-- A directive behind its percent sign, up to the end of its line. `mark` is the place of the
percent sign. -/
def readDirective (mark : Mark) (cs : List Char) : Option (Token × List Char × Mark) := do
  let (name, rest) := splitWord cs
  if !atGap rest then none
  let (token, rest) ←
    if name = "YAML".toList then readVersion rest
    else if name = "TAG".toList then readHandleMeaning rest
    else none
  let (rest, mark) ← skipLineEnd? (mark.skip cs.length) rest
  return (token, rest, mark)

end ModuleSurvey.Yaml
