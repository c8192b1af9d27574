import ModuleSurvey.Json.Lexeme
import ModuleSurvey.Yaml.Token

/-! # Readers of scalars

The text of a scalar in each of its styles, read off the front of a normalized text.

* `Gap` — the white space between two words of a scalar, and what it stands for.
* `readPlain`, `readSingleQuoted`, `readDoubleQuoted` — scalars within lines.
* `readBlock` — scalars that are laid out as indented lines.
-/

namespace ModuleSurvey.Yaml

open Json (hexValue?)

structure ScalarText where
  text : List Char
  rest : List Char
  mark : Mark
  /-- Whether a line break was passed behind the text. -/
  lineEnded : Bool
  deriving DecidableEq, Repr

def ScalarText.prepend (cs : List Char) (s : ScalarText) : ScalarText := { s with text := cs ++ s.text }

/-! ## White space between words -/

/-- White space that may or may not be followed by more text. -/
inductive Gap where
  | none
  | spaces (cs : List Char)
  /-- The first line break, or nothing where it is escaped, and the line breaks behind it. -/
  | lines (first more : List Char)
  deriving DecidableEq, Repr

namespace Gap

def hasBreak : Gap → Bool
  | lines .. => true
  | _ => false

/-- The gap with one more character of white space, which counts within a line only. -/
def addSpace (c : Char) : Gap → Gap
  | none => spaces [c]
  | spaces cs => spaces (cs ++ [c])
  | lines first more => lines first more

def addBreak (c : Char) : Gap → Gap
  | lines first more => lines first (more ++ [c])
  | _ => lines [c] []

/-- What the gap stands for: a single line feed is a space, of several the first one is left
out. -/
def text : Gap → List Char
  | none => []
  | spaces cs => cs
  | lines first more =>
    if first = ['\n'] then (if more = [] then [' '] else more) else first ++ more

end Gap

/-! ## Plain scalars -/

def plainEnds (flow : Bool) (indent : Nat) (gap : Gap) (mark : Mark) (cs : List Char) : Bool :=
  match cs with
  | [] => true
  | c :: rest =>
    (gap ≠ .none && ((!flow && mark.column < indent) || c == '#'))
      || (mark.column == 0 && isDocumentMark cs)
      || (c == ':' && atGap rest)
      || (flow && isFlowIndicator c)

def colonMisplaced : List Char → Bool
  | ':' :: c :: _ => isFlowIndicator c || c == '?'
  | _ => false

def readPlain (flow : Bool) (indent : Nat) : Gap → Mark → List Char → Option ScalarText
  | gap, mark, [] => some ⟨[], [], mark, gap.hasBreak⟩
  | gap, mark, c :: cs =>
    if isSpace c then
      -- Outside of flow collections the lines have to be indented, and not by a tab.
      if gap.hasBreak && mark.column < indent && c == '\t' then none
      else readPlain flow indent (gap.addSpace c) mark.next cs
    else if isBreak c then readPlain flow indent (gap.addBreak c) mark.nextLine cs
    else if plainEnds flow indent gap mark (c :: cs) then
      some ⟨[], c :: cs, mark, gap.hasBreak⟩
    else if flow && colonMisplaced (c :: cs) then none
    else (readPlain flow indent .none mark.next cs).map (.prepend (gap.text ++ [c]))

/-! ## Quoted scalars -/

/-- Reads a scalar behind its single quote, where two quotes stand for one. -/
def readSingleQuoted : Gap → Mark → List Char → Option ScalarText
  | _, _, [] => none
  | gap, mark, '\x27' :: '\x27' :: cs =>
    (readSingleQuoted .none (mark.skip 2) cs).map (.prepend (gap.text ++ ['\x27']))
  | gap, mark, '\x27' :: cs => some ⟨gap.text, cs, mark.next, false⟩
  | gap, mark, c :: cs =>
    if isSpace c then readSingleQuoted (gap.addSpace c) mark.next cs
    else if isBreak c then readSingleQuoted (gap.addBreak c) mark.nextLine cs
    else if mark.column == 0 && isDocumentMark (c :: cs) then none
    else (readSingleQuoted .none mark.next cs).map (.prepend (gap.text ++ [c]))

inductive Escape where
  | char (c : Char)
  /-- The number of a character follows, in this many digits. -/
  | code (digits : Nat)
  deriving DecidableEq, Repr

def escape? : Char → Option Escape
  | '0' => some (.char '\x00')
  | 'a' => some (.char '\x07')
  | 'b' => some (.char '\x08')
  | 't' | '\t' => some (.char '\t')
  | 'n' => some (.char '\n')
  | 'v' => some (.char '\x0b')
  | 'f' => some (.char '\x0c')
  | 'r' => some (.char '\r')
  | 'e' => some (.char '\x1b')
  | ' ' => some (.char ' ')
  | '"' => some (.char '"')
  | '/' => some (.char '/')
  | '\\' => some (.char '\\')
  | 'N' => some (.char '\u0085')
  | '_' => some (.char '\u00a0')
  | 'L' => some (.char '\u2028')
  | 'P' => some (.char '\u2029')
  | 'x' => some (.code 2)
  | 'u' => some (.code 4)
  | 'U' => some (.code 8)
  | _ => none

def charOf? (n : Nat) : Option Char := if n.isValidChar then some (Char.ofNat n) else none

inductive QuotedSpot where
  | text (gap : Gap)
  /-- In the number of a character: how many digits are to come, and the number so far. -/
  | code (digits value : Nat)
  deriving DecidableEq, Repr

def readDoubleQuoted : QuotedSpot → Mark → List Char → Option ScalarText
  | _, _, [] => none
  | .code digits value, mark, c :: cs => do
    let value := 16 * value + (← hexValue? c)
    match digits with
    | more + 2 => readDoubleQuoted (.code (more + 1) value) mark.next cs
    | _ =>
      let c ← charOf? value
      return (← readDoubleQuoted (.text .none) mark.next cs).prepend [c]
  | .text gap, mark, '"' :: cs => some ⟨gap.text, cs, mark.next, false⟩
  | .text gap, mark, '\\' :: c :: cs => do
    if isBreak c then
      return (← readDoubleQuoted (.text (.lines [] [])) mark.nextLine cs).prepend gap.text
    match ← escape? c with
    | .char e => return (← readDoubleQuoted (.text .none) (mark.skip 2) cs).prepend (gap.text ++ [e])
    | .code digits =>
      return (← readDoubleQuoted (.code digits 0) (mark.skip 2) cs).prepend gap.text
  | .text gap, mark, c :: cs =>
    if isSpace c then readDoubleQuoted (.text (gap.addSpace c)) mark.next cs
    else if isBreak c then readDoubleQuoted (.text (gap.addBreak c)) mark.nextLine cs
    else if mark.column == 0 && isDocumentMark (c :: cs) then none
    else (readDoubleQuoted (.text .none) mark.next cs).map (.prepend (gap.text ++ [c]))

/-! ## Block scalars -/

inductive Chomping where
  | strip
  | clip
  | keep
  deriving DecidableEq, Repr

def Chomping.tail (first more : List Char) : Chomping → List Char
  | strip => []
  | clip => first
  | keep => first ++ more

def chomping? : Char → Option Chomping
  | '+' => some .keep
  | '-' => some .strip
  | _ => none

/-- The number of columns that an indentation sign tells; zero is not allowed. -/
def increment? (c : Char) : Option Nat :=
  if c.isDigit && c ≠ '0' then some (c.toNat - '0'.toNat) else none

/-- The signs in the first line of a block scalar: the chomping and the indentation, in either
order, and how many characters they take. -/
def readHeader : List Char → Option (Chomping × Option Nat × Nat)
  | [] => some (.clip, none, 0)
  | c :: cs =>
    match chomping? c, increment? c, cs with
    | some chomping, _, d :: _ =>
      if d.isDigit then (increment? d).map fun n => (chomping, some n, 2)
      else some (chomping, none, 1)
    | some chomping, _, [] => some (chomping, none, 1)
    | none, some n, d :: _ =>
      match chomping? d with
      | some chomping => some (chomping, some n, 2)
      | none => some (.clip, some n, 1)
    | none, some n, [] => some (.clip, some n, 1)
    | none, none, _ => if c = '0' then none else some (.clip, none, 0)

/-- What follows the end of the line, where only white space and a comment are left in it. -/
def skipLineEnd? (mark : Mark) (cs : List Char) : Option (List Char × Mark) :=
  let behind := cs.dropWhile isSpace
  let behind :=
    match behind with
    | '#' :: _ => behind.dropWhile (!isBreak ·)
    | _ => behind
  match behind with
  | [] => some ([], mark.skip cs.length)
  | c :: rest => if isBreak c then some (rest, mark.nextLine) else none

def firstColumn? : (widest column : Nat) → List Char → Option Nat
  | widest, column, [] => some (max widest column)
  | widest, column, c :: cs =>
    if c = ' ' then firstColumn? widest (column + 1) cs
    -- A tab may not stand in for indentation.
    else if c = '\t' then none
    else if isBreak c then firstColumn? (max widest column) 0 cs
    else some (max widest column)

/-- Where a reader of a block scalar stands: in a line, or between two lines, with the line breaks
that were passed. `spaced` tells of a line that it begins with white space. -/
inductive BlockSpot where
  | line (spaced : Bool)
  | between (first more : List Char) (spaced : Bool)
  deriving DecidableEq, Repr

def blockGap (folded : Bool) (first more : List Char) (spaced : Bool) : List Char :=
  -- A single line feed is a space, unless one of the lines begins with white space.
  if folded && first = ['\n'] && !spaced then (if more = [] then [' '] else more)
  else first ++ more

/-- Reads the lines of a block scalar, up to a line that is indented less. -/
def readBlockLines (folded : Bool) (chomping : Chomping) (indent : Nat) :
    BlockSpot → Mark → List Char → Option ScalarText
  | .line _, mark, [] => some ⟨[], [], mark, true⟩
  | .between first more _, mark, [] => some ⟨chomping.tail first more, [], mark, true⟩
  | .line spaced, mark, c :: cs =>
    if isBreak c then
      readBlockLines folded chomping indent (.between [c] [] spaced) mark.nextLine cs
    else (readBlockLines folded chomping indent (.line spaced) mark.next cs).map (.prepend [c])
  | .between first more spaced, mark, c :: cs =>
    if c = ' ' && mark.column < indent then
      readBlockLines folded chomping indent (.between first more spaced) mark.next cs
    else if c = '\t' && mark.column < indent then none
    else if isBreak c then
      readBlockLines folded chomping indent (.between first (more ++ [c]) spaced) mark.nextLine cs
    else if mark.column = indent then
      (readBlockLines folded chomping indent (.line (isSpace c)) mark.next cs).map
        (.prepend (blockGap folded first more (spaced || isSpace c) ++ [c]))
    else some ⟨chomping.tail first more, c :: cs, mark, true⟩

/-- Reads a block scalar behind its first sign. `outer` is the first column behind the indentation
of the collection around it. -/
def readBlock (folded : Bool) (outer : Nat) (mark : Mark) (cs : List Char) : Option ScalarText := do
  let (chomping, increment, signs) ← readHeader cs
  let (cs, mark) ← skipLineEnd? (mark.skip signs) (cs.drop signs)
  let indent ←
    match increment with
    | some n => some (outer - 1 + n)
    | none => (firstColumn? 0 mark.column cs).map fun column => max column (max outer 1)
  readBlockLines folded chomping indent (.between [] [] false) mark cs

end ModuleSurvey.Yaml
