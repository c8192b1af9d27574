import ModuleSurvey.Yaml.Scalar

/-! # Writing scalars

A text is written plainly where it reads back as itself, in quotes where it would read as
something else, and as indented lines where it has several.

* `chosenStyle` — the style in which a text is written.
* `plainAllowed`, `singleAllowed`, `literalAllowed` — which styles can hold a text.
* `scalarLines` — a text in its style, as the lines of an item of a list.
-/

namespace ModuleSurvey.Yaml

/-! ## Characters -/

def isAnyBreak (c : Char) : Bool := isBreak c || c == '\r' || c == '\u0085'

def isPrintable (c : Char) : Bool :=
  let n := c.toNat
  n == 0xA || (0x20 ≤ n && n ≤ 0x7E) || (0xA0 ≤ n && n ≤ 0xFFFD && n ≠ 0xFEFF) || 0x10000 ≤ n

def anyPair (p : Char → Char → Bool) : List Char → Bool
  | a :: b :: cs => p a b || anyPair p (b :: cs)
  | _ => false

/-! ## Styles -/

/-- The characters that may not begin a plain text, whatever follows. -/
def isLeadingIndicator (c : Char) : Bool :=
  isFlowIndicator c || c == '#' || c == '&' || c == '*' || c == '!' || c == '|' || c == '>' ||
  c == '\x27' || c == '"' || c == '%' || c == '@' || c == '\x60'

/-- Whether a text would be taken for something else than a plain scalar: it begins like another
token, has a colon at the end of a word or a number sign at the beginning of one. -/
def hasIndicator (cs : List Char) : Bool :=
  cs.take 3 == ['-', '-', '-'] || cs.take 3 == ['.', '.', '.']
    || cs.head?.any isLeadingIndicator
    || ((cs.head? == some '?' || cs.head? == some '-') && (cs.drop 1).head?.all (· == ' '))
    || cs.getLast? == some ':'
    || anyPair (fun a b => (a == ':' && b == ' ') || (a == ' ' && b == '#')) cs

def plainAllowed (cs : List Char) : Bool :=
  cs.all (fun c => isPrintable c && !isAnyBreak c) && cs.head? != some ' '
    && cs.getLast? != some ' ' && !hasIndicator cs

def singleAllowed (cs : List Char) : Bool :=
  cs.all isPrintable
    -- No space stands next to a line break.
    && !anyPair (fun a b => (isAnyBreak a && b == ' ') || (a == ' ' && isAnyBreak b)) cs

def literalAllowed (cs : List Char) : Bool :=
  cs.all isPrintable && cs.getLast? != some ' '
    -- No line ends in a space.
    && !anyPair (fun a b => a == ' ' && isAnyBreak b) cs

/-- Whether a plain text would not be read as this string, or looks like a number. -/
def needsQuotes (text : String) : Bool :=
  match Scalar.ofPlain text with
  | .string _ => hasLeadingZero text.toList
  | _ => true

def chosenStyle (text : String) : ScalarStyle :=
  let cs := text.toList
  if cs.contains '\n' then if literalAllowed cs then .literal else .doubleQuoted
  else if !needsQuotes text && plainAllowed cs then .plain
  else if singleAllowed cs then .singleQuoted
  else .doubleQuoted

/-! ## Texts -/

/-- The column of the further lines of a scalar in a list. -/
def scalarIndent : List Char := [' ', ' ', ' ', ' ']

/-- A text with the indentation in front of every line that is not empty. `fresh` says that a line
begins here. -/
def indented (fresh : Bool) : List Char → List Char
  | [] => []
  | c :: cs =>
    if isAnyBreak c then c :: indented true cs
    else (if fresh then scalarIndent else []) ++ c :: indented false cs

def singleQuoted (cs : List Char) : List Char :=
  let doubled := cs.flatMap fun c => if c = '\x27' then ['\x27', '\x27'] else [c]
  let tail := if cs.getLast?.any isAnyBreak then scalarIndent else []
  '\x27' :: indented false doubled ++ tail ++ ['\x27']

/-- The digits of a number in base sixteen, in upper case, at least `width` of them. -/
def hexText (width n : Nat) : List Char :=
  let digits := (Nat.toDigits 16 n).map Char.toUpper
  List.replicate (width - digits.length) '0' ++ digits

def escapedChar (c : Char) : List Char :=
  match c with
  | '\x00' => ['\\', '0']
  | '\x07' => ['\\', 'a']
  | '\x08' => ['\\', 'b']
  | '\t' => ['\\', 't']
  | '\n' => ['\\', 'n']
  | '\x0b' => ['\\', 'v']
  | '\x0c' => ['\\', 'f']
  | '\r' => ['\\', 'r']
  | '\x1b' => ['\\', 'e']
  | '"' => ['\\', '"']
  | '\\' => ['\\', '\\']
  | '\u0085' => ['\\', 'N']
  | '\u2028' => ['\\', 'L']
  | '\u2029' => ['\\', 'P']
  | c =>
    if isPrintable c then [c]
    else if c.toNat ≤ 0xFF then '\\' :: 'x' :: hexText 2 c.toNat
    else if c.toNat ≤ 0xFFFF then '\\' :: 'u' :: hexText 4 c.toNat
    else '\\' :: 'U' :: hexText 8 c.toNat

def doubleQuoted (cs : List Char) : List Char := '"' :: cs.flatMap escapedChar ++ ['"']

/-- The signs of a text that is written as lines: the indentation, where the first line does not
show it, and what becomes of the line breaks at its end. -/
def literalSigns (cs : List Char) : List Char :=
  let indentation := if cs.head?.any fun c => c == ' ' || isAnyBreak c then ['2'] else []
  let chomping :=
    match cs.reverse with
    | [] => ['-']
    | [c] => if isAnyBreak c then ['+'] else ['-']
    | c :: d :: _ => if !isAnyBreak c then ['-'] else if isAnyBreak d then ['+'] else []
  indentation ++ chomping

def scalarLines (text : String) : List Char :=
  let cs := text.toList
  match chosenStyle text with
  | .plain => cs ++ ['\n']
  | .singleQuoted => singleQuoted cs ++ ['\n']
  | .literal | .folded =>
    '|' :: literalSigns cs ++ '\n' :: indented true cs
      ++ (if cs.getLast?.any isAnyBreak then [] else ['\n'])
  | .doubleQuoted => doubleQuoted cs ++ ['\n']

end ModuleSurvey.Yaml
