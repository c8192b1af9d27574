import ModuleSurvey.Text.Identifier
import ModuleSurvey.Text.Lines

/-! # Space between the words of a native file

* `skipSpace` — blanks and comments; line feeds and comments up to the end of a line count only
  where an expression or a body may go on in the next line.
* `lineEnd?` — the end of a line, behind a comment if there is one.
* `takeWord?` — a name.
-/

namespace ModuleSurvey.Native

/-- Where a reader of space is: outside, or in a comment that began at `start`. -/
inductive SpaceMode where
  | outside
  | block (start : List Char)
  | line (start : List Char)

def skipSpaceIn (multi : Bool) : SpaceMode → List Char → List Char
  | .outside, '/' :: '*' :: cs => skipSpaceIn multi (.block ('/' :: '*' :: cs)) cs
  | .outside, '/' :: '/' :: cs =>
    if multi then skipSpaceIn multi (.line ('/' :: '/' :: cs)) cs else '/' :: '/' :: cs
  | .outside, c :: cs =>
    if c = ' ' ∨ c = '\t' ∨ (multi ∧ (c = '\n' ∨ c = '\r')) then skipSpaceIn multi .outside cs
    else if multi ∧ c = '#' then skipSpaceIn multi (.line (c :: cs)) cs
    else c :: cs
  | .outside, [] => []
  | .block _, '*' :: '/' :: cs => skipSpaceIn multi .outside cs
  | .block start, _ :: cs => skipSpaceIn multi (.block start) cs
  -- A comment that is not closed is no space.
  | .block start, [] => start
  | .line _, '\n' :: cs => skipSpaceIn multi .outside cs
  | .line _, '\r' :: '\n' :: cs => skipSpaceIn multi .outside cs
  -- Neither is one to the end of a line that holds a carriage return without a line feed.
  | .line start, '\r' :: _ => start
  | .line start, _ :: cs => skipSpaceIn multi (.line start) cs
  | .line _, [] => []

/-- The text behind blanks and comments; with `multi` also behind line feeds. -/
def skipSpace (multi : Bool) (cs : List Char) : List Char := skipSpaceIn multi .outside cs

/-- The text from the end of the line on, if there is no stray carriage return before it. -/
def skipLineComment? : List Char → Option (List Char)
  | [] => some []
  | '\n' :: cs => some ('\n' :: cs)
  | '\r' :: '\n' :: cs => some ('\r' :: '\n' :: cs)
  | '\r' :: _ => none
  | _ :: cs => skipLineComment? cs

/-- The text from the end of a line on, where nothing but a comment stands before it. -/
def lineEnd? : List Char → Option (List Char)
  | [] => some []
  | '\n' :: cs => some ('\n' :: cs)
  | '\r' :: '\n' :: cs => some ('\r' :: '\n' :: cs)
  | '#' :: cs => skipLineComment? cs
  | '/' :: '/' :: cs => skipLineComment? cs
  | _ => none

def startsName (c : Char) : Bool := Text.startsWord c || c == '_'

def continuesName (c : Char) : Bool := Text.continuesWord c || c == '-'

def takeWord? : List Char → Option (String × List Char)
  | [] => none
  | c :: cs =>
    if startsName c then
      some (String.ofList (c :: cs.takeWhile continuesName), cs.dropWhile continuesName)
    else none

def keyword? (word : String) (cs : List Char) : Option (List Char) :=
  match takeWord? cs with
  | some (w, rest) => if w = word then some rest else none
  | none => none

end ModuleSurvey.Native
