/-! # Styled text

Output for people is made of pieces, some of them styled. Where the output has no color the style
is left out.

* `Style`, `Span`, `Line` — a style, a piece of text and a line of pieces.
* `Span.text`, `Line.text`, `linesText` — what is written, with or without color.
-/

namespace ModuleSurvey.Report

inductive Style where
  | bold
  | dimmed
  | green
  | yellow
  | red
  | boldRed
  | boldYellow
  deriving DecidableEq, Repr

def Style.codes : Style → String
  | bold => "1"
  | dimmed => "2"
  | green => "32"
  | yellow => "33"
  | red => "31"
  | boldRed => "1;31"
  | boldYellow => "1;33"

def Style.opening (s : Style) : List Char := ['\x1b', '['] ++ s.codes.toList ++ ['m']

/-- The sequence that ends every style. -/
def closing : List Char := ['\x1b', '[', '0', 'm']

/-- A text in which the style is turned on again wherever the text itself ends it. -/
def reopened (opening : List Char) : List Char → List Char
  | '\x1b' :: '[' :: '0' :: 'm' :: cs => closing ++ opening ++ reopened opening cs
  | c :: cs => c :: reopened opening cs
  | [] => []

inductive Span where
  | plain (s : String)
  | styled (style : Style) (s : String)
  deriving DecidableEq, Repr

abbrev Line := List Span

def Span.chars (color : Bool) : Span → List Char
  | plain s => s.toList
  | styled style s =>
    if color then style.opening ++ reopened style.opening s.toList ++ closing else s.toList

def Span.text (color : Bool) (s : Span) : String := String.ofList (s.chars color)

def Line.chars (color : Bool) (l : Line) : List Char := l.flatMap (Span.chars color)

def Line.text (color : Bool) (l : Line) : String := String.ofList (l.chars color)

def linesChars (color : Bool) (ls : List Line) : List Char :=
  ls.flatMap fun l => l.chars color ++ ['\n']

def linesText (color : Bool) (ls : List Line) : String := String.ofList (linesChars color ls)

end ModuleSurvey.Report
