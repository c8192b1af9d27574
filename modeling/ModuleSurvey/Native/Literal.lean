import ModuleSurvey.Json.Lexeme
import ModuleSurvey.Native.Expr
import ModuleSurvey.Text.Blank
import ModuleSurvey.Text.Lines

/-! # Literals of native files

* `readNumber?` — a number; one without a fraction part counts as whole however it is written.
* `escape?` — the character of an escape in a quoted text.
* `plainText?` — a text without interpolations, its doubled markers made single.
* `dedent` — a text over several lines without the indentation that its lines share.
-/

namespace ModuleSurvey.Native

open Decimal (Double)

/-! ## Numbers -/

def wholeValue? (d : Double) : Option Int :=
  let sign (n : Nat) : Int := if d.negative then -n else n
  if 0 ≤ d.exponent then some (sign (d.significand * Nat.pow 2 d.exponent.toNat))
  else
    let unit := Nat.pow 2 (-d.exponent).toNat
    if d.significand % unit = 0 then some (sign (d.significand / unit)) else none

def numberOfDouble (d : Double) : Json.Number :=
  match wholeValue? d with
  | some n => if Json.isExact n then .int n else .double d
  | none => .double d

def numberOf? (negative : Bool) (whole fraction : List Char) (exponent : Option Int) :
    Option Json.Number :=
  match fraction, exponent with
  | [], none =>
    let n : Int := Json.digitsValue whole
    let n := if negative then -n else n
    if Json.isExact n then some (.int n) else (Double.ofInt? n).map .double
  | fraction, exponent =>
    let shift : Int := exponent.getD 0 - fraction.length
    (Double.ofDecimal? negative (Json.digitsValue (whole ++ fraction)) shift).map numberOfDouble

def takeFraction : List Char → List Char × List Char
  -- A point without a digit behind it belongs to something else.
  | '.' :: c :: cs => if c.isDigit then Json.splitDigits (c :: cs) else ([], '.' :: c :: cs)
  | cs => ([], cs)

/-- An exponent, if digits stand behind its letter and sign. -/
def takeExponent (cs : List Char) : Option Int × List Char :=
  match cs with
  | e :: rest =>
    if e = 'e' ∨ e = 'E' then
      let (negative, digits) : Bool × List Char :=
        match rest with
        | '+' :: rest => (false, rest)
        | '-' :: rest => (true, rest)
        | rest => (false, rest)
      match Json.splitDigits digits with
      | ([], _) => (none, cs)
      | (ds, rest) =>
        let n : Int := Json.digitsValue ds
        (some (if negative then -n else n), rest)
    else (none, cs)
  | [] => (none, [])

def readNumber? (negative : Bool) (cs : List Char) : Option (Json.Number × List Char) :=
  match Json.splitDigits cs with
  | ([], _) => none
  | (whole, rest) =>
    let (fraction, rest) := takeFraction rest
    let (exponent, rest) := takeExponent rest
    (numberOf? negative whole fraction exponent).map fun n => (n, rest)

/-! ## Quoted text -/

def hexNumber? (digits : List Char) : Option Nat :=
  digits.foldlM (fun n d => (Json.hexValue? d).map (16 * n + ·)) 0

def charOfNumber? (n : Nat) : Option Char :=
  if n < 0xD800 ∨ (0xDFFF < n ∧ n < 0x110000) then some (Char.ofNat n) else none

def escape? : List Char → Option (Char × List Char)
  | 'u' :: cs =>
    if cs.length < 4 then none
    else do return (← charOfNumber? (← hexNumber? (cs.take 4)), cs.drop 4)
  | 'U' :: cs =>
    if cs.length < 8 then none
    else do return (← charOfNumber? (← hexNumber? (cs.take 8)), cs.drop 8)
  | c :: cs => (Json.simpleEscape? c).map fun e => (e, cs)
  | [] => none

def pushLiteral (cs : List Char) : List Piece → List Piece
  | .literal ds :: pieces => .literal (cs ++ ds) :: pieces
  | pieces => .literal cs :: pieces

/-- A text in which the doubled markers `$${` and `%%{` are single. -/
def singleMarkers : List Char → List Char
  | '$' :: '$' :: '\x7b' :: cs => '$' :: '\x7b' :: singleMarkers cs
  | '%' :: '%' :: '\x7b' :: cs => '%' :: '\x7b' :: singleMarkers cs
  | c :: cs => c :: singleMarkers cs
  | [] => []

def plainText? : List Piece → Option (List Char)
  | [] => some []
  | [.literal cs] => some (singleMarkers cs)
  | _ => none

/-! ## Indented text -/

/-- The lines of a piece that count for its indentation: not the rest of a line that began before
the piece. -/
def ownLines (continued : Bool) (cs : List Char) : List (List Char) :=
  if continued then (Text.lines cs).drop 1 else Text.lines cs

def leadingBlanks (line : List Char) : Nat := (line.takeWhile Text.isBlank).length

/-- The least indentation of the lines that are not empty. -/
def indentation? : (continued : Bool) → List Piece → Option Nat
  | _, [] => none
  | continued, .literal cs :: pieces =>
    let own := ((ownLines continued cs).filter (· ≠ [])).map leadingBlanks
    (own ++ (indentation? false pieces).toList).min?
  | _, .verbatim _ :: pieces => indentation? true pieces

def dedentLiteral (continued : Bool) (n : Nat) (cs : List Char) : List Char :=
  let lines :=
    match continued, Text.lines cs with
    | true, first :: more => first :: more.map (List.drop n)
    | _, lines => lines.map (List.drop n)
  List.intercalate ['\n'] lines ++ (if cs.getLast? = some '\n' then ['\n'] else [])

def dedentPieces (n : Nat) : (continued : Bool) → List Piece → List Piece
  | _, [] => []
  | continued, .literal cs :: pieces =>
    .literal (dedentLiteral continued n cs) :: dedentPieces n false pieces
  | _, .verbatim cs :: pieces => .verbatim cs :: dedentPieces n true pieces

def dedent (pieces : List Piece) : List Piece :=
  match indentation? false pieces with
  | none | some 0 => pieces
  | some n => dedentPieces n false pieces

end ModuleSurvey.Native
