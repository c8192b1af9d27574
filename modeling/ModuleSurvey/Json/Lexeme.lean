import ModuleSurvey.Json.Fault
import ModuleSurvey.Json.Value

/-! # Lexemes of a JSON text

Reading white space, words, strings and numbers off the front of a text. Each reader gives back
what it leaves unread.

* `skipBlanks`, `readWord` — white space, and the letters of `true`, `false` and `null`.
* `readString` — what stands between the quotes of a string; `skipString` passes over it.
* `scanNumber`, `readNumber` — the parts of a number, and its value.
-/

namespace ModuleSurvey.Json

open Decimal (Double)

/-! ## White space and words -/

def isBlank (c : Char) : Bool := c == ' ' || c == '\n' || c == '\t' || c == '\r'

def skipBlanks (cs : List Char) : List Char := cs.dropWhile isBlank

def readWord : (word cs : List Char) → Except Fault (List Char)
  | [], cs => .ok cs
  | _ :: _, [] => .error (.behind .endInValue [])
  | w :: word, c :: cs =>
    if c = w then readWord word cs else .error (.upon .expectedWord (c :: cs))

/-! ## Strings -/

def hexValue? (c : Char) : Option Nat :=
  if '0' ≤ c ∧ c ≤ '9' then some (c.toNat - '0'.toNat)
  else if 'a' ≤ c ∧ c ≤ 'f' then some (c.toNat - 'a'.toNat + 10)
  else if 'A' ≤ c ∧ c ≤ 'F' then some (c.toNat - 'A'.toNat + 10)
  else none

def hexNumber? (a b c d : Char) : Option Nat := do
  let high := (← hexValue? a) * 16 + (← hexValue? b)
  let low := (← hexValue? c) * 16 + (← hexValue? d)
  return high * 256 + low

def hexFault (cs : List Char) : Fault :=
  -- The fault is the four bytes that stand in their place, or the end of the text.
  if 4 ≤ (Fault.bytes (cs.take 4)).length then ⟨.invalidEscape, cs, 4⟩
  else .behind .endInString []

def simpleEscape? : Char → Option Char
  | '"' => some '"'
  | '\\' => some '\\'
  | '/' => some '/'
  | 'b' => some '\x08'
  | 'f' => some '\x0c'
  | 'n' => some '\n'
  | 'r' => some '\r'
  | 't' => some '\t'
  | _ => none

def isHighSurrogate (n : Nat) : Bool := 0xD800 ≤ n && n ≤ 0xDBFF

def isLowSurrogate (n : Nat) : Bool := 0xDC00 ≤ n && n ≤ 0xDFFF

def surrogatePair (high low : Nat) : Char :=
  Char.ofNat ((high - 0xD800) * 0x400 + (low - 0xDC00) + 0x10000)

def consRead (c : Char) :
    Except Fault (List Char × List Char) → Except Fault (List Char × List Char)
  | .ok (s, rest) => .ok (c :: s, rest)
  | .error f => .error f

/-- The characters of a string up to its closing quote. An escaped high surrogate has to be
followed by an escaped low one. -/
def readString : List Char → Except Fault (List Char × List Char)
  | [] => .error (.behind .endInString [])
  | '"' :: cs => .ok ([], cs)
  | '\\' :: 'u' :: a :: b :: c :: d :: cs =>
    match hexNumber? a b c d with
    | none => .error (hexFault (a :: b :: c :: d :: cs))
    | some n =>
      if isLowSurrogate n then .error (.behind .loneSurrogate cs)
      else if isHighSurrogate n then
        match cs with
        | '\\' :: 'u' :: e :: f :: g :: h :: cs =>
          match hexNumber? e f g h with
          | none => .error (hexFault (e :: f :: g :: h :: cs))
          | some m =>
            if isLowSurrogate m then consRead (surrogatePair n m) (readString cs)
            else .error (.behind .loneSurrogate cs)
        | '\\' :: 'u' :: cs => .error (hexFault cs)
        | '\\' :: c :: cs => .error (.upon .hexEscapeEnds (c :: cs))
        | '\\' :: [] | [] => .error (.behind .endInString [])
        | c :: cs => .error (.upon .hexEscapeEnds (c :: cs))
      else consRead (Char.ofNat n) (readString cs)
  | '\\' :: 'u' :: cs => .error (hexFault cs)
  | '\\' :: [] => .error (.behind .endInString [])
  | '\\' :: c :: cs =>
    match simpleEscape? c with
    | some e => consRead e (readString cs)
    | none => .error (.upon .invalidEscape (c :: cs))
  | c :: cs =>
    if c.toNat < 0x20 then .error (.upon .controlCharacter (c :: cs))
    else consRead c (readString cs)

def skipString : List Char → Except Fault (List Char)
  | [] => .error (.behind .endInString [])
  | '"' :: cs => .ok cs
  | '\\' :: 'u' :: a :: b :: c :: d :: cs =>
    match hexNumber? a b c d with
    | none => .error (hexFault (a :: b :: c :: d :: cs))
    -- As the value is not wanted, surrogates need not make a pair.
    | some _ => skipString cs
  | '\\' :: 'u' :: cs => .error (hexFault cs)
  | '\\' :: [] => .error (.behind .endInString [])
  | '\\' :: c :: cs =>
    match simpleEscape? c with
    | some _ => skipString cs
    | none => .error (.upon .invalidEscape (c :: cs))
  | c :: cs =>
    if c.toNat < 0x20 then .error (.behind .controlCharacter (c :: cs)) else skipString cs

/-! ## Numbers -/

structure NumberParts where
  negative : Bool
  whole : List Char
  fraction : List Char
  /-- Whether the exponent is negative, and its digits. -/
  exponent : Option (Bool × List Char)
  deriving DecidableEq, Repr

def splitDigits (cs : List Char) : List Char × List Char :=
  (cs.takeWhile Char.isDigit, cs.dropWhile Char.isDigit)

/-- The exponent of a number, if there is one. `atEnd` is the cause where the text ends in it. -/
def scanExponent (atEnd : Cause) :
    List Char → Except Fault (Option (Bool × List Char) × List Char)
  | [] => .ok (none, [])
  | e :: cs =>
    if e = 'e' ∨ e = 'E' then
      let (negative, cs) : Bool × List Char :=
        match cs with
        | '+' :: cs => (false, cs)
        | '-' :: cs => (true, cs)
        | cs => (false, cs)
      match splitDigits cs with
      | ([], []) => .error (.behind atEnd [])
      | ([], rest) => .error (.upon .invalidNumber rest)
      | (digits, rest) => .ok (some (negative, digits), rest)
    else .ok (none, e :: cs)

def scanFraction (atEnd : Cause) : List Char → Except Fault (List Char × List Char)
  | '.' :: cs =>
    match splitDigits cs with
    | ([], []) => .error (.upon atEnd [])
    | ([], rest) => .error (.upon .invalidNumber rest)
    | (digits, rest) => .ok (digits, rest)
  | cs => .ok ([], cs)

def scanWhole (atEnd : Cause) : List Char → Except Fault (List Char × List Char)
  | [] => .error (.behind atEnd [])
  -- A zero stands alone.
  | '0' :: c :: cs =>
    if c.isDigit then .error (.upon .invalidNumber (c :: cs)) else .ok (['0'], c :: cs)
  | ['0'] => .ok (['0'], [])
  | cs =>
    match splitDigits cs with
    | ([], rest) => .error (.upon .invalidNumber rest)
    | (digits, rest) => .ok (digits, rest)

def scanNumber (atEnd : Cause) (negative : Bool) (cs : List Char) :
    Except Fault (NumberParts × List Char) := do
  let (whole, cs) ← scanWhole atEnd cs
  let (fraction, cs) ← scanFraction atEnd cs
  let (exponent, cs) ← scanExponent atEnd cs
  return (⟨negative, whole, fraction, exponent⟩, cs)

def absorb : (n : Nat) → (digits : List Char) → Nat × List Char
  | n, [] => (n, [])
  | n, d :: ds =>
    let next := 10 * n + (d.toNat - '0'.toNat)
    -- The digits that would take the number beyond 64 bits are left over.
    if Nat.pow 2 64 ≤ next then (n, d :: ds) else absorb next ds

def digitsValue (digits : List Char) : Nat :=
  digits.foldl (fun n d => 10 * n + (d.toNat - '0'.toNat)) 0

def NumberParts.value? (p : NumberParts) : Option Number :=
  let (n, left) := absorb 0 p.whole
  match p.fraction, p.exponent with
  | [], none =>
    -- A whole number of 64 bits is kept exactly.
    if left = [] ∧ !p.negative then some (.int n)
    else if left = [] ∧ n ≠ 0 ∧ n ≤ Nat.pow 2 63 then some (.int (-n))
    else (Double.scale? p.negative n left.length).map .double
  -- All others are rounded: their first digits, as many as 64 bits hold, are scaled by a power of
  -- ten.
  | fraction, exponent =>
    let (n, unused) := absorb n fraction
    let shift : Int := left.length - (fraction.length - unused.length : Nat)
    let written : Int :=
      match exponent with
      | none => 0
      | some (negative, digits) => if negative then -digitsValue digits else digitsValue digits
    (Double.scale? p.negative n (shift + written)).map .double

/-- How many digits of an exponent are read before it is known to be too large: the digits up to
the one that takes it beyond 31 bits. -/
def exponentDigitsRead : (n : Nat) → (digits : List Char) → Nat
  | _, [] => 0
  | n, d :: ds =>
    let next := 10 * n + (d.toNat - '0'.toNat)
    if Nat.pow 2 31 ≤ next then 1 else 1 + exponentDigitsRead next ds

def readNumber (negative : Bool) (cs : List Char) : Except Fault (Number × List Char) := do
  let (parts, rest) ← scanNumber .endInValue negative cs
  match parts.value? with
  | some n => return (n, rest)
  | none =>
    let unread :=
      match parts.exponent with
      | none => rest
      | some (_, digits) => digits.drop (exponentDigitsRead 0 digits) ++ rest
    throw (.behind .numberOutOfRange unread)

end ModuleSurvey.Json
