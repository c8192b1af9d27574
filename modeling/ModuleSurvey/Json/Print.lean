import ModuleSurvey.Json.Value
import ModuleSurvey.Decimal.Shortest

/-! # Writing JSON

* `Number.text` — a number: whole numbers in decimal, doubles by their shortest digits.
* `escaped`, `quoted` — a string: quotes, backslashes and control characters are escaped.
* `Value.compact`, `Value.pretty` — a value on one line, or indented by two blanks a level.
-/

namespace ModuleSurvey.Json

open Decimal (Double Shortest)

/-! ## Numbers -/

def intText (n : Int) : List Char :=
  if n < 0 then '-' :: Nat.toDigits 10 n.natAbs else Nat.toDigits 10 n.toNat

/-- The digits with a point after the first one, and the exponent that remains. -/
def scientific (digits : List Char) (exponent : Int) (plus : Bool) : List Char :=
  let mantissa :=
    match digits with
    | d :: e :: ds => d :: '.' :: e :: ds
    | ds => ds
  mantissa ++ 'e' :: (if 0 ≤ exponent ∧ plus then ['+'] else []) ++ intText exponent

/-- The digits with the point at its place and at least one digit on each side of it. -/
def positional (digits : List Char) (point : Int) : List Char :=
  if point ≤ 0 then '0' :: '.' :: List.replicate (-point).toNat '0' ++ digits
  else
    let whole := point.toNat
    if digits.length ≤ whole then
      digits ++ List.replicate (whole - digits.length) '0' ++ ['.', '0']
    else digits.take whole ++ '.' :: digits.drop whole

/-- A double: positional while the exponent of its first digit lies between -5 and 15, and in
scientific notation otherwise. `plus` says whether a positive exponent gets its sign. -/
def doubleText (d : Double) (plus : Bool) : List Char :=
  let s := d.shortest
  let exponent := s.point - 1
  let magnitude :=
    if -5 ≤ exponent ∧ exponent ≤ 15 then positional s.digits s.point
    else scientific s.digits exponent plus
  if d.negative then '-' :: magnitude else magnitude

def Number.chars : Number → List Char
  | .int n => intText n
  | .double d => doubleText d true

def Number.text (n : Number) : String := String.ofList n.chars

theorem positional_ne_nil (digits : List Char) (point : Int) : positional digits point ≠ [] := by
  simp only [positional]
  split
  · simp
  · split <;> simp

theorem Number.text_ne_empty (n : Number) : n.text ≠ "" := by
  have printed : n.chars ≠ [] := by
    cases n with
    | int n =>
      simp only [Number.chars, intText]
      split
      · simp
      · exact Nat.toDigits_ne_nil
    | double d =>
      simp only [Number.chars, doubleText]
      split
      · simp
      · split
        · exact positional_ne_nil _ _
        · simp [scientific]
  intro empty
  exact printed (by simpa [Number.text] using empty)

/-! ## Strings -/

def hexDigit (n : Nat) : Char := Nat.digitChar (n % 16)

def escapedChar (c : Char) : List Char :=
  match c with
  | '"' => ['\\', '"']
  | '\\' => ['\\', '\\']
  | '\x08' => ['\\', 'b']
  | '\t' => ['\\', 't']
  | '\n' => ['\\', 'n']
  | '\x0c' => ['\\', 'f']
  | '\r' => ['\\', 'r']
  | c =>
    if c.toNat < 0x20 then ['\\', 'u', '0', '0', hexDigit (c.toNat / 16), hexDigit c.toNat]
    else [c]

def escaped (cs : List Char) : List Char := cs.flatMap escapedChar

def quoted (s : String) : List Char := '"' :: escaped s.toList ++ ['"']

/-! ## Values on one line -/

namespace Value

mutual

def compactChars : Value → List Char
  | null => ['n', 'u', 'l', 'l']
  | bool true => ['t', 'r', 'u', 'e']
  | bool false => ['f', 'a', 'l', 's', 'e']
  | number n => n.chars
  | string s => quoted s
  | array [] => ['[', ']']
  | array (v :: vs) => '[' :: v.compactChars ++ compactItems vs
  | object [] => ['{', '}']
  | object ((k, v) :: ms) => '{' :: quoted k ++ ':' :: v.compactChars ++ compactMembers ms

def compactItems : List Value → List Char
  | [] => [']']
  | v :: vs => ',' :: v.compactChars ++ compactItems vs

def compactMembers : List (String × Value) → List Char
  | [] => ['}']
  | (k, v) :: ms => ',' :: quoted k ++ ':' :: v.compactChars ++ compactMembers ms

end

def compact (v : Value) : String := String.ofList v.compactChars

/-! ## Indented values -/

def newLine (level : Nat) : List Char := '\n' :: List.replicate (2 * level) ' '

mutual

/-- A value whose first line begins at a level: each item and member on a line of its own, one
level deeper. -/
def prettyChars (level : Nat) : Value → List Char
  | null => ['n', 'u', 'l', 'l']
  | bool true => ['t', 'r', 'u', 'e']
  | bool false => ['f', 'a', 'l', 's', 'e']
  | number n => n.chars
  | string s => quoted s
  | array [] => ['[', ']']
  | array (v :: vs) =>
    '[' :: newLine (level + 1) ++ v.prettyChars (level + 1) ++ prettyItems level vs
  | object [] => ['{', '}']
  | object ((k, v) :: ms) =>
    '{' :: newLine (level + 1) ++ quoted k ++ ':' :: ' ' :: v.prettyChars (level + 1)
      ++ prettyMembers level ms

def prettyItems (level : Nat) : List Value → List Char
  | [] => newLine level ++ [']']
  | v :: vs => ',' :: newLine (level + 1) ++ v.prettyChars (level + 1) ++ prettyItems level vs

def prettyMembers (level : Nat) : List (String × Value) → List Char
  | [] => newLine level ++ ['}']
  | (k, v) :: ms =>
    ',' :: newLine (level + 1) ++ quoted k ++ ':' :: ' ' :: v.prettyChars (level + 1)
      ++ prettyMembers level ms

end

def pretty (v : Value) : String := String.ofList (v.prettyChars 0)

end Value

end ModuleSurvey.Json
