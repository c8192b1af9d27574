import ModuleSurvey.Decimal.Shortest
import ModuleSurvey.Json.Lexeme
import ModuleSurvey.Json.Print
import ModuleSurvey.Mismatch
import ModuleSurvey.Yaml.Node

/-! # What scalars mean

* `Scalar`, `Scalar.ofPlain` — the value of a plain text: null, a truth value, a number, or else
  the text itself.
* `readWhole?`, `readFloat?` — numbers.
* `Scalar.ofNode` — the value of a scalar by its tag, its style and its text.
-/

namespace ModuleSurvey.Yaml

open Decimal (Double Shortest)

inductive Float where
  | infinite (negative : Bool)
  | notANumber
  | finite (d : Double)
  deriving DecidableEq, Repr

inductive Scalar where
  | null
  | bool (b : Bool)
  | whole (n : Int)
  | float (x : Float)
  | string (s : String)
  deriving DecidableEq, Repr

/-! ## Numbers -/

def dropPlus : List Char → List Char
  | '+' :: cs => cs
  | cs => cs

def dropSign : List Char → List Char
  | '-' :: cs => cs
  | cs => dropPlus cs

/-- Whether a text is a run of digits that begins with a zero and has more digits: such a text is
no number. -/
def hasLeadingZero (cs : List Char) : Bool :=
  match dropSign cs with
  | '0' :: d :: ds => (d :: ds).all Char.isDigit
  | _ => false

def radixNumber? (base : Nat) (digits : List Char) : Option Nat :=
  if digits = [] then none
  else digits.foldlM (fun n d => do
    let v ← Json.hexValue? d
    if v < base then some (base * n + v) else none) 0

/-- The magnitude of a whole number, in decimal or behind the sign of another base. -/
def magnitude? : List Char → Option Nat
  | '0' :: 'x' :: ds => radixNumber? 16 ds
  | '0' :: 'o' :: ds => radixNumber? 8 ds
  | '0' :: 'b' :: ds => radixNumber? 2 ds
  | ds => if hasLeadingZero ds then none else radixNumber? 10 ds

/-- The whole number of a text, if it has 128 bits at most. -/
def readWhole? (cs : List Char) : Option Int := do
  match cs with
  | '-' :: cs =>
    let n ← magnitude? cs
    if n ≤ Nat.pow 2 127 then some (-n) else none
  | cs =>
    let n ← magnitude? (dropPlus cs)
    if n < Nat.pow 2 128 then some n else none

def specialFloats : List (String × Float) := [
  (".inf", .infinite false), (".Inf", .infinite false), (".INF", .infinite false),
  ("+.inf", .infinite false), ("+.Inf", .infinite false), ("+.INF", .infinite false),
  ("-.inf", .infinite true), ("-.Inf", .infinite true), ("-.INF", .infinite true),
  (".nan", .notANumber), (".NaN", .notANumber), (".NAN", .notANumber)]

def readExponent? : List Char → Option Int
  | [] => some 0
  | e :: cs =>
    if e = 'e' ∨ e = 'E' then
      let n := radixNumber? 10 (dropSign cs)
      if cs.head? = some '-' then n.map fun n => -(n : Int) else n.map fun n => (n : Int)
    else none

def readDecimal? (cs : List Char) : Option Double := do
  let unsigned := dropSign cs
  let whole := unsigned.takeWhile Char.isDigit
  let rest := unsigned.dropWhile Char.isDigit
  let (fraction, rest) :=
    match rest with
    | '.' :: rest => (rest.takeWhile Char.isDigit, rest.dropWhile Char.isDigit)
    | rest => ([], rest)
  -- Digits may be missing on one side of the point.
  if whole = [] ∧ fraction = [] then none
  let exponent ← readExponent? rest
  Double.ofDecimal? (cs.head? = some '-') (Json.digitsValue (whole ++ fraction))
    (exponent - fraction.length)

def readFloat? (cs : List Char) : Option Float :=
  match SortedMap.lookupEntry (String.ofList cs) specialFloats with
  | some x => some x
  | none => (readDecimal? cs).map .finite

/-- The text of a number, never in scientific notation. -/
def Float.text : Float → String
  | infinite negative => if negative then "-inf" else "inf"
  | notANumber => "NaN"
  | finite d =>
    let s := d.shortest
    String.ofList ((if d.negative then ['-'] else []) ++ Json.positional s.digits s.point)

def Float.same : Float → Float → Bool
  -- Zero has no sign here, and what is no number is equal to itself.
  | finite a, finite b => a = b || (a.isZero && b.isZero)
  | a, b => a = b

/-! ## Plain texts -/

def nullWords : List String := ["null", "Null", "NULL", "~"]

def boolWords : List (String × Bool) := [
  ("true", true), ("True", true), ("TRUE", true),
  ("false", false), ("False", false), ("FALSE", false)]

def readBool? (text : String) : Option Bool := SortedMap.lookupEntry text boolWords

namespace Scalar

def ofPlain (text : String) : Scalar :=
  let cs := text.toList
  if text = "" ∨ text ∈ nullWords then null
  else
    match readBool? text, readWhole? cs with
    | some b, _ => bool b
    | none, some n => whole n
    | none, none =>
      match if hasLeadingZero cs then none else readFloat? cs with
      | some x => float x
      | none => string text

def coreTag (name : String) : String := "tag:yaml.org,2002:" ++ name

/-- The value of a scalar, or the demand of its tag that is not met. -/
def ofNode (tag : Option String) (style : ScalarStyle) (text : String) : Except String Scalar :=
  let demand (what : String) : Option Scalar → Except String Scalar
    | some s => .ok s
    | none => .error what
  let untagged := if style = .plain then ofPlain text else string text
  match tag with
  | none => .ok untagged
  | some tag =>
    -- A tag with a fixed meaning demands a text of its kind.
    if tag = coreTag "bool" then demand "a boolean" ((readBool? text).map bool)
    else if tag = coreTag "int" then demand "an integer" ((readWhole? text.toList).map whole)
    else if tag = coreTag "float" then demand "a float" ((readFloat? text.toList).map float)
    else if tag = coreTag "null" then demand "null" (if text ∈ nullWords then some null else none)
    -- A local tag says nothing about the value.
    else if tag.toList.head? = some '!' then .ok untagged
    else .ok (string text)

def found : Scalar → Found
  | null => .unit
  | bool b => .bool b
  -- A whole number of more than 64 bits is told apart.
  | whole n => if Json.isExact n then .int n else .wideInt n
  | float x => .float x.text
  | string s => .string s

end Scalar

end ModuleSurvey.Yaml
