import ModuleSurvey.Text.Quoted

/-! # Values of the wrong shape

What can be wrong with a well-formed value where a certain shape is wanted, in a JSON text or in
a YAML document alike.

* `Found` — what was found, in words.
* `Mismatch` — why it does not do, and `Mismatch.message`.
-/

namespace ModuleSurvey

inductive Found where
  /-- The `null` of a JSON text. -/
  | null
  /-- The empty value of a YAML document. -/
  | unit
  | bool (b : Bool)
  | int (n : Int)
  /-- A whole number of more than 64 bits. -/
  | wideInt (n : Int)
  /-- A number that is not whole, by its text. -/
  | float (text : String)
  | string (s : String)
  | sequence
  | map
  deriving DecidableEq, Repr

def backquoted (s : String) : String := "\x60" ++ s ++ "\x60"

def Found.text : Found → String
  | null => "null"
  | unit => "unit value"
  | bool b => "boolean " ++ backquoted (toString b)
  | int n => "integer " ++ backquoted (toString n)
  | wideInt n =>
    "integer " ++ backquoted (toString n) ++ " as " ++ (if n < 0 then "i128" else "u128")
  | float text => "floating point " ++ backquoted text
  | string s => "string " ++ Text.quotedText s
  | sequence => "sequence"
  | map => "map"

inductive Mismatch where
  | wrongType (found : Found) (wanted : String)
  | wrongValue (found : Found) (wanted : String)
  | missingField (name : String)
  | duplicateField (name : String)
  | unknownVariant (name : String) (known : List String)
  /-- A record written as a list that ends before its field number `count`, counted from zero. -/
  | tooShort (count : Nat) (record : String) (fields : Nat)
  deriving DecidableEq, Repr

def choiceText : List String → String
  | [] => "there are no variants"
  | [a] => "expected " ++ backquoted a
  | [a, b] => "expected " ++ backquoted a ++ " or " ++ backquoted b
  | names => "expected one of " ++ ", ".intercalate (names.map backquoted)

def Mismatch.message : Mismatch → String
  | wrongType found wanted => "invalid type: " ++ found.text ++ ", expected " ++ wanted
  | wrongValue found wanted => "invalid value: " ++ found.text ++ ", expected " ++ wanted
  | missingField name => "missing field " ++ backquoted name
  | duplicateField name => "duplicate field " ++ backquoted name
  | unknownVariant name known => "unknown variant " ++ backquoted name ++ ", " ++ choiceText known
  | tooShort count record fields =>
    "invalid length " ++ toString count ++ ", expected struct " ++ record ++ " with "
      ++ toString fields ++ (if fields = 1 then " element" else " elements")

end ModuleSurvey
