import ModuleSurvey.Json.Print
import ModuleSurvey.Template

/-! # Attributes

* `Attribute` — what a body says about an attribute: nothing, `null`, a value, or a value of the
  wrong kind.
* `Attribute.string`, `Attribute.bool`, `Attribute.strings` — reading an attribute of a kind.
* `Attribute.onto` — what a later body makes of an earlier value.
-/

namespace ModuleSurvey

open Json (Value Members)

inductive AttributeFault where
  | notString (found : String)
  | notBool (found : String)
  /-- A string that is neither of the truth values. -/
  | notBoolText (s : String)
  | notStrings (found : String)
  /-- A list with an item that is no string. -/
  | notStringItem (found : String)
  deriving DecidableEq, Repr

def AttributeFault.message : AttributeFault → String
  | notString found => "must be a string, found " ++ found
  | notBool found => "must be a bool, found " ++ found
  | notBoolText s => "must be a bool, found \"" ++ s ++ "\""
  | notStrings found => "must be a list of strings, found " ++ found
  | notStringItem found => "must be a list of strings, found " ++ found ++ " element"

inductive Attribute (α : Type) where
  | missing
  | null
  | given (a : α)
  | rejected (fault : AttributeFault)
  deriving Repr

namespace Attribute

def value? {α : Type} : Attribute α → Option α
  | given a => some a
  | _ => none

def isNamed {α : Type} : Attribute α → Bool
  | missing => false
  | _ => true

def fault? {α : Type} : Attribute α → Option AttributeFault
  | rejected f => some f
  | _ => none

def map {α β : Type} (f : α → β) : Attribute α → Attribute β
  | missing => missing
  | null => null
  | given a => given (f a)
  | rejected fault => rejected fault

/-- The value that a body leaves where `earlier` stood before: a body that names the attribute
without a value that does leaves `absent`. -/
def onto {α : Type} (a : Attribute α) (absent earlier : α) : α :=
  if a.isNamed then a.value?.getD absent else earlier

def string (body : Members) (name : String) : Attribute String :=
  match body.get? name with
  | none => missing
  | some .null => null
  | some (.string s) => given s
  -- Numbers and truth values stand for their text.
  | some (.number n) => given n.text
  | some (.bool b) => given (if b then "true" else "false")
  | some v => rejected (.notString v.kind)

/-- A truth value, bare or as a text, which may be an interpolation. -/
def bool (body : Members) (name : String) : Attribute Bool :=
  match body.get? name with
  | none => missing
  | some .null => null
  | some (.bool b) => given b
  | some (.string s) =>
    if unwrapTemplate s = "true" then given true
    else if unwrapTemplate s = "false" then given false
    else rejected (.notBoolText s)
  | some v => rejected (.notBool v.kind)

/-- The strings of a list, or the first item that is none. -/
def itemStrings : List Value → Except AttributeFault (List String)
  | [] => .ok []
  | .string s :: vs => do return s :: (← itemStrings vs)
  | v :: _ => .error (.notStringItem v.kind)

def strings (body : Members) (name : String) : Attribute (List String) :=
  match body.get? name with
  | none => missing
  | some .null => null
  | some (.array vs) =>
    match itemStrings vs with
    | .ok l => given l
    | .error f => rejected f
  | some v => rejected (.notStrings v.kind)

end Attribute

end ModuleSurvey
