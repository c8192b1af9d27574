import ModuleSurvey.SortedMap
import ModuleSurvey.Decimal.Double

/-! # JSON values

* `Number` — a whole number of 64 bits, signed or unsigned, or a double.
* `Value` — a JSON value; the members of an object are a list of pairs.
* `Value.ofMembers` — the object of a list of members: one member for each name, the last one
  written, in the byte order of the names.
* `Members.get?`, `Value.kind` — a member of an object, and the word for the kind of a value.
* `Value.itemInduction` — induction on the values in a value.
-/

namespace ModuleSurvey.Json

open Decimal (Double)

/-! ## Numbers -/

/-- A number of a JSON text. Whole numbers from `-2 ^ 63` to `2 ^ 64 - 1` are exact, all others
are doubles. -/
inductive Number where
  | int (n : Int)
  | double (d : Double)
  deriving DecidableEq, Repr, Inhabited

def isExact (n : Int) : Bool := -(Nat.pow 2 63 : Nat) ≤ n && n < (Nat.pow 2 64 : Nat)

/-! ## Values -/

inductive Value where
  | null
  | bool (b : Bool)
  | number (n : Number)
  | string (s : String)
  | array (items : List Value)
  | object (members : List (String × Value))
  deriving Inhabited

abbrev Members := List (String × Value)

/-- The value of the first member with this name. -/
def Members.get? (members : Members) (name : String) : Option Value :=
  SortedMap.lookupEntry name members

def Members.has (members : Members) (name : String) : Bool :=
  (members.get? name).isSome

namespace Value

/-- The object of a list of members, where the last member of a name counts. -/
def ofMembers (members : Members) : Value :=
  .object (SortedMap.ofList members).entries

def kind : Value → String
  | null => "null"
  | bool _ => "a bool"
  | number _ => "a number"
  | string _ => "a string"
  | array _ => "an array"
  | object _ => "an object"

/-- Induction over a value, on the items of a list and the values of an object. -/
@[elab_as_elim]
theorem itemInduction {motive : Value → Prop} (v : Value) (null : motive null)
    (bool : ∀ b, motive (bool b)) (number : ∀ n, motive (number n))
    (string : ∀ s, motive (string s)) (array : ∀ vs, (∀ v ∈ vs, motive v) → motive (array vs))
    (object : ∀ ms : Members, (∀ e ∈ ms, motive e.2) → motive (object ms)) : motive v :=
  @Value.rec motive (fun vs => ∀ v ∈ vs, motive v) (fun ms => ∀ e ∈ ms, motive e.2)
    (fun e => motive e.2) null bool number string array object
    (by simp) (fun _ _ first more => List.forall_mem_cons.2 ⟨first, more⟩)
    (by simp) (fun _ _ first more => List.forall_mem_cons.2 ⟨first, more⟩)
    (fun _ _ holds => holds) v

/-! ## Equality -/

mutual

def equal : Value → Value → Bool
  | null, null => true
  | bool a, bool b => a == b
  | number a, number b => a == b
  | string a, string b => a == b
  | array a, array b => equalItems a b
  | object a, object b => equalMembers a b
  | _, _ => false

def equalItems : List Value → List Value → Bool
  | [], [] => true
  | a :: as, b :: bs => equal a b && equalItems as bs
  | _, _ => false

def equalMembers : List (String × Value) → List (String × Value) → Bool
  | [], [] => true
  | (k, a) :: as, (l, b) :: bs => k == l && equal a b && equalMembers as bs
  | _, _ => false

end

mutual

theorem equal_iff : ∀ a b : Value, equal a b = true ↔ a = b
  | null, b => by cases b <;> simp [equal]
  | bool a, b => by cases b <;> simp [equal]
  | number a, b => by cases b <;> simp [equal]
  | string a, b => by cases b <;> simp [equal]
  | array a, b => by cases b <;> simp [equal, equalItems_iff a]
  | object a, b => by cases b <;> simp [equal, equalMembers_iff a]

theorem equalItems_iff : ∀ as bs : List Value, equalItems as bs = true ↔ as = bs
  | [], bs => by cases bs <;> simp [equalItems]
  | a :: as, bs => by cases bs <;> simp [equalItems, equal_iff a, equalItems_iff as]

theorem equalMembers_iff :
    ∀ as bs : List (String × Value), equalMembers as bs = true ↔ as = bs
  | [], bs => by cases bs <;> simp [equalMembers]
  | (k, a) :: as, bs => by
    cases bs <;> simp [equalMembers, equal_iff a, equalMembers_iff as, Prod.ext_iff]

end

instance : DecidableEq Value := fun a b => decidable_of_iff _ (equal_iff a b)

end Value

end ModuleSurvey.Json
