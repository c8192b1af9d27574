/-! # Sets of characters given by their boundaries

A Unicode property is kept as the increasing list of the code points at which it starts and ends
to hold. A code point has the property if an odd number of boundaries lies at or below it.
-/

namespace ModuleSurvey.Text

/-- Whether `n` lies behind an odd number of the boundaries, which increase. -/
def insideFrom (inside : Bool) (n : Nat) : List Nat → Bool
  | [] => inside
  | b :: bs => if n < b then inside else insideFrom (!inside) n bs

def inside (boundaries : List Nat) (n : Nat) : Bool := insideFrom false n boundaries

example : (inside [3, 5] 2, inside [3, 5] 3, inside [3, 5] 4, inside [3, 5] 5)
    = (false, true, true, false) := rfl

end ModuleSurvey.Text
