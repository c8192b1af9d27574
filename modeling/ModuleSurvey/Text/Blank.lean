/-! # Blank characters

White space in the sense of the Unicode property `White_Space`, and cutting it off a text.

* `isBlank` — the property.
* `trimStart`, `trimEnd`, `trim` — cutting blanks off the ends of a list of characters.
-/

namespace ModuleSurvey.Text

/-- The Unicode property `White_Space`. -/
def isBlank (c : Char) : Bool :=
  let n := c.toNat
  (0x9 ≤ n && n ≤ 0xD) || n == 0x20 || n == 0x85 || n == 0xA0 || n == 0x1680 ||
  (0x2000 ≤ n && n ≤ 0x200A) || n == 0x2028 || n == 0x2029 || n == 0x202F ||
  n == 0x205F || n == 0x3000

def trimStart (cs : List Char) : List Char :=
  cs.dropWhile isBlank

def trimEnd (cs : List Char) : List Char :=
  (cs.reverse.dropWhile isBlank).reverse

def trim (cs : List Char) : List Char :=
  trimEnd (trimStart cs)

theorem trimStart_of_solid {c : Char} {cs : List Char} (solid : isBlank c = false) :
    trimStart (c :: cs) = c :: cs :=
  List.dropWhile_cons_of_neg (by simp [solid])

theorem trimEnd_concat_of_solid {d : Char} (cs : List Char) (solid : isBlank d = false) :
    trimEnd (cs ++ [d]) = cs ++ [d] := by
  rw [trimEnd, List.reverse_concat, List.dropWhile_cons_of_neg (by simp [solid]), List.reverse_cons,
    List.reverse_reverse]

theorem trim_of_solid {c d : Char} (cs : List Char) (first : isBlank c = false)
    (last : isBlank d = false) : trim (c :: cs ++ [d]) = c :: cs ++ [d] := by
  rw [trim, List.cons_append, trimStart_of_solid first, ← List.cons_append,
    trimEnd_concat_of_solid _ last]

theorem trim_infix (cs : List Char) : trim cs <:+: cs := by
  have endCut : trim cs <+: trimStart cs := by
    rw [← List.reverse_suffix, trim, trimEnd, List.reverse_reverse]
    exact List.dropWhile_suffix _
  exact endCut.isInfix.trans (List.dropWhile_suffix _).isInfix

end ModuleSurvey.Text
