/-! # Cutting text

Lines, and cutting at a separator.

* `splitOn` — the pieces between the occurrences of a character.
* `lines` — a line ends at a line feed, and a carriage return right before it belongs to the end.
* `cutAtFirst?` — what stands before and after the first occurrence of a character.
* `dropStart?`, `dropEnd?` — the rest of a text behind a given start, or before a given end.
* `contains` — whether a text occurs in another one.
-/

namespace ModuleSurvey.Text

/-- The pieces of `cs` between the occurrences of `sep`: one more than there are occurrences. -/
def splitOn (sep : Char) : List Char → List (List Char)
  | [] => [[]]
  | c :: cs =>
    if c = sep then [] :: splitOn sep cs
    else
      match splitOn sep cs with
      | [] => [[c]]
      | piece :: pieces => (c :: piece) :: pieces

def dropReturn (line : List Char) : List Char :=
  if line.getLast? = some '\r' then line.dropLast else line

/-- The lines of a text. -/
def lines (cs : List Char) : List (List Char) :=
  let pieces := splitOn '\n' cs
  -- A carriage return is dropped only where a line feed follows it.
  let ended := pieces.dropLast.map dropReturn
  match pieces.getLast? with
  -- Text behind the last line feed is a line too, unless it is empty.
  | none | some [] => ended
  | some open_ => ended ++ [open_]

def cutAtFirst? (sep : Char) : List Char → Option (List Char × List Char)
  | [] => none
  | c :: cs =>
    if c = sep then some ([], cs)
    else (cutAtFirst? sep cs).map fun (before, behind) => (c :: before, behind)

def dropStart? : (start cs : List Char) → Option (List Char)
  | [], cs => some cs
  | _ :: _, [] => none
  | a :: start, c :: cs => if a = c then dropStart? start cs else none

def dropEnd? (ending cs : List Char) : Option (List Char) :=
  (dropStart? ending.reverse cs.reverse).map List.reverse

def contains (part : List Char) : List Char → Bool
  | [] => part.isEmpty
  | c :: cs => (dropStart? part (c :: cs)).isSome || contains part cs

/-- The result of cutting at a separator glues together to the text, and the separator is
the first one. -/
theorem cutAtFirst?_eq_some_iff {sep : Char} {cs before behind : List Char} :
    cutAtFirst? sep cs = some (before, behind) ↔
      cs = before ++ sep :: behind ∧ sep ∉ before := by
  induction cs generalizing before with
  | nil => simp [cutAtFirst?]
  | cons c cs ih =>
    by_cases h : c = sep
    · subst h
      cases before <;> simp [cutAtFirst?]
      grind
    · cases before with
      | nil => simp [cutAtFirst?, h]
      | cons b before =>
        simp only [cutAtFirst?, h, if_false, Option.map_eq_some_iff, Prod.exists, Prod.mk.injEq,
          List.cons.injEq, List.cons_append, List.mem_cons, not_or]
        constructor
        · rintro ⟨a, b', hab, ⟨rfl, rfl⟩, rfl⟩
          obtain ⟨rfl, hn⟩ := ih.1 hab
          exact ⟨⟨rfl, rfl⟩, fun e => h e.symm, hn⟩
        · rintro ⟨⟨rfl, rfl⟩, _, hn⟩
          exact ⟨before, behind, ih.2 ⟨rfl, hn⟩, ⟨rfl, rfl⟩, rfl⟩

theorem cutAtFirst?_eq_none_iff {sep : Char} {cs : List Char} :
    cutAtFirst? sep cs = none ↔ sep ∉ cs := by
  induction cs with
  | nil => simp [cutAtFirst?]
  | cons c cs ih =>
    by_cases h : c = sep
    · simp [cutAtFirst?, h]
    · simp [cutAtFirst?, h, ih, Ne.symm h]

theorem dropStart?_eq_some_iff {start cs rest : List Char} :
    dropStart? start cs = some rest ↔ cs = start ++ rest := by
  induction start generalizing cs with
  | nil => simp [dropStart?, eq_comm]
  | cons a start ih =>
    cases cs with
    | nil => simp [dropStart?]
    | cons c cs =>
      by_cases h : a = c
      · simp [dropStart?, h, ih]
      · simp [dropStart?, h, Ne.symm h]

theorem dropEnd?_eq_some_iff {ending cs stem : List Char} :
    dropEnd? ending cs = some stem ↔ cs = stem ++ ending := by
  simp only [dropEnd?, Option.map_eq_some_iff, dropStart?_eq_some_iff]
  constructor
  · rintro ⟨rest, reversed, rfl⟩
    simpa using congrArg List.reverse reversed
  · rintro rfl
    exact ⟨stem.reverse, by simp, by simp⟩

theorem contains_iff {part cs : List Char} : contains part cs = true ↔ part <:+: cs := by
  induction cs with
  | nil => simp [contains]
  | cons c cs ih =>
    have starts : (dropStart? part (c :: cs)).isSome = true ↔ part <+: c :: cs := by
      rw [Option.isSome_iff_exists]
      exact exists_congr fun _ => dropStart?_eq_some_iff.trans eq_comm
    rw [contains, Bool.or_eq_true, starts, ih, List.infix_cons_iff]

end ModuleSurvey.Text
