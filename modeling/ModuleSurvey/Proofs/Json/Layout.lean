import ModuleSurvey.Json.Lexeme
import ModuleSurvey.Json.Print

/-! # Layouts

A value on one line and an indented value differ only in the white space between their tokens. A
layout says what white space stands there, and both ways of writing are instances of it, so that
what is proved about reading a laid out value holds of both.

* `Layout`, `Value.chars` — the white space of a text, and the text of a value.
* `compactChars_eq`, `prettyChars_eq` — the two ways to write a value.
* `Value.depth`, `Value.width` — how deep brackets are nested, and how much stands in one bracket.
-/

namespace ModuleSurvey.Json

def IsBlank (cs : List Char) : Prop := ∀ c ∈ cs, isBlank c = true

structure Layout where
  /-- What stands before each item or member of a bracket, by the level of the items, and before
  the closing bracket, by the level of the bracket. -/
  gap : Nat → List Char
  space : List Char
  blank_gap : ∀ level, IsBlank (gap level)
  blank_space : IsBlank space

namespace Layout

def compact : Layout where
  gap _ := []
  space := []
  blank_gap _ _ member := by cases member
  blank_space _ member := by cases member

def pretty : Layout where
  gap := Value.newLine
  space := [' ']
  blank_gap level c member := by
    rcases List.mem_cons.1 member with rfl | member
    · rfl
    · rw [List.eq_of_mem_replicate member]
      rfl
  blank_space c member := by
    rw [List.mem_singleton.1 member]
    rfl

@[simp] theorem gap_compact (level : Nat) : compact.gap level = [] := rfl

@[simp] theorem space_compact : compact.space = [] := rfl

@[simp] theorem gap_pretty (level : Nat) : pretty.gap level = Value.newLine level := rfl

@[simp] theorem space_pretty : pretty.space = [' '] := rfl

end Layout

namespace Value

mutual

def chars (l : Layout) (level : Nat) : Value → List Char
  | null => ['n', 'u', 'l', 'l']
  | bool true => ['t', 'r', 'u', 'e']
  | bool false => ['f', 'a', 'l', 's', 'e']
  | number n => n.chars
  | string s => quoted s
  | array vs => '[' :: itemsChars l level true vs
  | object ms => '\x7b' :: membersChars l level true ms

def itemsChars (l : Layout) (level : Nat) : (first : Bool) → List Value → List Char
  | first, [] => (if first then [] else l.gap level) ++ [']']
  | first, v :: vs =>
    -- A comma stands before all items but the first one.
    (if first then [] else [',']) ++ l.gap (level + 1) ++ v.chars l (level + 1)
      ++ itemsChars l level false vs

def membersChars (l : Layout) (level : Nat) : (first : Bool) → List (String × Value) → List Char
  | first, [] => (if first then [] else l.gap level) ++ ['\x7d']
  | first, (k, v) :: ms =>
    (if first then [] else [',']) ++ l.gap (level + 1) ++ quoted k ++ ':' :: l.space
      ++ v.chars l (level + 1) ++ membersChars l level false ms

end

/-! ## Both ways of writing -/

mutual

theorem compactChars_eq (level : Nat) : ∀ v : Value, v.compactChars = v.chars .compact level
  | null | bool true | bool false | number _ | string _ => by simp only [compactChars, chars]
  | array [] => by simp [compactChars, chars, itemsChars]
  | array (v :: vs) => by
    have first := compactChars_eq (level + 1) v
    have more := compactItems_eq level vs
    simp [compactChars, chars, itemsChars, first, more]
  | object [] => by simp [compactChars, chars, membersChars]
  | object ((k, v) :: ms) => by
    have first := compactChars_eq (level + 1) v
    have more := compactMembers_eq level ms
    simp [compactChars, chars, membersChars, first, more]

theorem compactItems_eq (level : Nat) :
    ∀ vs : List Value, compactItems vs = itemsChars .compact level false vs
  | [] => by simp [compactItems, itemsChars]
  | v :: vs => by
    have first := compactChars_eq (level + 1) v
    have more := compactItems_eq level vs
    simp [compactItems, itemsChars, first, more]

theorem compactMembers_eq (level : Nat) :
    ∀ ms : List (String × Value), compactMembers ms = membersChars .compact level false ms
  | [] => by simp [compactMembers, membersChars]
  | (k, v) :: ms => by
    have first := compactChars_eq (level + 1) v
    have more := compactMembers_eq level ms
    simp [compactMembers, membersChars, first, more]

end

mutual

theorem prettyChars_eq (level : Nat) : ∀ v : Value, v.prettyChars level = v.chars .pretty level
  | null | bool true | bool false | number _ | string _ => by simp only [prettyChars, chars]
  | array [] => by simp [prettyChars, chars, itemsChars]
  | array (v :: vs) => by
    have first := prettyChars_eq (level + 1) v
    have more := prettyItems_eq level vs
    simp [prettyChars, chars, itemsChars, first, more]
  | object [] => by simp [prettyChars, chars, membersChars]
  | object ((k, v) :: ms) => by
    have first := prettyChars_eq (level + 1) v
    have more := prettyMembers_eq level ms
    simp [prettyChars, chars, membersChars, first, more]

theorem prettyItems_eq (level : Nat) :
    ∀ vs : List Value, prettyItems level vs = itemsChars .pretty level false vs
  | [] => by simp [prettyItems, itemsChars]
  | v :: vs => by
    have first := prettyChars_eq (level + 1) v
    have more := prettyItems_eq level vs
    simp [prettyItems, itemsChars, first, more]

theorem prettyMembers_eq (level : Nat) :
    ∀ ms : List (String × Value), prettyMembers level ms = membersChars .pretty level false ms
  | [] => by simp [prettyMembers, membersChars]
  | (k, v) :: ms => by
    have first := prettyChars_eq (level + 1) v
    have more := prettyMembers_eq level ms
    simp [prettyMembers, membersChars, first, more]

end

/-! ## Nesting and width -/

mutual

/-- How many brackets are open at once at most. -/
def depth : Value → Nat
  | array vs => depthItems vs + 1
  | object ms => depthMembers ms + 1
  | _ => 0

def depthItems : List Value → Nat
  | [] => 0
  | v :: vs => max v.depth (depthItems vs)

def depthMembers : List (String × Value) → Nat
  | [] => 0
  | (_, v) :: ms => max v.depth (depthMembers ms)

end

theorem depthItems_le {vs : List Value} {k : Nat} (items : ∀ v ∈ vs, v.depth ≤ k) :
    depthItems vs ≤ k := by
  induction vs with
  | nil => exact Nat.zero_le k
  | cons v vs inductionHypothesis =>
    obtain ⟨first, more⟩ := List.forall_mem_cons.1 items
    exact Nat.max_le.2 ⟨first, inductionHypothesis more⟩

theorem depthMembers_le {ms : List (String × Value)} {k : Nat} (members : ∀ e ∈ ms, e.2.depth ≤ k) :
    depthMembers ms ≤ k := by
  induction ms with
  | nil => exact Nat.zero_le k
  | cons e ms inductionHypothesis =>
    obtain ⟨first, more⟩ := List.forall_mem_cons.1 members
    exact Nat.max_le.2 ⟨first, inductionHypothesis more⟩

mutual

/-- How many items or members stand in one bracket at most. -/
def width : Value → Nat
  | array vs => max vs.length (widthItems vs)
  | object ms => max ms.length (widthMembers ms)
  | _ => 0

def widthItems : List Value → Nat
  | [] => 0
  | v :: vs => max v.width (widthItems vs)

def widthMembers : List (String × Value) → Nat
  | [] => 0
  | (_, v) :: ms => max v.width (widthMembers ms)

end

theorem depth_le_depthItems {v : Value} : ∀ {vs : List Value}, v ∈ vs → v.depth ≤ depthItems vs
  | [], member => by cases member
  | w :: vs, member => by
    rcases List.mem_cons.1 member with rfl | member
    · exact Nat.le_max_left _ _
    · exact Nat.le_trans (depth_le_depthItems member) (Nat.le_max_right _ _)

theorem depth_le_depthMembers {e : String × Value} :
    ∀ {ms : List (String × Value)}, e ∈ ms → e.2.depth ≤ depthMembers ms
  | [], member => by cases member
  | (k, w) :: ms, member => by
    rcases List.mem_cons.1 member with rfl | member
    · exact Nat.le_max_left _ _
    · exact Nat.le_trans (depth_le_depthMembers member) (Nat.le_max_right _ _)

theorem width_le_widthItems {v : Value} : ∀ {vs : List Value}, v ∈ vs → v.width ≤ widthItems vs
  | [], member => by cases member
  | w :: vs, member => by
    rcases List.mem_cons.1 member with rfl | member
    · exact Nat.le_max_left _ _
    · exact Nat.le_trans (width_le_widthItems member) (Nat.le_max_right _ _)

theorem width_le_widthMembers {e : String × Value} :
    ∀ {ms : List (String × Value)}, e ∈ ms → e.2.width ≤ widthMembers ms
  | [], member => by cases member
  | (k, w) :: ms, member => by
    rcases List.mem_cons.1 member with rfl | member
    · exact Nat.le_max_left _ _
    · exact Nat.le_trans (width_le_widthMembers member) (Nat.le_max_right _ _)

mutual

theorem width_le_length (l : Layout) (level : Nat) :
    ∀ v : Value, v.width ≤ (v.chars l level).length
  | null | bool _ | number _ | string _ => by simp [width]
  | array vs => by
    have items := widthItems_le_length l level true vs
    simp only [width, chars, List.length_cons]
    omega
  | object ms => by
    have members := widthMembers_le_length l level true ms
    simp only [width, chars, List.length_cons]
    omega

theorem widthItems_le_length (l : Layout) (level : Nat) (first : Bool) :
    ∀ vs : List Value, widthItems vs ≤ (itemsChars l level first vs).length ∧
      vs.length + (if first then 0 else 1) ≤ (itemsChars l level first vs).length
  | [] => by cases first <;> simp [widthItems, itemsChars]
  | v :: vs => by
    have head := width_le_length l (level + 1) v
    have tail := widthItems_le_length l level false vs
    simp only [Bool.false_eq_true, if_false] at tail
    cases first <;> simp [widthItems, itemsChars] <;> omega

theorem widthMembers_le_length (l : Layout) (level : Nat) (first : Bool) :
    ∀ ms : List (String × Value), widthMembers ms ≤ (membersChars l level first ms).length ∧
      ms.length + (if first then 0 else 1) ≤ (membersChars l level first ms).length
  | [] => by cases first <;> simp [widthMembers, membersChars]
  | (k, v) :: ms => by
    have head := width_le_length l (level + 1) v
    have tail := widthMembers_le_length l level false ms
    simp only [Bool.false_eq_true, if_false] at tail
    cases first <;> simp [widthMembers, membersChars] <;> omega

end

end Value

end ModuleSurvey.Json
