import ModuleSurvey.Json.Reader
import ModuleSurvey.Proofs.SortedMap

/-! # What a text says, and what is read of it

An object of a text may have several members of one name. A value that is read has the last of them
only, on every level, and nothing else is lost: reading is the same as writing down all members in
their order and settling the result afterwards.

* `Value.parseWritten` — the value of a text with all members of its objects.
* `Value.settled` — a value in which of the members of one name the last one counts.
* `Value.parse_eq_settled` — reading a text settles what it says.
-/

namespace ModuleSurvey.Json

/-! ## Settled values -/

mutual

/-- The value in which each object has only the last of its members of a name. -/
def Value.settled : Value → Value
  | .array vs => .array (settledItems vs)
  | .object ms => .ofMembers (settledMembers ms)
  | v => v

def settledItems : List Value → List Value
  | [] => []
  | v :: vs => v.settled :: settledItems vs

def settledMembers : List (String × Value) → List (String × Value)
  | [] => []
  | (name, v) :: ms => (name, v.settled) :: settledMembers ms

end

theorem settledItems_eq_map (vs : List Value) : settledItems vs = vs.map Value.settled := by
  induction vs with
  | nil => simp [settledItems]
  | cons v vs inductionHypothesis => simp [settledItems, inductionHypothesis]

theorem settledMembers_eq_map (ms : Members) :
    settledMembers ms = ms.map fun e => (e.1, e.2.settled) := by
  induction ms with
  | nil => simp [settledMembers]
  | cons e ms inductionHypothesis => simp [settledMembers, inductionHypothesis]

def Members.settled (ms : Members) : Members :=
  (SortedMap.ofList (ms.map fun e => (e.1, e.2.settled))).entries

theorem Value.settled_array (vs : List Value) :
    (Value.array vs).settled = .array (vs.map Value.settled) := by
  rw [settled, settledItems_eq_map]

theorem Value.settled_object (ms : Members) : (Value.object ms).settled = .object ms.settled := by
  rw [settled, settledMembers_eq_map]
  rfl

theorem Members.settled_perm (ms : Members) :
    ms.settled.Perm ((SortedMap.lastOfEach ms).map fun e => (e.1, e.2.settled)) := by
  rw [← SortedMap.lastOfEach_map]
  exact SortedMap.entries_ofList_perm _

/-! ## Readers that agree up to what they make of a text -/

section

variable {α β : Type} (f : α → β)

def onRead (f : α → β) (read : Except Fault (α × List Char)) : Except Fault (β × List Char) :=
  read.map (Prod.map f id)

@[simp] theorem onRead_ok (a : α) (cs : List Char) : onRead f (.ok (a, cs)) = .ok (f a, cs) := rfl

variable {item : List Char → Except Fault (α × List Char)}

theorem items_onRead (steps : Nat) (first : Bool) (cs : List Char) :
    items (fun cs => onRead f (item cs)) steps first cs =
      onRead (List.map f) (items item steps first cs) := by
  induction steps generalizing first cs with
  | zero => rfl
  | succ steps inductionHypothesis =>
    rw [items, items]
    cases nextItem first cs with
    | error fault => rfl
    | ok next =>
      cases next with
      | none => rfl
      | some cs =>
        simp only [bind, Except.bind]
        cases item cs with
        | error fault => rfl
        | ok read =>
          obtain ⟨a, cs⟩ := read
          simp only [onRead_ok, inductionHypothesis]
          cases items item steps false cs <;> rfl

theorem members_onRead (steps : Nat) (first : Bool) (cs : List Char) :
    members (fun cs => onRead f (item cs)) steps first cs =
      onRead (List.map fun e => (e.1, f e.2)) (members item steps first cs) := by
  induction steps generalizing first cs with
  | zero => rfl
  | succ steps inductionHypothesis =>
    rw [members, members]
    cases nextMember first cs with
    | error fault => rfl
    | ok next =>
      cases next with
      | none => rfl
      | some cs =>
        simp only [bind, Except.bind]
        cases readString cs with
        | error fault => rfl
        | ok name =>
          dsimp only
          cases readColon name.2 with
          | error fault => rfl
          | ok cs =>
            dsimp only
            cases item cs with
            | error fault => rfl
            | ok read =>
              obtain ⟨a, cs⟩ := read
              simp only [onRead_ok, inductionHypothesis]
              cases members item steps false cs <;> rfl

end

/-! ## Reading a text -/

theorem onRead_bind_settled {γ : Type} {read : Except Fault (γ × List Char)} (make : γ → Value)
    (scalar : ∀ c, (make c).settled = make c) :
    (do let (c, cs) ← read; return (make c, cs)) =
      onRead Value.settled (do let (c, cs) ← read; return (make c, cs)) := by
  cases read with
  | error fault => rfl
  | ok read => simp [bind, Except.bind, pure, Except.pure, scalar]

theorem onRead_word_settled {word cs : List Char} {v : Value} (scalar : v.settled = v) :
    (do return (v, ← readWord word cs)) =
      onRead Value.settled (do return (v, ← readWord word cs)) := by
  cases readWord word cs with
  | error fault => rfl
  | ok rest => simp [bind, Except.bind, pure, Except.pure, scalar]

theorem onRead_bracket_settled {γ δ : Type} {read : Except Fault (γ × List Char)} {change : γ → δ}
    {close : List Char → Except Fault (List Char)} {make : δ → Value} {written : γ → Value}
    (made : ∀ c, (written c).settled = make (change c)) :
    (do let (c, cs) ← onRead change read; return (make c, ← close cs)) =
      onRead Value.settled (do let (c, cs) ← read; return (written c, ← close cs)) := by
  cases read with
  | error fault => rfl
  | ok read =>
    obtain ⟨c, rest⟩ := read
    simp only [onRead_ok, bind, Except.bind]
    cases close rest with
    | error fault => rfl
    | ok rest => simp [pure, Except.pure, made]

/-- The members that do not count may be left out object by object, or in the whole value. -/
theorem valueAt_ofMembers (steps depth : Nat) (cs : List Char) :
    valueAt .ofMembers steps depth cs = onRead Value.settled (valueAt .object steps depth cs) := by
  induction depth using Nat.strongRecOn generalizing cs with
  | ind depth inductionHypothesis =>
    -- The readers differ only below an opening bracket, where one bracket less may be opened.
    have inner : ∀ lower, lower < depth → valueAt .ofMembers steps lower =
        fun cs => onRead Value.settled (valueAt .object steps lower cs) :=
      fun lower less => funext fun cs => inductionHypothesis lower less cs
    rw [valueAt, valueAt]
    -- By what the text begins with: its end, the three words, a negative number, a text, a list, an
    -- object, and a digit or anything else.
    split
    case h_1 => rfl
    case h_2 | h_3 | h_4 => exact onRead_word_settled (by simp [Value.settled])
    case h_5 => exact onRead_bind_settled .number fun n => by simp [Value.settled]
    case h_6 =>
      exact onRead_bind_settled (fun s => .string (String.ofList s)) fun s => by simp [Value.settled]
    case h_7 =>
      match depth with
      | 0 | 1 => rfl
      | depth + 2 =>
        dsimp only
        rw [inner (depth + 1) (by omega)]
        simp only [items_onRead]
        exact onRead_bracket_settled Value.settled_array
    case h_8 =>
      match depth with
      | 0 | 1 => rfl
      | depth + 2 =>
        dsimp only
        rw [inner (depth + 1) (by omega)]
        simp only [members_onRead]
        exact onRead_bracket_settled Value.settled_object
    case h_9 =>
      split
      · exact onRead_bind_settled .number fun n => by simp [Value.settled]
      · rfl

/-- The value that a text writes down, with all members of its objects in their order. -/
def Value.parseWritten (text : String) : Except Fault Value :=
  decode (fun b cs => valueAt .object b.steps b.depth cs) text

/-- What is read of a text is what it writes down, settled. -/
theorem Value.parse_eq_settled (text : String) :
    parse text = (parseWritten text).map settled := by
  unfold parse parseWritten decode decodeChars value
  simp only [valueAt_ofMembers]
  cases valueAt .object (text.toList.length + 1) maxDepth text.toList with
  | error fault => rfl
  | ok read =>
    obtain ⟨v, cs⟩ := read
    simp only [onRead_ok, bind, Except.bind]
    cases skipBlanks cs <;> rfl

end ModuleSurvey.Json
