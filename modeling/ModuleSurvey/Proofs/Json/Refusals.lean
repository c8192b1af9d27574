import ModuleSurvey.Proofs.Json.Faults
import ModuleSurvey.Proofs.Report.LineBreaks

/-! # Why a text is refused

A reader of a wanted shape names what it found instead, and what it found is out of the text. The
reader of any value wants no shape, so it refuses a text for its syntax alone, in words of its own.

* `Cause.isSyntactic`, `Syntactic` — causes that are no mismatch, and readers that have no others.
* `syntactic_valueAt` — the reader of any value, by induction on the depth that is left.
* `Value.unbroken_message_of_parse` — the message holds no line feed.
-/

namespace ModuleSurvey.Json

def Cause.isSyntactic : Cause → Bool
  | mismatch _ => false
  | endInValue | endInList | endInObject | endInString | expectedValue | expectedWord | expectedColon
  | expectedListEnd | expectedObjectEnd | keyNotString | trailingComma | trailingCharacters
  | invalidNumber | numberOutOfRange | invalidEscape | hexEscapeEnds | loneSurrogate
  | controlCharacter | tooDeep => true

def Syntactic {α : Type} (read : Except Fault α) : Prop :=
  ∀ fault, read = .error fault → fault.cause.isSyntactic = true

namespace Syntactic

variable {α β : Type} {read : Except Fault α}

theorem ok (a : α) : Syntactic (.ok a : Except Fault α) := nofun

theorem error {fault : Fault} (syntactic : fault.cause.isSyntactic = true) :
    Syntactic (.error fault : Except Fault α) := by
  rintro _ ⟨rfl⟩
  exact syntactic

theorem bind {next : α → Except Fault β} (first : Syntactic read)
    (goesOn : ∀ a, Syntactic (next a)) : Syntactic (read >>= next) := by
  cases read with
  | ok a => exact goesOn a
  | error fault => exact error (first fault rfl)

theorem consRead {read : Except Fault (List Char × List Char)} (syntactic : Syntactic read)
    (c : Char) : Syntactic (Json.consRead c read) := by
  cases read with
  | ok read => exact ok _
  | error fault => exact error (syntactic fault rfl)

end Syntactic

/-! ## Lexemes -/

theorem syntactic_readWord (word cs : List Char) : Syntactic (readWord word cs) := by
  fun_induction readWord word cs with
  | case1 => exact .ok _
  | case2 | case4 => exact .error rfl
  | case3 _ _ _ inductionHypothesis => exact inductionHypothesis

theorem isSyntactic_hexFault (cs : List Char) : (hexFault cs).cause.isSyntactic = true := by
  unfold hexFault
  split <;> rfl

theorem syntactic_readString (cs : List Char) : Syntactic (readString cs) := by
  fun_induction readString cs with
  | case2 => exact .ok _
  | case3 | case5 | case8 | case14 => exact .error (isSyntactic_hexFault _)
  | case1 | case4 | case7 | case9 | case10 | case11 | case12 | case15 | case17 | case18 =>
    exact .error rfl
  | case6 | case13 | case16 | case19 => exact Syntactic.consRead ‹_› _

theorem syntactic_scanWhole {atEnd : Cause} (ended : atEnd.isSyntactic = true) (cs : List Char) :
    Syntactic (scanWhole atEnd cs) := by
  fun_cases scanWhole atEnd cs with
  | case1 => exact .error ended
  | case2 | case5 => exact .error rfl
  | case3 | case4 | case6 => exact .ok _

theorem syntactic_scanFraction {atEnd : Cause} (ended : atEnd.isSyntactic = true) (cs : List Char) :
    Syntactic (scanFraction atEnd cs) := by
  fun_cases scanFraction atEnd cs with
  | case1 => exact .error ended
  | case2 => exact .error rfl
  | case3 | case4 => exact .ok _

theorem syntactic_scanExponent {atEnd : Cause} (ended : atEnd.isSyntactic = true) (cs : List Char) :
    Syntactic (scanExponent atEnd cs) := by
  fun_cases scanExponent atEnd cs with
  | case1 | case4 | case5 => exact .ok _
  | case2 => exact .error ended
  | case3 => exact .error rfl

theorem syntactic_readNumber (negative : Bool) (cs : List Char) :
    Syntactic (readNumber negative cs) := by
  have ended : Cause.endInValue.isSyntactic = true := rfl
  refine Syntactic.bind ?_ fun read => ?_
  · refine (syntactic_scanWhole ended cs).bind fun whole => ?_
    refine (syntactic_scanFraction ended whole.2).bind fun fraction => ?_
    exact (syntactic_scanExponent ended fraction.2).bind fun exponent => .ok _
  · dsimp only
    split
    · exact .ok _
    · exact .error rfl

/-! ## Lists and objects -/

theorem syntactic_nextItem (first : Bool) (cs : List Char) : Syntactic (nextItem first cs) := by
  fun_cases nextItem first cs <;> first | exact .ok _ | exact .error rfl

theorem syntactic_endList (cs : List Char) : Syntactic (endList cs) := by
  fun_cases endList cs <;> first | exact .ok _ | exact .error rfl

theorem syntactic_nextMember (first : Bool) (cs : List Char) : Syntactic (nextMember first cs) := by
  unfold nextMember
  dsimp only
  repeat' split
  all_goals first | exact .ok _ | exact .error rfl

theorem syntactic_endObject (cs : List Char) : Syntactic (endObject cs) := by
  fun_cases endObject cs <;> first | exact .ok _ | exact .error rfl

theorem syntactic_readColon (cs : List Char) : Syntactic (readColon cs) := by
  fun_cases readColon cs <;> first | exact .ok _ | exact .error rfl

variable {α : Type} {item : List Char → Except Fault (α × List Char)}

theorem syntactic_items (read : ∀ cs, Syntactic (item cs)) (steps : Nat) (first : Bool)
    (cs : List Char) : Syntactic (items item steps first cs) := by
  induction steps generalizing first cs with
  | zero => exact .error rfl
  | succ steps inductionHypothesis =>
    refine (syntactic_nextItem first cs).bind fun next? => ?_
    cases next? with
    | none => exact .ok _
    | some rest =>
      refine (read rest).bind fun value => ?_
      exact (inductionHypothesis false value.2).bind fun more => .ok _

theorem syntactic_members (read : ∀ cs, Syntactic (item cs)) (steps : Nat) (first : Bool)
    (cs : List Char) : Syntactic (members item steps first cs) := by
  induction steps generalizing first cs with
  | zero => exact .error rfl
  | succ steps inductionHypothesis =>
    refine (syntactic_nextMember first cs).bind fun next? => ?_
    cases next? with
    | none => exact .ok _
    | some rest =>
      refine (syntactic_readString rest).bind fun name => ?_
      refine (syntactic_readColon name.2).bind fun rest => ?_
      refine (read rest).bind fun value => ?_
      exact (inductionHypothesis false value.2).bind fun more => .ok _

/-! ## Values -/

theorem syntactic_valueAt (object : Members → Value) (steps depth : Nat) (cs : List Char) :
    Syntactic (valueAt object steps depth cs) := by
  induction depth using Nat.strongRecOn generalizing cs with
  | ind depth inductionHypothesis =>
    rw [valueAt]
    split
    case h_1 => exact .error rfl
    case h_2 | h_3 | h_4 => exact (syntactic_readWord _ _).bind fun rest => .ok _
    case h_5 => exact (syntactic_readNumber true _).bind fun read => .ok _
    case h_6 => exact (syntactic_readString _).bind fun read => .ok _
    -- A bracket needs some depth to be left, and what is inside it is read with less.
    case h_7 =>
      rcases depth with _ | _ | depth
      · exact .error rfl
      · exact .error rfl
      · have inner := inductionHypothesis (depth + 1) (by omega)
        refine (syntactic_items inner steps true _).bind fun read => ?_
        exact (syntactic_endList read.2).bind fun rest => .ok _
    case h_8 =>
      rcases depth with _ | _ | depth
      · exact .error rfl
      · exact .error rfl
      · have inner := inductionHypothesis (depth + 1) (by omega)
        refine (syntactic_members inner steps true _).bind fun read => ?_
        exact (syntactic_endObject read.2).bind fun rest => .ok _
    case h_9 =>
      split
      · exact (syntactic_readNumber false _).bind fun read => .ok _
      · exact .error rfl

theorem Value.syntactic_parse (text : String) : Syntactic (Value.parse text) := by
  refine (syntactic_valueAt .ofMembers _ maxDepth text.toList).bind fun read => ?_
  dsimp only
  split
  · exact .ok _
  · exact .error rfl

/-! ## Messages -/

theorem Cause.unbroken_message_of_isSyntactic {cause : Cause}
    (syntactic : cause.isSyntactic = true) : Unbroken cause.message := by
  cases cause with
  | mismatch m => cases syntactic
  | _ => decide +kernel

/-- The message for a text that holds no value is on one line. -/
theorem Value.unbroken_message_of_parse {text : String} {fault : Fault}
    (refused : Value.parse text = .error fault) (cs : List Char) : Unbroken (fault.message cs) := by
  have cause := Cause.unbroken_message_of_isSyntactic (Value.syntactic_parse text fault refused)
  have words : Unbroken " at line " ∧ Unbroken " column " := by decide +kernel
  exact (((cause.append words.1).append (unbroken_toString _)).append words.2).append
    (unbroken_toString _)

end ModuleSurvey.Json
