import ModuleSurvey.Json.Reader
import Mathlib.Data.List.Infix
import Mathlib.Tactic.SplitIfs

/-! # Where a JSON text is faulty

Every reading function leaves an end of the text it was given unread, whether it succeeds or not. So
a fault is noticed inside the text, and its line is one of the lines of the text.

* `EndsWithin` — that law; it composes along `bind`, so each function owes only its own steps.
* `endsWithin_valueAt` — of the reader of values, by induction on the depth that is left.
* `Value.line_le_of_parse` — the line of a fault.
-/

namespace ModuleSurvey.Json


variable {α β : Type} {cs ds : List Char}

/-- What is unread behind a value, or where a fault is noticed, is an end of the text. -/
def EndsWithin (cs : List Char) (unread : α → List Char) : Except Fault α → Prop
  | .ok a => unread a <:+ cs
  | .error fault => fault.rest <:+ cs

variable {unread : α → List Char} {unreadNext : β → List Char} {read : Except Fault α}

theorem EndsWithin.of_suffix (within : EndsWithin cs unread read) (part : cs <:+ ds) :
    EndsWithin ds unread read := by
  cases read with
  | ok a => exact List.IsSuffix.trans within part
  | error fault => exact List.IsSuffix.trans within part

theorem EndsWithin.bind {next : α → Except Fault β} (within : EndsWithin cs unread read)
    (goesOn : ∀ a, EndsWithin (unread a) unreadNext (next a)) :
    EndsWithin cs unreadNext (read >>= next) := by
  cases read with
  | ok a => exact (goesOn a).of_suffix within
  | error fault => exact within

/-! ## Lexemes -/

theorem suffix_of_skipBlanks {rest : List Char} (skipped : skipBlanks cs = rest) : rest <:+ cs :=
  skipped ▸ List.dropWhile_suffix isBlank

theorem tail_suffix_of_skipBlanks {c : Char} {rest : List Char}
    (skipped : skipBlanks cs = c :: rest) : rest <:+ cs :=
  (List.suffix_cons c rest).trans (suffix_of_skipBlanks skipped)

theorem endsWithin_readWord (word cs : List Char) : EndsWithin cs id (readWord word cs) := by
  fun_induction readWord word cs with
  | case1 cs => exact List.suffix_refl cs
  | case2 => exact List.nil_suffix
  | case3 w word cs inductionHypothesis =>
    exact inductionHypothesis.of_suffix (List.suffix_cons _ _)
  | case4 w word c cs => exact List.suffix_refl _

theorem rest_hexFault_suffix (cs : List Char) : (hexFault cs).rest <:+ cs := by
  unfold hexFault
  split
  · exact List.suffix_refl cs
  · exact List.nil_suffix

theorem EndsWithin.consRead {read : Except Fault (List Char × List Char)}
    (within : EndsWithin cs Prod.snd read) (c : Char) :
    EndsWithin cs Prod.snd (consRead c read) := by
  cases read with
  | ok read => exact within
  | error fault => exact within

theorem endsWithin_readString (cs : List Char) : EndsWithin cs Prod.snd (readString cs) := by
  fun_induction readString cs with
  | case1 | case10 | case11 | case15 => exact List.nil_suffix
  | case2 => exact List.suffix_cons _ _
  -- Four digits are missing, where they are looked for.
  | case3 | case5 | case8 | case14 =>
    exact (rest_hexFault_suffix _).trans (by simp [List.suffix_cons_iff])
  | case4 | case7 | case9 | case12 | case17 | case18 =>
    simp [EndsWithin, Fault.behind, Fault.upon, List.suffix_cons_iff]
  -- A character is read, and the string goes on.
  | case6 | case13 | case16 | case19 =>
    exact (EndsWithin.consRead ‹EndsWithin _ _ _› _).of_suffix (by simp [List.suffix_cons_iff])

/-! ## Numbers -/

theorem append_of_splitDigits {digits rest : List Char} (split : splitDigits cs = (digits, rest)) :
    digits ++ rest = cs := by
  cases split
  exact List.takeWhile_append_dropWhile

theorem suffix_of_splitDigits {digits rest : List Char} (split : splitDigits cs = (digits, rest)) :
    rest <:+ cs :=
  ⟨digits, append_of_splitDigits split⟩

theorem endsWithin_scanWhole (atEnd : Cause) (cs : List Char) :
    EndsWithin cs Prod.snd (scanWhole atEnd cs) := by
  fun_cases scanWhole atEnd cs with
  | case1 | case4 => exact List.nil_suffix
  | case2 c cs isDigit => exact List.suffix_cons _ _
  | case3 c cs notDigit => exact List.suffix_cons _ _
  | case5 | case6 => exact suffix_of_splitDigits ‹splitDigits _ = _›

theorem endsWithin_scanFraction (atEnd : Cause) (cs : List Char) :
    EndsWithin cs Prod.snd (scanFraction atEnd cs) := by
  fun_cases scanFraction atEnd cs with
  | case1 => exact List.nil_suffix
  | case2 | case3 =>
    exact (suffix_of_splitDigits ‹splitDigits _ = _›).trans (List.suffix_cons _ _)
  | case4 => exact List.suffix_refl cs

def fromExponent (exponent : Option (Bool × List Char)) (rest : List Char) : List Char :=
  exponent.elim [] Prod.snd ++ rest

theorem endsWithin_scanExponent (atEnd : Cause) (cs : List Char) :
    EndsWithin cs (fun read => fromExponent read.1 read.2) (scanExponent atEnd cs) := by
  fun_cases scanExponent atEnd cs with
  | case1 | case2 => exact List.nil_suffix
  | case3 e cs _ negative behind signed rest _ split =>
    refine (suffix_of_splitDigits split).trans ?_
    split at signed <;> cases signed <;> simp [List.suffix_cons_iff]
  | case4 e cs _ negative behind signed digits rest _ _ split =>
    have together : digits ++ rest <:+ e :: cs := by
      rw [append_of_splitDigits split]
      split at signed <;> cases signed <;> simp [List.suffix_cons_iff]
    exact together
  | case5 => exact List.suffix_refl _

theorem endsWithin_scanNumber (atEnd : Cause) (negative : Bool) (cs : List Char) :
    EndsWithin cs (fun read => fromExponent read.1.exponent read.2)
      (scanNumber atEnd negative cs) := by
  refine (endsWithin_scanWhole atEnd cs).bind fun whole => ?_
  refine (endsWithin_scanFraction atEnd whole.2).bind fun fraction => ?_
  refine (endsWithin_scanExponent atEnd fraction.2).bind fun exponent => ?_
  exact List.suffix_refl _

theorem endsWithin_readNumber (negative : Bool) (cs : List Char) :
    EndsWithin cs Prod.snd (readNumber negative cs) := by
  refine (endsWithin_scanNumber .endInValue negative cs).bind fun read => ?_
  obtain ⟨⟨_, whole, fraction, exponent⟩, rest⟩ := read
  dsimp only
  split
  · exact List.suffix_append _ _
  · -- Of a number that is too large the digits are unread that were not needed to see it.
    cases exponent with
    | none => exact List.suffix_refl _
    | some exponent =>
      obtain ⟨before, split⟩ := List.drop_suffix (exponentDigitsRead 0 exponent.2) exponent.2
      exact ⟨before, (List.append_assoc ..).symm.trans (congrArg (· ++ rest) split)⟩

/-! ## Lists and objects -/

variable {item : List Char → Except Fault (α × List Char)}

theorem endsWithin_nextItem (first : Bool) (cs : List Char) :
    EndsWithin cs (·.getD []) (nextItem first cs) := by
  unfold nextItem
  split
  case h_1 | h_2 => exact List.nil_suffix
  case h_3 rest skipped =>
    split
    · exact suffix_of_skipBlanks skipped
    · have behindComma := tail_suffix_of_skipBlanks skipped
      split
      · exact List.nil_suffix
      · exact (suffix_of_skipBlanks ‹_›).trans behindComma
      · exact (suffix_of_skipBlanks rfl).trans behindComma
  case h_4 => split <;> exact suffix_of_skipBlanks rfl

theorem endsWithin_endList (cs : List Char) : EndsWithin cs id (endList cs) := by
  unfold endList
  split
  case h_1 => exact List.nil_suffix
  case h_2 rest skipped => exact tail_suffix_of_skipBlanks skipped
  case h_3 rest skipped =>
    have behindComma := tail_suffix_of_skipBlanks skipped
    split
    · exact (suffix_of_skipBlanks ‹_›).trans behindComma
    · exact (suffix_of_skipBlanks rfl).trans behindComma
  case h_4 => exact suffix_of_skipBlanks rfl

theorem endsWithin_nextMember (first : Bool) (cs : List Char) :
    EndsWithin cs (·.getD []) (nextMember first cs) := by
  unfold nextMember
  dsimp only
  split
  case h_1 | h_2 => exact List.nil_suffix
  case h_3 rest skipped =>
    split
    · exact suffix_of_skipBlanks skipped
    · -- A name has to follow the comma.
      have behindComma := tail_suffix_of_skipBlanks skipped
      split
      · exact List.nil_suffix
      · exact (tail_suffix_of_skipBlanks ‹_›).trans behindComma
      · exact (suffix_of_skipBlanks ‹_›).trans behindComma
      · exact (suffix_of_skipBlanks rfl).trans behindComma
  case h_4 =>
    split
    · split
      · exact List.nil_suffix
      · exact tail_suffix_of_skipBlanks ‹_›
      · exact suffix_of_skipBlanks ‹_›
      · exact suffix_of_skipBlanks rfl
    · exact suffix_of_skipBlanks rfl

theorem endsWithin_endObject (cs : List Char) : EndsWithin cs id (endObject cs) := by
  unfold endObject
  split
  case h_1 => exact List.nil_suffix
  case h_2 rest skipped => exact tail_suffix_of_skipBlanks skipped
  case h_3 rest skipped => exact suffix_of_skipBlanks skipped
  case h_4 => exact suffix_of_skipBlanks rfl

theorem endsWithin_readColon (cs : List Char) : EndsWithin cs id (readColon cs) := by
  unfold readColon
  split
  case h_1 => exact List.nil_suffix
  case h_2 rest skipped => exact tail_suffix_of_skipBlanks skipped
  case h_3 => exact suffix_of_skipBlanks rfl

theorem endsWithin_items (read : ∀ cs, EndsWithin cs Prod.snd (item cs)) (steps : Nat)
    (first : Bool) (cs : List Char) : EndsWithin cs Prod.snd (items item steps first cs) := by
  induction steps generalizing first cs with
  | zero => exact List.suffix_refl cs
  | succ steps inductionHypothesis =>
    rw [items]
    have next := endsWithin_nextItem first cs
    cases found : nextItem first cs with
    | error fault =>
      rw [found] at next
      exact next
    | ok next? =>
      rw [found] at next
      cases next? with
      | none => exact List.suffix_refl cs
      | some rest =>
        have part : rest <:+ cs := next
        refine EndsWithin.of_suffix ?_ part
        refine (read rest).bind fun value => ?_
        exact (inductionHypothesis false value.2).bind fun more => List.suffix_refl _

theorem endsWithin_members (read : ∀ cs, EndsWithin cs Prod.snd (item cs)) (steps : Nat)
    (first : Bool) (cs : List Char) : EndsWithin cs Prod.snd (members item steps first cs) := by
  induction steps generalizing first cs with
  | zero => exact List.suffix_refl cs
  | succ steps inductionHypothesis =>
    rw [members]
    have next := endsWithin_nextMember first cs
    cases found : nextMember first cs with
    | error fault =>
      rw [found] at next
      exact next
    | ok next? =>
      rw [found] at next
      cases next? with
      | none => exact List.suffix_refl cs
      | some rest =>
        have part : rest <:+ cs := next
        refine EndsWithin.of_suffix ?_ part
        refine (endsWithin_readString rest).bind fun name => ?_
        refine (endsWithin_readColon name.2).bind fun rest => ?_
        refine (read rest).bind fun value => ?_
        exact (inductionHypothesis false value.2).bind fun more => List.suffix_refl _

/-! ## Values -/

theorem endsWithin_valueAt (object : Members → Value) (steps depth : Nat) (cs : List Char) :
    EndsWithin cs Prod.snd (valueAt object steps depth cs) := by
  induction depth using Nat.strongRecOn generalizing cs with
  | ind depth inductionHypothesis =>
    have finish : ∀ (v : Value) (rest : List Char),
        EndsWithin rest Prod.snd (.ok (v, rest) : Except Fault (Value × List Char)) :=
      fun v rest => List.suffix_refl rest
    rw [valueAt]
    split
    case h_1 => exact List.nil_suffix
    case h_2 | h_3 | h_4 =>
      refine EndsWithin.of_suffix ?_ (tail_suffix_of_skipBlanks ‹_›)
      exact (endsWithin_readWord _ _).bind fun rest => finish _ rest
    case h_5 =>
      refine EndsWithin.of_suffix ?_ (tail_suffix_of_skipBlanks ‹_›)
      exact (endsWithin_readNumber true _).bind fun read => finish _ read.2
    case h_6 =>
      refine EndsWithin.of_suffix ?_ (tail_suffix_of_skipBlanks ‹_›)
      exact (endsWithin_readString _).bind fun read => finish _ read.2
    case h_7 =>
      match depth with
      | 0 | 1 => exact suffix_of_skipBlanks ‹_›
      | depth + 2 =>
        refine EndsWithin.of_suffix ?_ (tail_suffix_of_skipBlanks ‹_›)
        have inner := inductionHypothesis (depth + 1) (by omega)
        refine (endsWithin_items inner steps true _).bind fun read => ?_
        exact (endsWithin_endList read.2).bind fun rest => finish _ rest
    case h_8 =>
      match depth with
      | 0 | 1 => exact suffix_of_skipBlanks ‹_›
      | depth + 2 =>
        refine EndsWithin.of_suffix ?_ (tail_suffix_of_skipBlanks ‹_›)
        have inner := inductionHypothesis (depth + 1) (by omega)
        refine (endsWithin_members inner steps true _).bind fun read => ?_
        exact (endsWithin_endObject read.2).bind fun rest => finish _ rest
    case h_9 =>
      split
      · refine EndsWithin.of_suffix ?_ (suffix_of_skipBlanks ‹_›)
        exact (endsWithin_readNumber false _).bind fun read => finish _ read.2
      · exact suffix_of_skipBlanks ‹_›

theorem Value.rest_suffix_of_parse {text : String} {fault : Fault}
    (refused : Value.parse text = .error fault) : fault.rest <:+ text.toList := by
  have within : EndsWithin text.toList (fun _ => []) (Value.parse text) := by
    refine (endsWithin_valueAt .ofMembers _ maxDepth text.toList).bind fun read => ?_
    dsimp only
    split
    · exact List.nil_suffix
    · exact suffix_of_skipBlanks rfl
  rw [refused] at within
  exact within

/-! ## Lines -/

@[simp] theorem Fault.bytes_append (cs ds : List Char) :
    Fault.bytes (cs ++ ds) = Fault.bytes cs ++ Fault.bytes ds :=
  List.flatMap_append

theorem count_newline_utf8EncodeChar (c : Char) :
    (String.utf8EncodeChar c).count 10 = if c = '\n' then 1 else 0 := by
  have isNewline : c = '\n' ↔ c.val.toNat = 10 := by
    rw [← Char.val_inj, ← UInt32.toNat_inj]
    rfl
  have bound : c.val.toNat < 0x110000 := by
    rcases c.valid with low | ⟨-, high⟩ <;> omega
  rw [if_congr isNewline rfl rfl]
  unfold String.utf8EncodeChar
  generalize c.val.toNat = v at bound
  dsimp only
  split_ifs <;> simp [List.count_cons, ← UInt8.toNat_inj] <;> omega

theorem Fault.count_newline_bytes (cs : List Char) :
    (Fault.bytes cs).count 10 = cs.count '\n' := by
  induction cs with
  | nil => rfl
  | cons c cs inductionHypothesis =>
    rw [Fault.bytes, List.flatMap_cons, List.count_append, count_newline_utf8EncodeChar]
    rw [List.count_cons, ← inductionHypothesis, Fault.bytes, Nat.add_comm]
    simp

theorem Fault.line_pos (fault : Fault) (text : List Char) : 1 ≤ fault.line text :=
  Nat.le_add_right 1 _

/-- A fault of a text is on one of its lines. -/
theorem Value.line_le_of_parse {text : String} {fault : Fault}
    (refused : Value.parse text = .error fault) :
    fault.line text.toList ≤ text.toList.count '\n' + 1 := by
  obtain ⟨before, split⟩ := rest_suffix_of_parse refused
  have consumed : text.toList.take (text.toList.length - fault.rest.length) = before := by
    simp [← split]
  calc fault.line text.toList
      = 1 + (Fault.bytes before ++ (Fault.bytes fault.rest).take fault.skip).count 10 := by
        rw [Fault.line, Fault.place, consumed]
    _ ≤ 1 + (Fault.bytes before ++ Fault.bytes fault.rest).count 10 := by
        refine Nat.add_le_add_left (List.Sublist.count_le 10 ?_) 1
        exact (List.take_sublist _ _).append_left _
    _ = text.toList.count '\n' + 1 := by
        rw [← Fault.bytes_append, split, Fault.count_newline_bytes, Nat.add_comm]

end ModuleSurvey.Json
