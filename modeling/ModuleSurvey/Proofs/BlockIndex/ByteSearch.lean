import ModuleSurvey.Proofs.BlockIndex.LaterLookups

/-! # The search at bytes

The look-up of a member as a program over the bytes of a text. It cuts the text at bytes that it
reckons from the lengths of what it has found. A cut within a character, or behind the end, cannot be
made. Only where the scan for a name begins does the program allow for that; everywhere else it stops.

Every cut is where a quoted name begins or ends, or behind the first byte of one. That byte is a quote
and a character of its own, so no cut is within a character, and none behind the end.

* `restAt?`, `Fits` — where a text can be cut.
* `Searching`, `findKey`, `keyLine` — the program, which remembers its cuts.
* `Rounds` — the cuts of one scan, one inductive case for each way that a round ends.
* `findKey_ends`, `safe_keyLine` — the program finds what the search over the characters finds.
* `member_look_ups_are_safe` — no cut fails, and each round and each look-up goes on.
-/

namespace ModuleSurvey

open Json.Fault (bytes bytes_append)

variable {text cs rest : List Char} {name : String} {offset start : Nat}

/-! ## Cutting a text -/

def restAt? : List Char → (offset : Nat) → Option (List Char)
  | cs, 0 => some cs
  -- There is no text behind the end, and none from within a character.
  | [], _ + 1 => none
  | c :: cs, offset + 1 =>
    if c.utf8Size ≤ offset + 1 then restAt? cs (offset + 1 - c.utf8Size) else none

/-- The byte is not behind the end of the text, and not within a character. -/
def Fits (text : List Char) (offset : Nat) : Prop :=
  offset ≤ (bytes text).length ∧ ∃ before rest, text = before ++ rest ∧ (bytes before).length = offset

theorem length_bytes_cons (c : Char) (cs : List Char) :
    (bytes (c :: cs)).length = c.utf8Size + (bytes cs).length := by
  simp [Json.Fault.bytes]

theorem restAt?_append (before rest : List Char) :
    restAt? (before ++ rest) (bytes before).length = some rest := by
  induction before with
  | nil => cases rest <;> rfl
  | cons c before inductionHypothesis =>
    have positive := c.utf8Size_pos
    obtain ⟨n, size⟩ := Nat.exists_eq_add_of_lt (Nat.add_pos_left positive (bytes before).length)
    rw [length_bytes_cons, size, List.cons_append, Nat.zero_add, restAt?, if_pos (by omega)]
    rw [show n + 1 - c.utf8Size = (bytes before).length by omega]
    exact inductionHypothesis

theorem exists_of_restAt? (isRest : restAt? text offset = some rest) :
    ∃ before, text = before ++ rest ∧ (bytes before).length = offset := by
  fun_induction restAt? text offset with
  | case1 cs =>
    cases isRest
    exact ⟨[], rfl, rfl⟩
  | case3 c cs offset within inductionHypothesis =>
    obtain ⟨before, rfl, length⟩ := inductionHypothesis isRest
    refine ⟨c :: before, rfl, ?_⟩
    rw [length_bytes_cons]
    omega
  | case2 | case4 => cases isRest

theorem restAt?_offsetOf (within : rest <:+ text) :
    restAt? text (offsetOf text rest) = some rest := by
  obtain ⟨before, rfl⟩ := within
  rw [offsetOf_append]
  exact restAt?_append before rest

theorem fits_offsetOf (within : rest <:+ text) : Fits text (offsetOf text rest) := by
  refine ⟨Nat.sub_le _ _, ?_⟩
  obtain ⟨before, rfl⟩ := within
  exact ⟨before, rest, rfl, (offsetOf_append before rest).symm⟩

/-! ## Finding a part of a text -/

/-- The number of bytes in front of a part of a text, where it begins first. -/
def bytesBefore? (part : List Char) : List Char → Option Nat
  | [] => if part.isEmpty then some 0 else none
  | c :: cs =>
    if (Text.dropStart? part (c :: cs)).isSome then some 0
    else (bytesBefore? part cs).map (c.utf8Size + ·)

variable {part : List Char} {passed : Nat}

theorem exists_of_bytesBefore? (found : bytesBefore? part cs = some passed) :
    ∃ before behind, cs = before ++ (part ++ behind) ∧ (bytes before).length = passed ∧
      seekQuoted part 0 cs = seekQuoted part 0 (part ++ behind) := by
  induction cs generalizing passed with
  | nil =>
    cases part with
    | nil =>
      cases found
      exact ⟨[], [], rfl, rfl, rfl⟩
    | cons => cases found
  | cons c cs inductionHypothesis =>
    rw [bytesBefore?] at found
    split at found
    case isTrue starts =>
      obtain ⟨behind, start⟩ := Option.isSome_iff_exists.1 starts
      cases found
      have split := Text.dropStart?_eq_some_iff.1 start
      exact ⟨[], behind, split, rfl, congrArg _ split⟩
    case isFalse notHere =>
      obtain ⟨later, isLater, rfl⟩ := Option.map_eq_some_iff.1 found
      obtain ⟨before, behind, rfl, length, seeks⟩ := inductionHypothesis isLater
      refine ⟨c :: before, behind, rfl, by rw [length_bytes_cons, length], ?_⟩
      -- The search over the characters passes over this one, too.
      rw [← seeks, seekQuoted, Option.not_isSome_iff_eq_none.1 notHere]

theorem seekQuoted_of_bytesBefore?_eq_none (absent : bytesBefore? part cs = none) :
    seekQuoted part 0 cs = none := by
  induction cs with
  | nil => rfl
  | cons c cs inductionHypothesis =>
    rw [bytesBefore?] at absent
    split at absent
    case isTrue => cases absent
    case isFalse notHere =>
      rw [seekQuoted, Option.not_isSome_iff_eq_none.1 notHere]
      exact inductionHypothesis (Option.map_eq_none_iff.1 absent)

theorem seekQuoted_skip (quoted : List Char) (skip : Nat) (cs : List Char) :
    seekQuoted quoted skip cs = seekQuoted quoted 0 (cs.drop skip) := by
  induction skip generalizing cs with
  | zero => rfl
  | succ skip inductionHypothesis =>
    cases cs with
    | nil => rfl
    | cons c cs =>
      rw [seekQuoted, List.drop_succ_cons]
      exact inductionHypothesis cs

theorem seekKey_quotedKey_append (name : String) (behind : List Char) :
    seekKey name (quotedKey name ++ behind) =
      if colonFollows behind then some (quotedKey name ++ behind) else seekKey name behind := by
  have starts : Text.dropStart? (quotedKey name) (quotedKey name ++ behind) = some behind :=
    Text.dropStart?_eq_some_iff.2 rfl
  have passed : (name.toList ++ ['"'] ++ behind).drop ((quotedKey name).length - 1) = behind := by
    simp [quotedKey]
  have opened : quotedKey name ++ behind = '"' :: (name.toList ++ ['"'] ++ behind) := rfl
  rw [seekKey, seekKey, opened, seekQuoted, ← opened, starts]
  dsimp only
  rw [seekQuoted_skip, passed]

/-! ## The program -/

inductive CutKind where
  /-- The text from the byte on, or nothing if it cannot be cut there. -/
  | rest?
  | rest
  | front
  deriving DecidableEq

structure Cut where
  kind : CutKind
  offset : Nat

/-- A program over a text. It remembers its cuts, the last one last, and stops at a cut that cannot be
made. -/
abbrev Searching := EStateM Cut (List Cut)

def rememberCut (cut : Cut) : Searching Unit := modify fun cuts => cuts ++ [cut]

def restAt (text : List Char) (offset : Nat) : Searching (List Char) := do
  rememberCut ⟨.rest, offset⟩
  match restAt? text offset with
  | some rest => return rest
  | none => throw ⟨.rest, offset⟩

/-- The line of a byte, by the line feeds among the bytes in front of it. -/
def lineOf (text : List Char) (offset : Nat) : Searching Nat := do
  rememberCut ⟨.front, offset⟩
  if offset ≤ (bytes text).length then return ((bytes text).take offset).count 10 + 1
  else throw ⟨.front, offset⟩

theorem length_behind_lt (isRest : restAt? text start = some rest)
    (found : bytesBefore? (quotedKey name) rest = some passed) :
    (bytes text).length - (start + passed + (bytes (quotedKey name)).length) <
      (bytes text).length - start := by
  obtain ⟨before, rfl, rfl⟩ := exists_of_restAt? isRest
  obtain ⟨front, behind, rfl, -, -⟩ := exists_of_bytesBefore? found
  have positive := length_quotedKey_pos name
  simp only [bytes_append, List.length_append]
  omega

def findKey (text : List Char) (name : String) (start : Nat) : Searching (Option Nat) := do
  rememberCut ⟨.rest?, start⟩
  match _ : restAt? text start with
  | none => return none
  | some rest =>
    match _ : bytesBefore? (quotedKey name) rest with
    | none => return none
    | some passed =>
      let found := start + passed
      let stop := found + (bytes (quotedKey name)).length
      let behind ← restAt text stop
      if colonFollows behind then return some found
      else findKey text name stop
termination_by (bytes text).length - start
decreasing_by exact length_behind_lt ‹_› ‹_›

def findPath (text : List Char) : (names : List String) → (start : Nat) → Searching (Option Nat)
  | [], start => return some start
  | name :: names, start => do
    match ← findKey text name start with
    | some found => findPath text names found
    | none => return none

/-- Goes on from a byte to the next occurrence of a name, `more` times or until there is none. -/
def findLater (text : List Char) (name : String) : (more : Nat) → (found : Nat) → Searching Nat
  | 0, found => return found
  | more + 1, found => do
    match ← findKey text name (found + 1) with
    | some later => findLater text name more later
    | none => return found

def keyLine (text : List Char) (word : String) (labels : List String) (seen : Nat) :
    Searching (Option Nat) := do
  let path := word :: labels
  let name := path.getLastD word
  match ← findPath text path.dropLast 0 with
  | none => return none
  | some start =>
    match ← findKey text name start with
    | none => return none
    | some first =>
      let found ← findLater text name seen first
      return some (← lineOf text found)

/-! ## Runs -/

/-- The program ends with a value, after these cuts. -/
def Ends {α : Type} (program : Searching α) (cuts : List Cut) (a : α) : Prop :=
  ∀ before, program before = .ok a (before ++ cuts)

section

variable {α β : Type} {a : α} {b : β} {program : Searching α} {next : α → Searching β}
  {cuts more : List Cut}

theorem ends_pure (a : α) : Ends (pure a) [] a := fun before => by rw [List.append_nil]; rfl

theorem ends_rememberCut (cut : Cut) : Ends (rememberCut cut) [cut] () := fun _ => rfl

theorem Ends.bind (first : Ends program cuts a) (later : Ends (next a) more b) :
    Ends (program >>= next) (cuts ++ more) b := by
  intro before
  have ended := later (before ++ cuts)
  rw [List.append_assoc] at ended
  rw [← ended]
  simp only [Bind.bind, EStateM.bind, first before]

theorem Ends.ite_pos {c : Prop} [Decidable c] {other : Searching α} (holds : c)
    (ends : Ends program cuts a) : Ends (if c then program else other) cuts a := by
  rwa [if_pos holds]

theorem Ends.ite_neg {c : Prop} [Decidable c] {other : Searching α} (fails : ¬ c)
    (ends : Ends program cuts a) : Ends (if c then other else program) cuts a := by
  rwa [if_neg fails]

theorem ends_restAt (within : rest <:+ text) :
    Ends (restAt text (offsetOf text rest)) [⟨.rest, offsetOf text rest⟩] rest := by
  refine (ends_rememberCut _).bind ?_
  rw [restAt?_offsetOf within]
  exact ends_pure rest

theorem ends_lineOf (within : rest <:+ text) :
    Ends (lineOf text (offsetOf text rest)) [⟨.front, offsetOf text rest⟩]
      (lineAt text (offsetOf text rest)) := by
  refine (ends_rememberCut _).bind ?_
  rw [if_pos (fits_offsetOf within).1]
  exact ends_pure _

end

/-! ## One scan -/

/-- The cuts of one scan. Each round of it begins behind the one before. -/
inductive Rounds (text : List Char) : (start : Nat) → List Cut → Prop
  | stopped {start : Nat} : Rounds text start [⟨.rest?, start⟩]
  | found {start stop : Nat} (behind : start < stop) (fits : Fits text stop) :
      Rounds text start [⟨.rest?, start⟩, ⟨.rest, stop⟩]
  | goesOn {start stop : Nat} {cuts : List Cut} (behind : start < stop) (fits : Fits text stop)
      (later : Rounds text stop cuts) :
      Rounds text start (⟨.rest?, start⟩ :: ⟨.rest, stop⟩ :: cuts)

def roundStarts (cuts : List Cut) : List Nat := (cuts.filter (·.kind = .rest?)).map (·.offset)

theorem roundStarts_cons (start stop : Nat) (cuts : List Cut) :
    roundStarts (⟨.rest?, start⟩ :: ⟨.rest, stop⟩ :: cuts) = start :: roundStarts cuts := rfl

section

variable {cuts : List Cut}

theorem Rounds.eq_or_fits (rounds : Rounds text start cuts) :
    ∀ cut ∈ cuts, cut = ⟨.rest?, start⟩ ∨ Fits text cut.offset := by
  induction rounds with
  | stopped => simp
  | found _ fits => simp [fits]
  | goesOn _ fits _ inductionHypothesis =>
    simp only [List.forall_mem_cons, true_or, true_and]
    refine ⟨.inr fits, fun cut member => .inr ?_⟩
    -- The next round begins where the text has just been cut.
    rcases inductionHypothesis cut member with rfl | fitsThere
    · exact fits
    · exact fitsThere

theorem Rounds.fits (rounds : Rounds text start cuts) (fitsStart : Fits text start) :
    ∀ cut ∈ cuts, Fits text cut.offset := by
  intro cut member
  rcases rounds.eq_or_fits cut member with rfl | fits
  · exact fitsStart
  · exact fits

theorem Rounds.le_of_mem_roundStarts (rounds : Rounds text start cuts) :
    ∀ offset ∈ roundStarts cuts, start ≤ offset := by
  induction rounds with
  | stopped | found => simp [roundStarts]
  | goesOn behind _ _ inductionHypothesis =>
    rw [roundStarts_cons, List.forall_mem_cons]
    refine ⟨Nat.le_refl _, fun offset member => ?_⟩
    exact Nat.le_trans (Nat.le_of_lt behind) (inductionHypothesis offset member)

theorem Rounds.pairwise_roundStarts (rounds : Rounds text start cuts) :
    (roundStarts cuts).Pairwise (· < ·) := by
  induction rounds with
  | stopped | found => simp [roundStarts]
  | goesOn behind _ later inductionHypothesis =>
    rw [roundStarts_cons]
    refine .cons (fun offset member => ?_) inductionHypothesis
    exact Nat.lt_of_lt_of_le behind (later.le_of_mem_roundStarts offset member)

end

theorem findKey_eq (text : List Char) (name : String) (start : Nat) :
    findKey text name start = (do
      rememberCut ⟨.rest?, start⟩
      match restAt? text start with
      | none => return none
      | some rest =>
        match bytesBefore? (quotedKey name) rest with
        | none => return none
        | some passed =>
          let behind ← restAt text (start + passed + (bytes (quotedKey name)).length)
          if colonFollows behind then return some (start + passed)
          else findKey text name (start + passed + (bytes (quotedKey name)).length)) := by
  rw [findKey]
  refine bind_congr fun _ => ?_
  split
  next noRest => rw [noRest]
  next rest isRest =>
    rw [isRest]
    dsimp only
    split
    next absent => rw [absent]
    next passed found => rw [found]

/-- From the beginning of a character on, the scan finds what the search over the characters finds. -/
theorem findKey_ends (name : String) (within : cs <:+ text) :
    ∃ cuts, Ends (findKey text name (offsetOf text cs)) cuts ((seekKey name cs).map (offsetOf text)) ∧
      Rounds text (offsetOf text cs) cuts := by
  -- Each round leaves less of the text, as it goes on behind a quoted name.
  induction measured : cs.length using Nat.strong_induction_on generalizing cs with
  | _ n inductionHypothesis =>
    rw [findKey_eq, restAt?_offsetOf within]
    dsimp only
    cases found : bytesBefore? (quotedKey name) cs with
    | none =>
      rw [seekKey, seekQuoted_of_bytesBefore?_eq_none found]
      exact ⟨_, (ends_rememberCut _).bind (ends_pure none), .stopped⟩
    | some passed =>
      obtain ⟨before, behind, rfl, rfl, seeks⟩ := exists_of_bytesBefore? found
      have withinFound : quotedKey name ++ behind <:+ text := (List.suffix_append _ _).trans within
      have withinBehind : behind <:+ text := (List.suffix_append _ _).trans withinFound
      have first := offsetOf_add before _ within
      have second := offsetOf_add _ behind withinFound
      have further : offsetOf text (before ++ (quotedKey name ++ behind)) < offsetOf text behind := by
        have positive := length_quotedKey_pos name
        omega
      have shorter : behind.length < n := by
        rw [← measured]
        simp only [quotedKey, List.length_append, List.length_cons]
        omega
      -- The bytes that the program reckons are those of the two ends of the quoted name.
      dsimp only
      rw [first, second, seekKey, seeks, ← seekKey, seekKey_quotedKey_append]
      by_cases colon : colonFollows behind = true
      · rw [if_pos colon]
        refine ⟨_, (ends_rememberCut _).bind ((ends_restAt withinBehind).bind
          (.ite_pos colon (ends_pure _))), ?_⟩
        exact .found further (fits_offsetOf withinBehind)
      · obtain ⟨cuts, ends, rounds⟩ := inductionHypothesis _ shorter withinBehind rfl
        rw [if_neg colon]
        refine ⟨_, (ends_rememberCut _).bind ((ends_restAt withinBehind).bind
          (.ite_neg colon ends)), ?_⟩
        exact .goesOn further (fits_offsetOf withinBehind) rounds

/-- From any other byte on, it finds nothing, after the one cut that it allows for. -/
theorem findKey_ends_of_none (name : String) (noRest : restAt? text start = none) :
    Ends (findKey text name start) [⟨.rest?, start⟩] none := by
  rw [findKey_eq, noRest]
  exact (ends_rememberCut _).bind (ends_pure none)

/-! ## The look-up -/

/-- The program ends with a value, and it cuts the text only where this can be done. -/
def Safe {α : Type} (text : List Char) (program : Searching α) (a : α) : Prop :=
  ∃ cuts, Ends program cuts a ∧ ∀ cut ∈ cuts, Fits text cut.offset

section

variable {α β : Type} {a : α} {b : β} {program : Searching α} {next : α → Searching β}

theorem safe_pure (text : List Char) (a : α) : Safe text (pure a) a := ⟨[], ends_pure a, nofun⟩

theorem Safe.bind (first : Safe text program a) (later : Safe text (next a) b) :
    Safe text (program >>= next) b := by
  obtain ⟨cuts, ends, fits⟩ := first
  obtain ⟨more, endsLater, fitsLater⟩ := later
  exact ⟨_, ends.bind endsLater, List.forall_mem_append.2 ⟨fits, fitsLater⟩⟩

end

theorem safe_findKey (name : String) (within : cs <:+ text) :
    Safe text (findKey text name (offsetOf text cs)) ((seekKey name cs).map (offsetOf text)) := by
  obtain ⟨cuts, ends, rounds⟩ := findKey_ends name within
  exact ⟨cuts, ends, rounds.fits (fits_offsetOf within)⟩

theorem safe_findPath (names : List String) (within : cs <:+ text) :
    Safe text (findPath text names (offsetOf text cs)) ((seekPath names cs).map (offsetOf text)) := by
  induction names generalizing cs with
  | nil => exact safe_pure text _
  | cons name names inductionHypothesis =>
    have key := safe_findKey name within
    rw [findPath, seekPath]
    refine key.bind ?_
    cases found : seekKey name cs with
    | none => exact safe_pure text none
    | some here => exact inductionHypothesis ((seekKey_suffix found).trans within)

theorem safe_findLater (more : Nat) (within : cs <:+ text) (begins : beginsMember name cs = true) :
    Safe text (findLater text name more (offsetOf text cs))
      (offsetOf text (seekLater name more cs)) := by
  induction more generalizing cs with
  | zero => exact safe_pure text _
  | succ more inductionHypothesis =>
    obtain ⟨behind, rfl⟩ := exists_cons_of_beginsQuoted (beginsQuoted_of_beginsMember begins)
    have withinBehind : behind <:+ text := (List.suffix_cons _ _).trans within
    -- The scan goes on one byte behind the quote, and there the next character begins.
    have next : offsetOf text ('"' :: behind) + 1 = offsetOf text behind := offsetOf_add ['"'] _ within
    have key := safe_findKey name withinBehind
    rw [findLater, seekLater, next, List.tail_cons]
    refine key.bind ?_
    cases found : seekKey name behind with
    | none => exact safe_pure text _
    | some later =>
      obtain ⟨part, beginsLater⟩ := mem_members_iff.1 (mem_members_of_seekQuoted found)
      exact inductionHypothesis (part.trans withinBehind) beginsLater

theorem safe_lineOf (within : rest <:+ text) :
    Safe text (lineOf text (offsetOf text rest)) (lineAt text (offsetOf text rest)) :=
  ⟨_, ends_lineOf within, List.forall_mem_singleton.2 (fits_offsetOf within)⟩

/-- The look-up of a member gives the line that the one over the characters gives. -/
theorem safe_keyLine (x : BlockIndex) (word : String) (labels : List String) (seen : Nat) :
    Safe x.text (keyLine x.text word labels seen) (x.jsonLine? word labels seen) := by
  have whole : offsetOf x.text x.text = 0 := Nat.sub_self _
  have path := safe_findPath (word :: labels).dropLast (List.suffix_refl x.text)
  rw [whole] at path
  rw [keyLine, jsonLine?_eq, seekBlock, List.getLastD_cons]
  refine path.bind ?_
  cases isStart : seekPath (word :: labels).dropLast x.text with
  | none => exact safe_pure x.text none
  | some start =>
    have withinStart : start <:+ x.text := seekPath_suffix isStart
    rw [Option.bind_some]
    refine (safe_findKey (labels.getLastD word) withinStart).bind ?_
    cases isFirst : seekKey (labels.getLastD word) start with
    | none => exact safe_pure x.text none
    | some first =>
      obtain ⟨part, begins⟩ := mem_members_iff.1 (mem_members_of_seekQuoted isFirst)
      have withinFirst := part.trans withinStart
      have withinLater := (seekLater_suffix (labels.getLastD word) seen first).trans withinFirst
      exact (safe_findLater seen withinFirst begins).bind
        ((safe_lineOf withinLater).bind (safe_pure x.text _))

/-! ## The law -/

theorem beginsMember_seekLater (more : Nat) (begins : beginsMember name cs = true) :
    beginsMember name (seekLater name more cs) = true := by
  induction more with
  | zero => exact begins
  | succ more inductionHypothesis =>
    rw [seekLater_succ_eq]
    cases found : seekKey name (seekLater name more cs).tail with
    | none => exact inductionHypothesis
    | some later => exact (mem_members_iff.1 (mem_members_of_seekQuoted found)).2

/-- Whatever stands in a file, a look-up in it ends. The scan for a name, from any byte on, finds what
the search over the characters from there on finds. It begins each round behind the one before, and
cuts the text only where this can be done; where it is to begin at a byte at which it cannot, it gives
nothing. In the look-up of a member no cut is like that. The loop over the occurrences of a name goes
from one to another that is not before it, however often it is gone through, and the lines of one block
do not go back from a look-up to a later one, whatever is looked up between. -/
theorem member_look_ups_are_safe (filename text : String) :
    let index := BlockIndex.scan filename .json text
    (∀ name start, ∃ cuts,
      Ends (findKey index.text name start) cuts
        ((restAt? index.text start).bind fun cs => (seekKey name cs).map (offsetOf index.text)) ∧
      (∀ cut ∈ cuts, cut = ⟨.rest?, start⟩ ∨ Fits index.text cut.offset) ∧
      (roundStarts cuts).Pairwise (· < ·)) ∧
    (∀ word labels seen,
      Safe index.text (keyLine index.text word labels seen) (index.jsonLine? word labels seen)) ∧
    (∀ name, ∀ first ∈ occurrences name index.text, ∃ found : Nat → Nat, ∀ more,
      Safe index.text (findLater index.text name more first) (found more) ∧
      found more ∈ occurrences name index.text ∧ found more ≤ found (more + 1)) ∧
    ∀ (format : FileFormat) (earlier later : List Header) (query : Header),
      let line headers := (((BlockIndex.scan filename format text).after headers).locate query.word
        query.labels).1.line
      line earlier ≤ line (earlier ++ later) := by
  intro index
  refine ⟨fun name start => ?_, safe_keyLine index, fun name first isFirst => ?_, ?_⟩
  · -- Only the first cut can fail, and then there is no other.
    cases isRest : restAt? index.text start with
    | none =>
      have rounds : Rounds index.text start [⟨.rest?, start⟩] := .stopped
      exact ⟨_, findKey_ends_of_none name isRest, rounds.eq_or_fits, rounds.pairwise_roundStarts⟩
    | some cs =>
      obtain ⟨before, split, rfl⟩ := exists_of_restAt? isRest
      obtain ⟨cuts, ends, rounds⟩ := findKey_ends name ⟨before, split.symm⟩
      rw [split, offsetOf_append, ← split] at ends rounds
      exact ⟨cuts, ends, rounds.eq_or_fits, rounds.pairwise_roundStarts⟩
  · obtain ⟨rest, isMember, rfl⟩ := List.mem_map.1 isFirst
    obtain ⟨within, begins⟩ := mem_members_iff.1 isMember
    refine ⟨fun more => offsetOf index.text (seekLater name more rest), fun more => ⟨?_, ?_, ?_⟩⟩
    · exact safe_findLater more within begins
    · have withinLater := (seekLater_suffix name more rest).trans within
      exact (mem_occurrences_iff withinLater).2 (beginsMember_seekLater more begins)
    · exact offsetOf_le (seekLater_suffix_of_le name rest (Nat.le_succ more))
  · exact BlockIndex.line_locate_le filename text

/-- A file with a name of two bytes, which is a value, too, and with an empty name. -/
def accentedMembers : String :=
  "\x7b\"é\": \x7b\n\"é\": 1\x7d,\n\"\": \"é\", \"é\": 2\x7d"

theorem accentedMembers_located :
    let index := BlockIndex.scan "main.tf.json" .json accentedMembers
    let query : Header := ⟨"é", ["é"]⟩
    let line earlier := ((index.after earlier).locate query.word query.labels).1.line
    Safe index.text (keyLine index.text "é" ["é"] 2) (some 3) ∧
    Safe index.text (keyLine index.text "é" [""] 0) (some 3) ∧
    (∃ cuts, Ends (findKey index.text "é" 3) cuts none) ∧
    line [] = 1 ∧ line [query] = 2 ∧ line [query] ≤ line [query, ⟨"é", [""]⟩, query] := by
  intro index query line
  obtain ⟨scans, safe, -, lines⟩ := member_look_ups_are_safe "main.tf.json" accentedMembers
  have third : index.jsonLine? "é" ["é"] 2 = some 3 := by decide +kernel
  have empty : index.jsonLine? "é" [""] 0 = some 3 := by decide +kernel
  have inside : restAt? index.text 3 = none := by decide +kernel
  refine ⟨third ▸ safe "é" ["é"] 2, empty ▸ safe "é" [""] 0, ?_, by decide +kernel,
    by decide +kernel, lines .json [query] [⟨"é", [""]⟩, query] query⟩
  obtain ⟨cuts, ends, -⟩ := scans "é" 3
  rw [inside] at ends
  exact ⟨cuts, ends⟩

end ModuleSurvey
