import ModuleSurvey.Proofs.Json.Canonical
import Mathlib.Data.List.DropRight

/-! # What readers give

Whatever a text is like, what a reader makes of it has some properties for sure: a value has its
members in order and is not nested deeper than the reader goes, a whole number has 64 bits. What a
reader of a list, a map or a record gives is known from the readers of its parts.

* `Yields`, `Gives` — a property of all that a reading function or a reader can give.
* `Number.IsRead`, `Number.isWhole` — what is known of the numbers that are read.
* `yields_items`, `yields_members`, `gives_listOf`, `gives_mapOf` — lists and maps.
* `Value.IsRead`, `gives_value` — any value, by induction on the depth that is left.
* `Field.Keeps`, `gives_record` — records, whose fields each keep a property of the record.
-/

namespace ModuleSurvey.Json

variable {α β σ : Type}

/-! ## Postconditions -/

/-- A property of everything that a reading function can give. -/
def Yields (read : Except Fault α) (P : α → Prop) : Prop := ∀ a, read = .ok a → P a

variable {read : Except Fault α} {P Q : α → Prop}

theorem yields_ok {a : α} (holds : P a) : Yields (.ok a) P := by
  rintro _ ⟨⟩
  exact holds

theorem yields_error (fault : Fault) : Yields (.error fault) P := nofun

theorem yields_true (read : Except Fault α) : Yields read fun _ => True := fun _ _ => trivial

theorem Yields.bind {R : β → Prop} {next : α → Except Fault β} (yields : Yields read P)
    (goesOn : ∀ a, P a → Yields (next a) R) : Yields (read >>= next) R := by
  cases read with
  | ok a => exact goesOn a (yields a rfl)
  | error fault => exact yields_error fault

/-! ## Numbers -/

def Number.IsRead (n : Number) : Prop := ∀ k, n = .int k → isExact k = true

theorem absorb_lt (digits : List Char) {n : Nat} (small : n < Nat.pow 2 64) :
    (absorb n digits).1 < Nat.pow 2 64 := by
  induction digits generalizing n with
  | nil => exact small
  | cons d ds inductionHypothesis =>
    simp only [absorb]
    split
    · exact small
    · exact inductionHypothesis (by omega)

theorem isRead_of_value? {p : NumberParts} {n : Number} (value : p.value? = some n) : n.IsRead := by
  rintro k rfl
  have small : (absorb 0 p.whole).1 < Nat.pow 2 64 := absorb_lt p.whole (by decide)
  simp only [isExact, Bool.and_eq_true, decide_eq_true_eq]
  simp only [NumberParts.value?] at value
  split at value
  · split at value
    · cases value
      omega
    · split at value
      · cases value
        omega
      · simp at value
  · simp at value

def Number.isWhole : Number → Bool
  | .int _ => true
  -- A zero behind a sign was written as a whole number, and is read as a double.
  | .double d => .double d = minusZero

theorem Number.IsRead.isKept {n : Number} (isRead : n.IsRead) (whole : n.isWhole = true) :
    n.isKept = true := by
  cases n with
  | int k => exact isRead k rfl
  | double d => exact whole

theorem yields_readNumber (negative : Bool) (cs : List Char) :
    Yields (readNumber negative cs) (·.1.IsRead) := by
  refine (yields_true _).bind fun scanned _ => ?_
  dsimp only
  split
  case h_1 n value => exact yields_ok (isRead_of_value? value)
  case h_2 => exact yields_error _

/-! ## Lists and objects -/

theorem yields_enter (b : Bounds) (rest : List Char) :
    Yields (enter b rest) (·.depth = b.depth - 1) := by
  unfold enter
  split
  case h_1 d depth =>
    rw [depth]
    exact yields_ok rfl
  case h_2 => exact yields_error _

theorem yields_unexpected (wanted : String) (cs : List Char) {P : α × List Char → Prop} :
    Yields (unexpected wanted cs) P := by
  unfold unexpected
  dsimp only
  split
  case h_1 | h_2 | h_3 | h_4 | h_5 =>
    exact (yields_true _).bind fun _ _ => yields_error _
  case h_6 | h_7 | h_8 => exact yields_error _
  case h_9 =>
    split
    · exact (yields_true _).bind fun _ _ => yields_error _
    · exact yields_error _

variable {item : List Char → Except Fault (α × List Char)}

theorem yields_items (each : ∀ cs, Yields (item cs) fun read => P read.1) (steps : Nat)
    (first : Bool) (cs : List Char) :
    Yields (items item steps first cs) fun read => ∀ a ∈ read.1, P a := by
  induction steps generalizing first cs with
  | zero => exact yields_error _
  | succ steps inductionHypothesis =>
    rw [items]
    refine (yields_true _).bind fun next _ => ?_
    cases next with
    | none => exact yields_ok (by simp)
    | some rest =>
      refine (each rest).bind fun value holds => ?_
      refine (inductionHypothesis false value.2).bind fun more allHold => ?_
      exact yields_ok (List.forall_mem_cons.2 ⟨holds, allHold⟩)

theorem yields_members (each : ∀ cs, Yields (item cs) fun read => P read.1) (steps : Nat)
    (first : Bool) (cs : List Char) :
    Yields (members item steps first cs) fun read => ∀ e ∈ read.1, P e.2 := by
  induction steps generalizing first cs with
  | zero => exact yields_error _
  | succ steps inductionHypothesis =>
    rw [members]
    refine (yields_true _).bind fun next _ => ?_
    cases next with
    | none => exact yields_ok (by simp)
    | some rest =>
      refine (yields_true _).bind fun name _ => ?_
      refine (yields_true _).bind fun rest _ => ?_
      refine (each rest).bind fun value holds => ?_
      refine (inductionHypothesis false value.2).bind fun more allHold => ?_
      exact yields_ok (List.forall_mem_cons.2 ⟨holds, allHold⟩)

/-! ## Any value -/

/-- What a value is like that is read where this number of brackets may be opened, minus one. -/
structure Value.IsRead (depth : Nat) (v : Value) : Prop where
  sorted : v.Sorted
  numbers : ∀ n ∈ v.numbers, n.IsRead
  depth : v.depth ≤ depth - 1

theorem Value.isRead_array {depth : Nat} {vs : List Value}
    (items : ∀ v ∈ vs, v.IsRead (depth + 1)) : (Value.array vs).IsRead (depth + 2) where
  sorted := .array fun v member => (items v member).sorted
  numbers n member := by
    obtain ⟨v, isItem, isNumber⟩ := mem_numbers_array.1 member
    exact (items v isItem).numbers n isNumber
  depth := by
    have bounded := depthItems_le fun v member => (items v member).depth
    exact Nat.succ_le_succ bounded

theorem Value.isRead_ofMembers {depth : Nat} {ms : Members}
    (members : ∀ e ∈ ms, e.2.IsRead (depth + 1)) : (Value.ofMembers ms).IsRead (depth + 2) := by
  have kept : ∀ e ∈ (SortedMap.ofList ms).entries, e.2.IsRead (depth + 1) :=
    fun e member => members e (SortedMap.mem_of_mem_ofList member)
  exact {
    sorted := .object (SortedMap.ofList ms).sorted fun e member => (kept e member).sorted
    numbers := by
      intro n member
      obtain ⟨e, isMember, isNumber⟩ := mem_numbers_object.1 member
      exact (kept e isMember).numbers n isNumber
    depth := by
      have bounded := depthMembers_le fun e member => (kept e member).depth
      exact Nat.succ_le_succ bounded }

theorem yields_valueAt (steps depth : Nat) (cs : List Char) :
    Yields (valueAt .ofMembers steps depth cs) fun read => read.1.IsRead depth := by
  induction depth using Nat.strongRecOn generalizing cs with
  | ind depth inductionHypothesis =>
    have number : ∀ n : Number, n.IsRead → (Value.number n).IsRead depth := fun n isRead =>
      ⟨.number n, by simpa [Value.numbers] using isRead, Nat.zero_le _⟩
    rw [valueAt]
    split
    case h_1 => exact yields_error _
    case h_2 =>
      exact (yields_true _).bind fun rest _ =>
        yields_ok ⟨.null, by simp [Value.numbers], Nat.zero_le _⟩
    case h_3 | h_4 =>
      exact (yields_true _).bind fun rest _ =>
        yields_ok ⟨.bool _, by simp [Value.numbers], Nat.zero_le _⟩
    case h_5 =>
      exact (yields_readNumber true _).bind fun read isRead => yields_ok (number read.1 isRead)
    case h_6 =>
      exact (yields_true _).bind fun read _ =>
        yields_ok ⟨.string _, by simp [Value.numbers], Nat.zero_le _⟩
    case h_7 =>
      split
      case h_1 depth =>
        have inner := inductionHypothesis (depth + 1) (by omega)
        refine (yields_items inner steps true _).bind fun read items => ?_
        exact (yields_true _).bind fun rest _ => yields_ok (Value.isRead_array items)
      case h_2 => exact yields_error _
    case h_8 =>
      split
      case h_1 depth =>
        have inner := inductionHypothesis (depth + 1) (by omega)
        refine (yields_members inner steps true _).bind fun read members => ?_
        exact (yields_true _).bind fun rest _ => yields_ok (Value.isRead_ofMembers members)
      case h_2 => exact yields_error _
    case h_9 =>
      split
      · exact (yields_readNumber false _).bind fun read isRead => yields_ok (number read.1 isRead)
      · exact yields_error _

theorem yields_valueAt_ne_null (object : Members → Value) (isObject : ∀ ms, object ms ≠ .null)
    (steps depth : Nat) {cs : List Char} (notNull : ∀ rest, skipBlanks cs ≠ 'n' :: rest) :
    Yields (valueAt object steps depth cs) fun read => read.1 ≠ .null := by
  rw [valueAt]
  split
  case h_1 => exact yields_error _
  case h_2 rest skipped => exact absurd skipped (notNull rest)
  case h_3 | h_4 => exact (yields_true _).bind fun rest _ => yields_ok Value.noConfusion
  case h_5 | h_6 => exact (yields_true _).bind fun read _ => yields_ok Value.noConfusion
  case h_7 =>
    split
    · exact (yields_true _).bind fun read _ =>
        (yields_true _).bind fun rest _ => yields_ok Value.noConfusion
    · exact yields_error _
  case h_8 =>
    split
    · exact (yields_true _).bind fun read _ =>
        (yields_true _).bind fun rest _ => yields_ok (isObject read.1)
    · exact yields_error _
  case h_9 =>
    split
    · exact (yields_true _).bind fun read _ => yields_ok Value.noConfusion
    · exact yields_error _

/-! ## Readers -/

/-- A property of everything that a reader can give, which may depend on the depth at which it
reads. -/
def Gives (reader : Reader α) (P : Nat → α → Prop) : Prop :=
  ∀ b cs, Yields (reader b cs) fun read => P b.depth read.1

section

variable {reader : Reader α} {P : Nat → α → Prop}

theorem gives_true (reader : Reader α) : Gives reader fun _ _ => True :=
  fun _ _ => yields_true _

theorem Gives.map {Q : Nat → β → Prop} (gives : Gives reader P) {f : α → β}
    (implies : ∀ depth a, P depth a → Q depth (f a)) :
    Gives (fun b cs => do let (a, cs) ← reader b cs; return (f a, cs)) Q :=
  fun b cs => (gives b cs).bind fun read holds => yields_ok (implies b.depth read.1 holds)

theorem gives_value : Gives value fun depth v => v.IsRead depth :=
  fun b cs => yields_valueAt b.steps b.depth cs

theorem gives_natural : Gives natural fun _ n => n < Nat.pow 2 64 := by
  intro b cs
  unfold natural
  extract_lets judge
  have judged : ∀ (n : Number) (rest : List Char), n.IsRead →
      Yields (judge n rest) fun read => read.1 < Nat.pow 2 64 := by
    intro n rest isRead
    dsimp only [judge]
    split
    case h_1 k =>
      have exact := isRead k rfl
      simp only [isExact, Bool.and_eq_true, decide_eq_true_eq] at exact
      exact yields_ok (Int.ofNat_lt.1 exact.2)
    case h_2 | h_3 => exact yields_error _
  split
  case h_1 => exact yields_error _
  case h_2 => exact (yields_readNumber true _).bind fun read isRead => judged read.1 read.2 isRead
  case h_3 =>
    split
    · exact (yields_readNumber false _).bind fun read isRead => judged read.1 read.2 isRead
    · exact yields_unexpected _ _

theorem gives_nullable (gives : Gives reader P) :
    Gives (nullable reader) fun depth a? => ∀ a ∈ a?, P depth a := by
  intro b cs
  unfold nullable
  split
  · exact (yields_true _).bind fun rest _ => yields_ok nofun
  · refine (gives b _).bind fun read holds => yields_ok ?_
    rintro _ ⟨⟩
    exact holds

theorem gives_nullable_value :
    Gives (nullable value) fun depth v? => ∀ v ∈ v?, v.IsRead depth ∧ v ≠ .null := by
  intro b cs
  unfold nullable
  split
  · exact (yields_true _).bind fun rest _ => yields_ok nofun
  case h_2 notNull =>
    have given : ∀ rest, skipBlanks (skipBlanks cs) ≠ 'n' :: rest := by
      intro rest same
      exact notNull rest ((List.dropWhile_idempotent isBlank cs).symm.trans same)
    have other := yields_valueAt_ne_null .ofMembers (by nofun) b.steps b.depth given
    have isRead := gives_value b (skipBlanks cs)
    refine Yields.bind (P := fun read => read.1.IsRead b.depth ∧ read.1 ≠ .null) ?_ ?_
    · exact fun read found => ⟨isRead read found, other read found⟩
    · intro read holds
      refine yields_ok ?_
      rintro _ ⟨⟩
      exact holds

theorem gives_listOf (gives : Gives reader P) :
    Gives (listOf reader) fun depth as => ∀ a ∈ as, P (depth - 1) a := by
  intro b cs
  unfold listOf
  split
  case h_1 => exact yields_error _
  case h_2 =>
    refine (yields_enter b _).bind fun inner isInner => ?_
    refine (yields_items (gives inner) b.steps true _).bind fun read items => ?_
    refine (yields_true _).bind fun rest _ => yields_ok ?_
    rw [isInner] at items
    exact items
  case h_3 => exact yields_unexpected _ _

theorem gives_mapOf (gives : Gives reader P) :
    Gives (mapOf reader) fun depth es => ∀ e ∈ es, P (depth - 1) e.2 := by
  intro b cs
  unfold mapOf
  split
  case h_1 => exact yields_error _
  case h_2 =>
    refine (yields_enter b _).bind fun inner isInner => ?_
    refine (yields_members (gives inner) b.steps true _).bind fun read members => ?_
    refine (yields_true _).bind fun rest _ => yields_ok ?_
    rw [isInner] at members
    exact members
  case h_3 => exact yields_unexpected _ _

end

/-! ## Records -/

def Field.Keeps (field : Field σ) (Inv : Nat → σ → Prop) : Prop :=
  ∀ b cs, Yields (field.read b cs) fun read => ∀ state, Inv b.depth state → Inv b.depth (read.1 state)

section

variable {Inv : Nat → σ → Prop} {fields : List (Field σ)}

theorem keeps_required {name : String} {item : Reader α} {set : α → σ → σ} {P : Nat → α → Prop}
    (gives : Gives item P)
    (sets : ∀ depth a state, P depth a → Inv depth state → Inv depth (set a state)) :
    (Field.required name item set).Keeps Inv :=
  fun b cs => (gives b cs).bind fun read holds =>
    yields_ok fun state inv => sets b.depth read.1 state holds inv

theorem keeps_free {name : String} {item : Reader α} {set : α → σ → σ} {P : Nat → α → Prop}
    (gives : Gives item P)
    (sets : ∀ depth a state, P depth a → Inv depth state → Inv depth (set a state)) :
    (Field.free name item set).Keeps Inv :=
  show (Field.required name item set).Keeps Inv from keeps_required gives sets

theorem yields_recordMembers (keeps : ∀ field ∈ fields, field.Keeps Inv) (b : Bounds) (steps : Nat)
    (first : Bool) (seen : List String) {state : σ} (inv : Inv b.depth state) (cs : List Char) :
    Yields (recordMembers fields b steps first seen state cs) fun read => Inv b.depth read.1.2 := by
  induction steps generalizing first seen state cs with
  | zero => exact yields_error _
  | succ steps inductionHypothesis =>
    rw [recordMembers]
    refine (yields_true _).bind fun next _ => ?_
    cases next with
    | none => exact yields_ok inv
    | some rest =>
      refine (yields_true _).bind fun name _ => ?_
      dsimp only
      split
      case h_1 =>
        refine (yields_true _).bind fun rest _ => ?_
        exact (yields_true _).bind fun rest _ => inductionHypothesis false seen inv rest
      case h_2 field isField =>
        split
        · exact yields_error _
        · refine (yields_true _).bind fun rest _ => ?_
          have kept := keeps field (List.mem_of_find?_eq_some isField) b rest
          exact kept.bind fun read keepsInv =>
            inductionHypothesis false _ (keepsInv state inv) read.2

theorem yields_recordItems (record : String) (count : Nat) (b : Bounds)
    (keeps : ∀ field ∈ fields, field.Keeps Inv) (index : Nat) {state : σ}
    (inv : Inv b.depth state) (cs : List Char) :
    Yields (recordItems record count b fields index state cs) fun read => Inv b.depth read.1 := by
  induction fields generalizing index state cs with
  | nil => exact yields_ok inv
  | cons field fields inductionHypothesis =>
    obtain ⟨keepsFirst, keepsMore⟩ := List.forall_mem_cons.1 keeps
    rw [recordItems]
    refine (yields_true _).bind fun next _ => ?_
    cases next with
    | none =>
      dsimp only
      split
      · exact inductionHypothesis keepsMore (index + 1) inv cs
      · exact yields_error _
    | some rest =>
      exact (keepsFirst b rest).bind fun read keepsInv =>
        inductionHypothesis keepsMore (index + 1) (keepsInv state inv) read.2

variable (Inv) in
/-- What each field keeps and the record has at the start, it has in the end. -/
theorem gives_record {name : String} {start : σ} (keeps : ∀ field ∈ fields, field.Keeps Inv)
    (atStart : ∀ depth, Inv depth start) :
    Gives (record name fields start) fun depth state => Inv (depth - 1) state := by
  intro b cs
  unfold record
  split
  case h_1 => exact yields_error _
  case h_2 =>
    refine (yields_enter b _).bind fun inner isInner => ?_
    have items := yields_recordItems name fields.length inner keeps 0 (atStart inner.depth)
    refine (items _).bind fun read inv => ?_
    refine (yields_true _).bind fun rest _ => yields_ok ?_
    rw [isInner] at inv
    exact inv
  case h_3 =>
    refine (yields_enter b _).bind fun inner isInner => ?_
    have members := yields_recordMembers keeps inner b.steps true [] (atStart inner.depth)
    refine (members _).bind fun read inv => ?_
    dsimp only
    split
    · exact yields_error _
    · refine (yields_true _).bind fun rest _ => yields_ok ?_
      rw [isInner] at inv
      exact inv
  case h_4 => exact yields_unexpected _ _

end

theorem yields_decode {reader : Reader α} {P : Nat → α → Prop} (gives : Gives reader P)
    (text : String) : Yields (decode reader text) (P maxDepth) := by
  refine (gives _ text.toList).bind fun read holds => ?_
  dsimp only
  split
  · exact yields_ok holds
  · exact yields_error _

end ModuleSurvey.Json
