import ModuleSurvey.Proofs.Json.ReadBack

/-! # Reading records back

The members of a record are written in the order of its fields, and a field that may be left out is
left out where its value is the one the record starts with.

* `Fills` — members that fill the fields of a record in their order, and what they make of it.
* `Fills.required`, `Fills.free`, `Fills.absent` — a field, written or left out.
* `recordMembers_cons`, `recordMembers_membersChars` — one member, and all members of a record.
* `readsAs_record` — a record is read back from members that fill it.
-/

namespace ModuleSurvey.Json

variable {α σ : Type}

/-! ## Filling fields -/

/-- Members that fill fields one after another, and what becomes of the record on the way. A field
may be left out only if it is optional. -/
inductive Fills : List (Field σ) → Members → σ → σ → Prop
  | done (state : σ) : Fills [] [] state state
  | given {field : Field σ} {fields : List (Field σ)} {v : Value} {ms : Members} {set : σ → σ}
      {start final : σ} (reads : ReadsAs field.read v set) (more : Fills fields ms (set start) final) :
      Fills (field :: fields) ((field.name, v) :: ms) start final
  | omitted {field : Field σ} {fields : List (Field σ)} {ms : Members} {start final : σ}
      (optional : field.optional = true) (more : Fills fields ms start final) :
      Fills (field :: fields) ms start final

namespace Fills

variable {fields : List (Field σ)} {ms : Members} {start final : σ}

theorem required {name : String} {item : Reader α} {set : α → σ → σ} {v : Value} {a : α}
    (reads : ReadsAs item v a) (more : Fills fields ms (set a start) final) :
    Fills (.required name item set :: fields) ((name, v) :: ms) start final :=
  .given (reads.map set) more

theorem free {name : String} {item : Reader α} {set : α → σ → σ} {v : Value} {a : α}
    (reads : ReadsAs item v a) (more : Fills fields ms (set a start) final) :
    Fills (.free name item set :: fields) ((name, v) :: ms) start final :=
  .given (reads.map set) more

/-- A field may be left out where its value is the one that the record has already. -/
theorem absent {name : String} {item : Reader α} {set : α → σ → σ} {a : α}
    (unset : set a start = start) (more : Fills fields ms (set a start) final) :
    Fills (.free name item set :: fields) ms start final := by
  rw [unset] at more
  exact .omitted rfl more

end Fills

/-! ## Records -/

theorem find?_name_of_mem {fields : List (Field σ)} (distinct : (fields.map (·.name)).Nodup)
    {field : Field σ} (member : field ∈ fields) :
    fields.find? (·.name == field.name) = some field := by
  induction fields with
  | nil => cases member
  | cons head fields inductionHypothesis =>
    obtain ⟨notAgain, distinctMore⟩ := List.nodup_cons.1 distinct
    rcases List.mem_cons.1 member with rfl | member
    · simp
    · have different : head.name ≠ field.name :=
        fun same => notAgain (List.mem_map.2 ⟨field, member, same.symm⟩)
      rw [List.find?_cons_of_neg (by simpa using different)]
      exact inductionHypothesis distinctMore member

theorem recordMembers_cons {all : List (Field σ)} {field : Field σ} {v : Value} {set : σ → σ}
    (reads : ReadsAs field.read v set)
    (isKnown : all.find? (·.name == field.name) = some field) {seen : List String}
    (fresh : field.name ∉ seen) (l : Layout) (level : Nat) (b : Bounds)
    (deep : v.depth < b.depth) (wide : v.width < b.steps) (steps : Nat) (first : Bool) (state : σ)
    (ms : Members) (rest : List Char) :
    recordMembers all b (steps + 1) first seen state
        (Value.membersChars l level first ((field.name, v) :: ms) ++ rest) =
      recordMembers all b steps false (field.name :: seen) (set state)
        (Value.membersChars l level false ms ++ rest) := by
  have found := nextMember_quoted first (l.blank_gap (level + 1)) field.name
    (':' :: (l.space ++ (v.chars l (level + 1) ++ (Value.membersChars l level false ms ++ rest))))
  have front := reads.run l (level + 1) b l.space (Value.membersChars l level false ms ++ rest)
    l.blank_space (delimited_membersChars l level ms rest) deep wide
  have notSeen : seen.contains field.name = false := by simpa using fresh
  simp only [Value.membersChars, List.append_assoc, List.cons_append, recordMembers, found,
    readString_escaped, readColon_colon, String.ofList_toList, isKnown, notSeen, front, bind,
    Except.bind, Bool.false_eq_true, if_false]

/-- Members that fill the fields are read to the end of the object, and every field that has to be
there is seen. -/
theorem recordMembers_membersChars {all fields : List (Field σ)} {ms : Members} {start final : σ}
    (fills : Fills fields ms start final) (l : Layout) (level : Nat) (b : Bounds) (rest : List Char)
    (known : ∀ field ∈ fields, all.find? (·.name == field.name) = some field)
    (distinct : (fields.map (·.name)).Nodup)
    (deep : Value.depthMembers ms < b.depth) (wide : Value.widthMembers ms < b.steps) :
    ∀ (steps : Nat) (first : Bool) (seen : List String), ms.length < steps →
      (∀ field ∈ fields, field.name ∉ seen) →
      ∃ seen' tail, recordMembers all b steps first seen start
          (Value.membersChars l level first ms ++ rest) = .ok ((seen', final), tail) ∧
        endObject tail = .ok rest ∧ seen ⊆ seen' ∧
        ∀ field ∈ fields, field.optional = false → field.name ∈ seen' := by
  induction fills with
  | done state =>
    intro steps first seen enough _
    obtain ⟨steps, rfl⟩ := Nat.exists_eq_add_of_lt enough
    have closes := closesObject l level first rest
    refine ⟨seen, Value.membersChars l level first [] ++ rest, ?_, ?_, ?_, ?_⟩
    · simp only [recordMembers, nextMember, closes, bind, Except.bind, pure, Except.pure]
    · simp only [endObject, closes]
    · exact List.Subset.refl seen
    · simp
  | @omitted field fields ms start final optional more inductionHypothesis =>
    intro steps first seen enough fresh
    obtain ⟨_, knownMore⟩ := List.forall_mem_cons.1 known
    obtain ⟨_, distinctMore⟩ := List.nodup_cons.1 distinct
    obtain ⟨_, freshMore⟩ := List.forall_mem_cons.1 fresh
    obtain ⟨seen', tail, read, ends, kept, complete⟩ :=
      inductionHypothesis knownMore distinctMore deep wide steps first seen enough freshMore
    refine ⟨seen', tail, read, ends, kept, ?_⟩
    intro other member needed
    rcases List.mem_cons.1 member with rfl | member
    · exact absurd (needed.symm.trans optional) Bool.false_ne_true
    · exact complete other member needed
  | @given field fields v ms set start final reads more inductionHypothesis =>
    intro steps first seen enough fresh
    simp only [Value.depthMembers, Value.widthMembers] at deep wide
    obtain ⟨isKnown, knownMore⟩ := List.forall_mem_cons.1 known
    obtain ⟨notAgain, distinctMore⟩ := List.nodup_cons.1 distinct
    obtain ⟨isFresh, freshBefore⟩ := List.forall_mem_cons.1 fresh
    -- The fields that follow have other names, so the name that is seen now hides none of them.
    have freshMore : ∀ other ∈ fields, other.name ∉ field.name :: seen := by
      intro other member again
      rcases List.mem_cons.1 again with same | again
      · exact notAgain (List.mem_map.2 ⟨other, member, same⟩)
      · exact freshBefore other member again
    obtain ⟨steps, rfl⟩ : ∃ fewer, steps = fewer + 1 := ⟨steps - 1, by omega⟩
    obtain ⟨seen', tail, read, ends, kept, complete⟩ :=
      inductionHypothesis knownMore distinctMore (by omega) (by omega) steps false
        (field.name :: seen) (Nat.lt_of_succ_lt_succ enough) freshMore
    refine ⟨seen', tail, ?_, ends, fun name member => kept (List.mem_cons_of_mem _ member), ?_⟩
    · rw [recordMembers_cons reads isKnown isFresh l level b (by omega) (by omega)]
      exact read
    · intro other member needed
      rcases List.mem_cons.1 member with rfl | member
      · exact kept (by simp)
      · exact complete other member needed

theorem readsAs_record {record : String} {fields : List (Field σ)} {ms : Members} {start final : σ}
    (fills : Fills fields ms start final) (distinct : (fields.map (·.name)).Nodup) :
    ReadsAs (Json.record record fields start) (.object ms) final where
  whole := rfl
  run l level b blanks rest blank _ deep wide := by
    simp only [Value.depth, Value.width] at deep wide
    have front := skipBlanks_chars l level (v := .object ms) rfl blank rest
    have inner := enter_of_lt deep ('\x7b' :: (Value.membersChars l level true ms ++ rest))
    have known : ∀ field ∈ fields, fields.find? (·.name == field.name) = some field :=
      fun field member => find?_name_of_mem distinct member
    obtain ⟨seen, tail, read, ends, _, complete⟩ := recordMembers_membersChars fills l level
      ⟨b.steps, b.depth - 1⟩ rest known distinct (by simp only; omega) (by simp only; omega)
      b.steps true [] (by omega) (by simp)
    have noneMissing : (fields.find? fun f => !f.optional && !seen.contains f.name) = none := by
      rw [List.find?_eq_none]
      intro field member
      by_cases optional : field.optional = true
      · simp [optional]
      · simp [complete field member (by simpa using optional)]
    simp only [Json.record, front]
    simp only [Value.chars, List.cons_append, inner, read, ends, noneMissing, bind, Except.bind, pure,
      Except.pure]

end ModuleSurvey.Json
