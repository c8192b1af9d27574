import ModuleSurvey.Proofs.BlockIndex.Descent

/-! # Later look-ups

Each look-up of a block goes on to the next line that answers it, and stays on the last one. So the
lines that one block is given never go back, whatever else is looked up between.

* `seekLater_succ_eq` — one step of going on.
* `Header.pairwise_lines_ofText` — native headers stand in the order of their lines.
* `BlockIndex.line_locate_le` — a later look-up of a block gives no earlier line.
-/

namespace ModuleSurvey

variable {text cs rest : List Char} {name : String} {seen more : Nat}

/-! ## Occurrences of one name -/

theorem seekLater_succ_eq (name : String) (more : Nat) (cs : List Char) :
    seekLater name (more + 1) cs =
      (seekKey name (seekLater name more cs).tail).getD (seekLater name more cs) := by
  induction more generalizing cs with
  | zero => cases found : seekKey name cs.tail <;> simp [seekLater, found]
  | succ more inductionHypothesis =>
    cases found : seekKey name cs.tail with
    | none => simp [seekLater, found]
    | some later =>
      -- Both sides take their first step to the same occurrence.
      have step (n : Nat) : seekLater name (n + 1) cs = seekLater name n later := by
        rw [seekLater, found]
      rw [step, step, inductionHypothesis]

theorem seekLater_suffix_of_le (name : String) (cs : List Char) (fewer : seen ≤ more) :
    seekLater name more cs <:+ seekLater name seen cs := by
  induction fewer with
  | refl => exact List.suffix_refl _
  | @step more fewer inductionHypothesis =>
    refine List.IsSuffix.trans ?_ inductionHypothesis
    rw [seekLater_succ_eq]
    cases found : seekKey name (seekLater name more cs).tail with
    | none => exact List.suffix_refl _
    | some later => exact (seekKey_suffix found).trans (List.tail_suffix _)

theorem lineAt_mono (text : List Char) {first later : Nat} (ordered : first ≤ later) :
    lineAt text first ≤ lineAt text later :=
  Nat.add_le_add_right ((List.take_sublist_take_left ordered).count_le 10) 1

theorem seekBlock_suffix_of_le {names : List String} (fewer : seen ≤ more) :
    ∀ first ∈ seekBlock seen name names cs, ∃ later ∈ seekBlock more name names cs,
      later <:+ first := by
  intro first isFirst
  obtain ⟨start, isStart, isFirst⟩ := Option.bind_eq_some_iff.1 isFirst
  obtain ⟨here, isHere, rfl⟩ := Option.map_eq_some_iff.1 isFirst
  refine ⟨_, ?_, seekLater_suffix_of_le _ here fewer⟩
  exact Option.bind_eq_some_iff.2 ⟨start, isStart, Option.map_eq_some_iff.2 ⟨here, isHere, rfl⟩⟩

theorem BlockIndex.jsonLine?_getD_le (x : BlockIndex) (word : String) (labels : List String)
    (fewer : seen ≤ more) :
    (x.jsonLine? word labels seen).getD 1 ≤ (x.jsonLine? word labels more).getD 1 := by
  rw [jsonLine?_eq, jsonLine?_eq, Option.map_map, Option.map_map]
  cases isFirst : seekBlock seen word labels x.text with
  | none =>
    cases seekBlock more word labels x.text with
    | none => exact Nat.le_refl 1
    | some later => exact Nat.le_add_left 1 _
  | some first =>
    obtain ⟨later, isLater, part⟩ := seekBlock_suffix_of_le fewer first isFirst
    rw [isLater]
    exact lineAt_mono x.text (offsetOf_le part)

/-! ## Native headers -/

theorem Header.pairwise_lines_ofText (text : List Char) :
    ((ofText text).map (·.2)).Pairwise (· < ·) := by
  -- The numbers of all lines increase, and so do those of the lines that are read as headers.
  have lines : ((Text.lines text).zipIdx).Pairwise (fun first later => first.2 < later.2) := by
    rw [← List.pairwise_map, List.zipIdx_map_snd]
    exact List.pairwise_lt_range'
  rw [List.pairwise_map, ofText, List.pairwise_filterMap]
  refine lines.imp fun ordered => ?_
  rintro first isFirst later isLater
  obtain ⟨_, -, rfl⟩ := Option.map_eq_some_iff.1 isFirst
  obtain ⟨_, -, rfl⟩ := Option.map_eq_some_iff.1 isLater
  exact Nat.succ_lt_succ ordered

theorem getElem?_or_getLast?_getD_le {l : List Nat} (increasing : l.Pairwise (· < ·))
    (fewer : seen ≤ more) (none : Nat) :
    (l[seen]?.or l.getLast?).getD none ≤ (l[more]?.or l.getLast?).getD none := by
  cases l with
  | nil => exact Nat.le_refl none
  | cons i l =>
    -- Behind the last place the number is that of the last one.
    have bounded (n : Nat) : (i :: l)[n]?.or (i :: l).getLast? = (i :: l)[min n l.length]? := by
      rw [List.getLast?_eq_getElem?, List.length_cons, Nat.add_sub_cancel]
      by_cases within : n ≤ l.length
      · rw [Nat.min_eq_left within, List.getElem?_eq_getElem (Nat.lt_succ_of_le within), Option.some_or]
      · have outside : (i :: l).length ≤ n := by rw [List.length_cons]; omega
        rw [Nat.min_eq_right (by omega), List.getElem?_eq_none outside, Option.none_or]
    have within (n : Nat) : min n l.length < (i :: l).length := by rw [List.length_cons]; omega
    rw [bounded, bounded, List.getElem?_eq_getElem (within seen), List.getElem?_eq_getElem (within more),
      Option.getD_some, Option.getD_some]
    have ordered : min seen l.length ≤ min more l.length := by omega
    rcases Nat.lt_or_eq_of_le ordered with less | same
    · exact Nat.le_of_lt (List.pairwise_iff_getElem.1 increasing _ _ _ _ less)
    · simp only [same, Nat.le_refl]

theorem BlockIndex.nativeLine?_getD_le (filename text key : String) (fewer : seen ≤ more) :
    ((scan filename .native text).nativeLine? key seen).getD 1 ≤
      ((scan filename .native text).nativeLine? key more).getD 1 := by
  refine getElem?_or_getLast?_getD_le ?_ fewer 1
  have inOrder : ((scan filename .native text).headers.map (·.2)).Pairwise (· < ·) := by
    simpa [scan, Function.comp_def] using Header.pairwise_lines_ofText text.toList
  exact inOrder.sublist (List.filter_sublist.map _)

/-! ## The law -/

/-- The line of a block does not go back: after more look-ups, of this block and of others, it is the
same line or a later one. -/
theorem BlockIndex.line_locate_le (filename text : String) (format : FileFormat)
    (earlier later : List Header) (query : Header) :
    let index := scan filename format text
    ((index.after earlier).locate query.word query.labels).1.line ≤
      ((index.after (earlier ++ later)).locate query.word query.labels).1.line := by
  intro index
  have fewer : (earlier.map Header.key).count query.key ≤
      ((earlier ++ later).map Header.key).count query.key := by
    rw [List.map_append, List.count_append]
    exact Nat.le_add_right _ _
  cases format with
  | native =>
    rw [locate_after_native, locate_after_native]
    exact nativeLine?_getD_le filename text query.key fewer
  | json =>
    rw [locate_after_json, locate_after_json]
    exact jsonLine?_getD_le _ query.word query.labels fewer

end ModuleSurvey
