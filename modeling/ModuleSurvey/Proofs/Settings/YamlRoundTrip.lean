import ModuleSurvey.Proofs.Yaml.OutlineDocument
import ModuleSurvey.Settings.Yaml

/-! # Settings survive YAML

The text of settings is laid out as an outline, so that it is read as the entries of that outline,
and the settings are read back from them. Nothing is lost: what is left out is what a reader puts
in.

* `Settings.outline`, `Settings.yamlChars_eq` — the text as an outline.
* `ofYaml_toYaml` — reading what was written.
-/

namespace ModuleSurvey.Settings

open Yaml

/-! ## The text as an outline -/

def loaderOutline (l : LoaderSettings) : Outline :=
  let overrides := .word "include_overrides" (toString l.includeOverrides)
  if l.ignore = [] then overrides else .seq overrides (.list "ignore" l.ignore)

def outline (s : Settings) : Outline :=
  .seq
    (.group "output"
      (.seq (.word "format" s.output.format.word) (.word "pretty" (toString s.output.pretty))))
    (.seq (.group "check" (.word "fail_on" s.check.failOn.word))
      (.group "loader" (loaderOutline s.loader)))

variable {s : Settings}

/-- Every entry of the ignore list is a text of one line. -/
abbrev HasInlineEntries (s : Settings) : Prop := ∀ entry ∈ s.loader.ignore, InlineText entry.toList

theorem isName_format (f : OutputFormat) : IsName f.word.toList := by
  cases f <;> decide

theorem isName_failLevel (l : FailLevel) : IsName l.word.toList := by
  cases l <;> decide

theorem isName_bool (b : Bool) : IsName (toString b).toList := by
  cases b <;> decide

theorem loaderOutline_sound (inline : HasInlineEntries s) : (loaderOutline s.loader).Sound := by
  have overrides : IsName "include_overrides".toList := by decide
  have ignore : IsName "ignore".toList := by decide
  unfold loaderOutline
  dsimp only
  split
  case isTrue => exact ⟨overrides, isName_bool _⟩
  case isFalse nonempty => exact ⟨⟨overrides, isName_bool _⟩, ignore, nonempty, inline⟩

theorem outline_sound (inline : HasInlineEntries s) : s.outline.Sound := by
  have output : IsName "output".toList := by decide
  have format : IsName "format".toList := by decide
  have pretty : IsName "pretty".toList := by decide
  have check : IsName "check".toList := by decide
  have failOn : IsName "fail_on".toList := by decide
  have loader : IsName "loader".toList := by decide
  exact ⟨⟨output, ⟨format, isName_format _⟩, pretty, isName_bool _⟩,
    ⟨check, failOn, isName_failLevel _⟩, loader, loaderOutline_sound inline⟩

theorem settingLine_eq (name word : String) :
    settingLine name word = textOf [⟨2, name.toList ++ ':' :: ' ' :: word.toList⟩] := by
  have indentation : "  ".toList = List.replicate 2 ' ' := rfl
  have colon : ": ".toList = [':', ' '] := rfl
  simp only [settingLine, textOf, indentation, colon, List.flatMap_singleton, List.append_assoc,
    List.cons_append, List.nil_append]

theorem textOf_itemLines {items : List String} (inline : ∀ item ∈ items, InlineText item.toList) :
    textOf (Outline.itemLines 2 items) =
      items.flatMap fun item => "  - ".toList ++ scalarLines item := by
  have hyphen : "  - ".toList = List.replicate 2 ' ' ++ ['-', ' '] := rfl
  induction items with
  | nil => rfl
  | cons item items inductionHypothesis =>
    have behind := inductionHypothesis fun x member => inline x (List.mem_cons_of_mem _ member)
    rw [List.flatMap_cons, ← behind, scalarLines_eq (inline item List.mem_cons_self), hyphen]
    simp only [Outline.itemLines, List.map_cons, textOf, List.flatMap_cons, List.append_assoc,
      List.cons_append, List.nil_append]

theorem yamlChars_eq_append : s.yamlChars =
    textOf [⟨0, "output".toList ++ [':']⟩]
      ++ settingLine "format" s.output.format.word
      ++ settingLine "pretty" (toString s.output.pretty)
      ++ textOf [⟨0, "check".toList ++ [':']⟩]
      ++ settingLine "fail_on" s.check.failOn.word
      ++ textOf [⟨0, "loader".toList ++ [':']⟩]
      ++ settingLine "include_overrides" (toString s.loader.includeOverrides)
      ++ (if s.loader.ignore.isEmpty then [] else textOf [⟨2, "ignore".toList ++ [':']⟩])
      ++ s.loader.ignore.flatMap fun entry => "  - ".toList ++ scalarLines entry :=
  rfl

theorem yamlChars_eq (inline : HasInlineEntries s) : s.yamlChars = textOf (s.outline.lines 0) := by
  rw [yamlChars_eq_append, ← textOf_itemLines inline]
  simp only [settingLine_eq, ← textOf_append]
  by_cases empty : s.loader.ignore = []
  · have noItems : textOf (Outline.itemLines 2 []) = [] := rfl
    simp only [outline, loaderOutline, empty, if_true, List.isEmpty_nil, noItems, List.append_nil]
    rfl
  · simp only [outline, loaderOutline, empty, if_false, List.isEmpty_iff, ← textOf_append]
    rfl

/-! ## Reading the entries -/

variable {path : String} {mark : Mark} {entries : List (Node × Node)}

theorem readChoice_format (f : OutputFormat) :
    readChoice OutputFormat.choices path (.scalar mark none .plain f.word) = .ok f := by
  cases f <;> rfl

theorem readChoice_failLevel (l : FailLevel) :
    readChoice FailLevel.choices path (.scalar mark none .plain l.word) = .ok l := by
  cases l <;> rfl

theorem readBool_toString (b : Bool) :
    readBool path (.scalar mark none .plain (toString b)) = .ok b := by
  cases b <;> rfl

theorem outputReader_of_yields {o : OutputSettings}
    (yields : Outline.Yields
      (.seq (.word "format" o.format.word) (.word "pretty" (toString o.pretty))) entries) :
    outputReader path (.mapping mark none entries) = .ok o := by
  obtain _ | _ | _ | ⟨⟨⟩, ⟨⟩⟩ := yields
  refine readRecord_mapping ?_
  refine readFields_cons_set rfl rfl (by decide) (readChoice_format _) ?_
  exact readFields_cons_set rfl rfl (by decide) (readBool_toString _) rfl

theorem checkReader_of_yields {c : CheckSettings}
    (yields : Outline.Yields (.word "fail_on" c.failOn.word) entries) :
    checkReader path (.mapping mark none entries) = .ok c := by
  obtain ⟨⟩ := yields
  refine readRecord_mapping ?_
  exact readFields_cons_set rfl rfl (by decide) (readChoice_failLevel _) rfl

/-- A list that was left out is the empty one, which is its default. -/
theorem loaderReader_of_yields {l : LoaderSettings} (yields : (loaderOutline l).Yields entries) :
    loaderReader path (.mapping mark none entries) = .ok l := by
  unfold loaderOutline at yields
  dsimp only at yields
  split at yields
  case isTrue empty =>
    obtain ⟨⟩ := yields
    refine readRecord_mapping ?_
    refine readFields_cons_set rfl rfl (by decide) (readBool_toString _) ?_
    rw [readFields, ← empty]
  case isFalse =>
    obtain _ | _ | _ | ⟨⟨⟩, _ | _ | ⟨_, m, areItems⟩⟩ := yields
    have read (path : String) : readList (readText "a string") path (.sequence m none _) =
        .ok l.ignore := congrArg (placed path m) (readItems_of_text? areItems 0)
    refine readRecord_mapping ?_
    refine readFields_cons_set rfl rfl (by decide) (readBool_toString _) ?_
    exact readFields_cons_set rfl rfl (by decide) (read _) rfl

theorem reader_of_yields (yields : s.outline.Yields entries) :
    reader path (.mapping mark none entries) = .ok s := by
  obtain _ | _ | _ | ⟨output, _ | _ | _ | ⟨check, loader⟩⟩ := yields
  obtain _ | ⟨_, _, output⟩ := output
  obtain _ | ⟨_, _, check⟩ := check
  obtain _ | ⟨_, _, loader⟩ := loader
  refine readRecord_mapping ?_
  refine readFields_cons_set rfl rfl (by decide) (outputReader_of_yields output) ?_
  refine readFields_cons_set rfl rfl (by decide) (checkReader_of_yields check) ?_
  exact readFields_cons_set rfl rfl (by decide) (loaderReader_of_yields loader) rfl

/-! ## What was written is read -/

/-- Settings are read back as they were written, with every entry of the ignore list and in the same
order, whatever the entries look like. -/
theorem ofYaml_toYaml (s : Settings) (oneLine : ∀ entry ∈ s.loader.ignore, ∀ c ∈ entry.toList,
      isControl c = false ∧ c ≠ '\u2028' ∧ c ≠ '\u2029') :
    ofYaml s.toYaml = .ok s := by
  have inline : HasInlineEntries s := fun entry member c isIn => by
    simpa [isInline, and_assoc] using oneLine entry member c isIn
  obtain ⟨mark, entries, yields, parsed⟩ := Outline.parse?_lines (outline_sound inline)
  have text : s.toYaml = String.ofList (textOf (s.outline.lines 0)) :=
    congrArg String.ofList (yamlChars_eq inline)
  simp only [ofYaml, text, parsed, ofDocument, reader_of_yields yields]
  rfl

/-- Entries that would be taken for something else if they were written plainly. -/
def lookalikes : Settings where
  output := ⟨.json, false⟩
  check := ⟨.never⟩
  loader := ⟨false, ["", "null", "~", "yes", "True", "0x1", "-7", ".inf", "- a", "a: b", "a #b", "#c",
    "\x27", "\"", "\\", " x ", "---", "*a", "%a", "\ufeff", "main.tf.json"]⟩

theorem lookalikes_survive :
    (∀ entry ∈ lookalikes.loader.ignore, ∀ c ∈ entry.toList,
      isControl c = false ∧ c ≠ '\u2028' ∧ c ≠ '\u2029') ∧
      ofYaml lookalikes.toYaml = .ok lookalikes :=
  have oneLine : ∀ entry ∈ lookalikes.loader.ignore, ∀ c ∈ entry.toList,
      isControl c = false ∧ c ≠ '\u2028' ∧ c ≠ '\u2029' := by
    have inline : (lookalikes.loader.ignore.all fun entry => entry.toList.all isInline) = true := by
      decide
    simpa [isInline, and_assoc] using inline
  ⟨oneLine, ofYaml_toYaml lookalikes oneLine⟩

end ModuleSurvey.Settings
