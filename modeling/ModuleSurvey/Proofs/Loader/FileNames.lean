import ModuleSurvey.Loader
import Mathlib.Tactic.Tauto

/-! # The names of configuration files

The name of a file decides whether it is read and in which role. What the endings of a name say is
stated apart from the way in which they are taken off: a longer ending is never mistaken for a
shorter one, and a role is found behind either of them.

* `isConfigName`, `isOverrideName` — what the endings of a name say.
* `ConfigName.isSome_ofName?`, `ConfigName.role_of_ofName?` — names are sorted out by these.
-/

namespace ModuleSurvey

def endsIn (ending name : String) : Bool := ending.toList.isSuffixOf name.toList

def isConfigName (name : String) : Bool := endsIn ".tf" name || endsIn ".tf.json" name

def isOverrideName (name : String) : Bool :=
  name = "override.tf" || name = "override.tf.json"
    || endsIn "_override.tf" name || endsIn "_override.tf.json" name

/-! ## Endings -/

theorem endsIn_iff {ending name : String} :
    endsIn ending name = true ↔ ∃ stem, name.toList = stem ++ ending.toList := by
  rw [endsIn, List.isSuffixOf_iff_suffix]
  exact exists_congr fun _ => eq_comm

theorem Text.isSome_dropEnd? {ending name : String} :
    (dropEnd? ending.toList name.toList).isSome = endsIn ending name := by
  rw [Bool.eq_iff_iff, Option.isSome_iff_exists, endsIn_iff]
  simp only [dropEnd?_eq_some_iff]

namespace ConfigName

theorem isSome_ofName? (name : String) : (ofName? name).isSome = isConfigName name := by
  unfold ofName? isConfigName
  rw [← Text.isSome_dropEnd?, ← Text.isSome_dropEnd?]
  cases Text.dropEnd? ".tf.json".toList name.toList <;> simp

theorem roleOf_eq_override_iff {stem : List Char} :
    roleOf stem = .override ↔
      stem = "override".toList ∨ ∃ start, stem = start ++ "_override".toList := by
  have ending : (Text.dropEnd? "_override".toList stem).isSome = true ↔
      ∃ start, stem = start ++ "_override".toList := by
    simp only [Option.isSome_iff_exists, Text.dropEnd?_eq_some_iff]
  rw [← ending, roleOf]
  split
  case isTrue is => exact iff_of_true rfl is
  case isFalse other => exact iff_of_false nofun other

theorem exists_roleOf_iff {ending name : String} :
    (∃ stem, name.toList = stem ++ ending.toList ∧ roleOf stem = .override) ↔
      name = "override" ++ ending ∨ endsIn ("_override" ++ ending) name = true := by
  simp only [roleOf_eq_override_iff, endsIn_iff, String.toList_append, ← String.toList_inj]
  constructor
  · rintro ⟨_, isName, rfl | ⟨start, rfl⟩⟩
    · exact .inl isName
    · exact .inr ⟨start, by rw [isName, List.append_assoc]⟩
  · rintro (isName | ⟨start, isName⟩)
    · exact ⟨_, isName, .inl rfl⟩
    · exact ⟨start ++ "_override".toList, by rw [isName, List.append_assoc], .inr ⟨start, rfl⟩⟩

theorem isOverrideName_iff {name : String} :
    isOverrideName name = true ↔
      (∃ stem, name.toList = stem ++ ".tf".toList ∧ roleOf stem = .override) ∨
        ∃ stem, name.toList = stem ++ ".tf.json".toList ∧ roleOf stem = .override := by
  have native : "override" ++ ".tf" = "override.tf" ∧ "_override" ++ ".tf" = "_override.tf" := by
    decide
  have json : "override" ++ ".tf.json" = "override.tf.json" ∧
    "_override" ++ ".tf.json" = "_override.tf.json" := by decide
  rw [exists_roleOf_iff, exists_roleOf_iff, native.1, native.2, json.1, json.2]
  simp only [isOverrideName, Bool.or_eq_true, decide_eq_true_eq]
  tauto

theorem role_of_ofName? {name : String} {c : ConfigName} (named : ofName? name = some c) :
    c.role = .override ↔ isOverrideName name = true := by
  rw [isOverrideName_iff]
  unfold ofName? at named
  cases ended : Text.dropEnd? ".tf.json".toList name.toList with
  | some stem =>
    rw [ended] at named
    cases named
    have isName := Text.dropEnd?_eq_some_iff.1 ended
    -- The last letter of the name tells the two endings apart.
    have notNative : ∀ other, name.toList ≠ other ++ ".tf".toList := by
      intro other isOther
      have last := congrArg List.getLast? (isName.symm.trans isOther)
      simp at last
    constructor
    · exact fun role => .inr ⟨stem, isName, role⟩
    · rintro (⟨other, isOther, -⟩ | ⟨other, isOther, role⟩)
      · exact absurd isOther (notNative other)
      · rwa [List.append_cancel_right (isName.symm.trans isOther)]
  | none =>
    rw [ended] at named
    obtain ⟨stem, endedNative, rfl⟩ := Option.map_eq_some_iff.1 named
    have isName := Text.dropEnd?_eq_some_iff.1 endedNative
    have notJson : ∀ other, name.toList ≠ other ++ ".tf.json".toList := by
      intro other isOther
      have isEnded := Text.dropEnd?_eq_some_iff.2 isOther
      rw [ended] at isEnded
      cases isEnded
    constructor
    · exact fun role => .inl ⟨stem, isName, role⟩
    · rintro (⟨other, isOther, role⟩ | ⟨other, isOther, -⟩)
      · rwa [List.append_cancel_right (isName.symm.trans isOther)]
      · exact absurd isOther (notJson other)

end ConfigName

end ModuleSurvey
