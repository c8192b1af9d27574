import ModuleSurvey.CommandLine.Run
import ModuleSurvey.Proofs.Json.Spacing
import ModuleSurvey.Proofs.Loader.Directory
import ModuleSurvey.Proofs.Module.JsonRoundTrip

/-! # The lines of a module's text

Whatever its texts hold, a module on one line is one line, and its indented text differs from it in
nothing but white space that stands outside string literals.

* `Module.toList_toJson` — both ways of writing a module are layouts of its value.
* `Module.json_lines` — the characters and the lines of a module's text.
-/

namespace ModuleSurvey.Module

open Json (Layout Spaced spaced_chars withoutBlanks)

def jsonLayout (pretty : Bool) : Layout := if pretty then .pretty else .compact

theorem toList_toJson (m : Module) (pretty : Bool) :
    (m.toJson pretty).toList = m.toValue.chars (jsonLayout pretty) 0 := by
  cases pretty with
  | true => exact String.toList_ofList.trans (Json.Value.prettyChars_eq 0 m.toValue)
  | false => exact String.toList_ofList.trans (Json.Value.compactChars_eq 0 m.toValue)

theorem spaced_toJson (m : Module) (pretty : Bool) :
    Spaced (jsonLayout pretty) (m.toJson pretty).toList (m.toJson false).toList := by
  rw [toList_toJson, toList_toJson]
  exact spaced_chars _ 0 m.toValue

theorem shown_of_mem_compact (m : Module) : ∀ c ∈ (m.toJson false).toList, 0x20 ≤ c.toNat :=
  (m.spaced_toJson false).forall_mem (fun _ shown => shown) (fun _ _ member => nomatch member)
    (fun _ member => nomatch member)

theorem newline_or_shown_of_mem_pretty (m : Module) :
    ∀ c ∈ (m.toJson true).toList, c = '\n' ∨ 0x20 ≤ c.toNat := by
  refine (m.spaced_toJson true).forall_mem (fun _ shown => .inr shown) (fun level c member => ?_)
    (fun c member => ?_)
  · rcases List.mem_cons.1 member with rfl | indent
    · exact .inl rfl
    · exact .inr (by rw [List.eq_of_mem_replicate indent]; decide)
  · exact .inr (by rw [List.mem_singleton.1 member]; decide)

theorem splitOn_compact (m : Module) :
    (m.toJson false ++ "\n").toList.splitOn '\n' = [(m.toJson false).toList, []] := by
  have unbroken : '\n' ∉ (m.toJson false).toList := fun member =>
    absurd (m.shown_of_mem_compact _ member) (by decide)
  have ended : (m.toJson false ++ "\n").toList = (m.toJson false).toList ++ '\n' :: [] :=
    String.toList_append
  rw [ended, List.splitOn_append_cons_self, List.splitOn_eq_singleton unbroken]
  rfl

/-! ## The law -/

/-- What the two texts of a module consist of. On one line it holds no control character, indented
none but line feeds, and without the white space outside string literals the indented text is the
one on one line. So a command that asks for a module on one line prints one line, and this is the
text of the module that it loads. -/
theorem json_lines (m : Module) :
    (∀ c ∈ (m.toJson false).toList, 0x20 ≤ c.toNat) ∧
    (∀ c ∈ (m.toJson true).toList, c = '\n' ∨ 0x20 ≤ c.toNat) ∧
    withoutBlanks .outside (m.toJson true).toList = (m.toJson false).toList ∧
    (∀ color, (Report.render m .json false color).toList.splitOn '\n' =
      [(m.toJson false).toList, []]) ∧
    ∀ (d : Disk) (w : CommandLine.Surroundings) (path : Option String) (dir : String) (s : Settings),
      Settings.load d w.env path = .ok s → loadModule d s.loader dir = m →
      ((CommandLine.Command.inspect dir (some .json) true).run d w path).out.toList.splitOn '\n' =
        [(m.toJson false).toList, []] := by
  refine ⟨m.shown_of_mem_compact, m.newline_or_shown_of_mem_pretty,
    (m.spaced_toJson true).withoutBlanks_eq, fun _ => m.splitOn_compact, ?_⟩
  rintro d w path dir s settings rfl
  simp only [CommandLine.Command.run, CommandLine.inspect, settings, Bool.not_true, Bool.and_false]
  exact splitOn_compact _

/-- A module whose texts hold quotes, a line feed, a tab and a control character. -/
theorem withNullDefault_lines :
    let text := (withNullDefault.toJson false).toList
    withoutBlanks .outside (withNullDefault.toJson true).toList = text ∧
    text.take 30 = "\x7b\"path\":\"größe \\\"1\\\"\\n\\u0001\",".toList ∧
    (∀ c ∈ text, 0x20 ≤ c.toNat) ∧
    '\n' ∈ (withNullDefault.toJson true).toList ∧
    (∀ c ∈ (withNullDefault.toJson true).toList, c = '\n' ∨ 0x20 ≤ c.toNat) ∧
    let d := Disk.ofFiles id "mod" [("main.tf.json", .ok "\x7b\x7d")]
    let command : CommandLine.Command := .inspect "mod" (some .json) true
    (command.run d ⟨∅, false⟩ none).out.toList.splitOn '\n' =
      [((loadModule d {} "mod").toJson false).toList, []] := by
  intro text
  obtain ⟨shown, newlines, tight, -, -⟩ := json_lines withNullDefault
  have onOneLine : text = withNullDefault.toValue.compactChars := String.toList_ofList
  have indented : (withNullDefault.toJson true).toList = withNullDefault.toValue.prettyChars 0 :=
    String.toList_ofList
  refine ⟨tight, by rw [onOneLine]; decide +kernel, shown, by rw [indented]; decide +kernel,
    newlines, ?_⟩
  intro d command
  obtain ⟨-, -, -, -, printed⟩ := json_lines (loadModule d {} "mod")
  have settings : Settings.load d ∅ none = .ok {} := rfl
  exact printed d ⟨∅, false⟩ none "mod" {} settings rfl

end ModuleSurvey.Module
