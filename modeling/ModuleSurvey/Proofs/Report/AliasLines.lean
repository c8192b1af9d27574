import ModuleSurvey.Proofs.Module.Providers
import ModuleSurvey.Report.Summary

/-! # Aliases in the summary

The summary gives the aliases of a provider at the end of the line about its requirement, so it
shows them exactly where the provider is required. Every provider with an alias is required, apart
from those that only the configurations of other providers bring in: `configuration_aliases` of one
provider may name another one, whose alias is recorded without a requirement.

* `ShowsAliases` — a line of the summary is about a provider and ends with its aliases.
* `showsAliases_iff` — it is there exactly for the required providers.
* `recorded_aliases_in_summary` — which recorded aliases are shown after any sequence of files.
-/

namespace ModuleSurvey.Report

/-! ## The lines of the sections -/

def IsAbout (name : String) (line : Line) : Prop :=
  line.take 2 = [.plain "  ", .styled .bold name]

def EndsWithAliases (known : List String) (line : Line) : Prop :=
  line.getLast? = some (.plain (" aliases: " ++ commas known))

theorem mem_of_mem_sectionLines {title name : String} {entries : List Line} {line : Line}
    (member : line ∈ sectionLines title entries) (about : IsAbout name line) : line ∈ entries := by
  unfold sectionLines at member
  rcases List.mem_cons.1 member with rfl | member
  · cases about
  · split at member
    · obtain rfl := List.mem_singleton.1 member
      cases about
    · exact member

theorem mem_sectionLines {title : String} {entries : List Line} {line : Line}
    (member : line ∈ entries) : line ∈ sectionLines title entries := by
  unfold sectionLines
  cases entries with
  | nil => cases member
  | cons first more => exact List.mem_cons_of_mem _ member

theorem not_endsWithAliases_entryLine {name description : String} {tags known : List String} :
    ¬ EndsWithAliases known (entryLine name tags description) := by
  unfold EndsWithAliases entryLine
  intro ends
  -- The line ends with its description, else with its tags, else with the name.
  by_cases described : description = ""
  · by_cases tagged : tags.isEmpty
    · simp [described, tagged] at ends
    · have sameText : " [" ++ commas tags ++ "]" = " aliases: " ++ commas known := by
        simpa [described, tagged] using ends
      have sameChars := congrArg String.toList sameText
      simp at sameChars
  · rw [if_neg described, List.getLast?_append] at ends
    cases ends

theorem not_endsWithAliases_arrowLine {name target : String} {known : List String} :
    ¬ EndsWithAliases known (arrowLine name target) := by
  intro ends
  have sameText : " → " ++ target = " aliases: " ++ commas known := by
    simpa [EndsWithAliases, arrowLine] using ends
  have sameChars := congrArg String.toList sameText
  simp at sameChars

theorem not_endsWithAliases_of_mem_mapLines {α : Type} {f : String → α → Line} {map : SortedMap α}
    {known : List String} (never : ∀ name a, ¬ EndsWithAliases known (f name a)) {line : Line}
    (member : line ∈ mapLines f map) : ¬ EndsWithAliases known line := by
  obtain ⟨entry, -, rfl⟩ := List.mem_map.1 member
  exact never entry.1 entry.2

theorem mem_providerLines {m : Module} {name : String} {known : List String} {line : Line}
    (member : line ∈ summaryLines m) (about : IsAbout name line)
    (ends : EndsWithAliases known line) :
    line ∈ mapLines (providerLine m) m.requiredProviders := by
  have notBlank : line ∉ [[]] := by
    intro blank
    obtain rfl := List.mem_singleton.1 blank
    cases about
  have noEntries : ∀ {α : Type} {title : String} {f : String → α → Line} {map : SortedMap α},
      (∀ name a, ¬ EndsWithAliases known (f name a)) →
      line ∉ sectionLines title (mapLines f map) :=
    fun never inSection => not_endsWithAliases_of_mem_mapLines never
      (mem_of_mem_sectionLines inSection about) ends
  simp only [summaryLines, List.mem_append, or_assoc, notBlank, false_or] at member
  rcases member with header | core | providers | inputs | outputs | managed | data | calls
    | problems
  · obtain rfl := List.mem_singleton.1 header
    cases about
  · split at core
    · cases core
    · obtain rfl := List.mem_singleton.1 core
      simp [IsAbout] at about
  · exact mem_of_mem_sectionLines providers about
  · exact absurd inputs (noEntries fun _ _ => not_endsWithAliases_entryLine)
  · exact absurd outputs (noEntries fun _ _ => not_endsWithAliases_entryLine)
  · exact absurd managed (noEntries fun _ _ => not_endsWithAliases_arrowLine)
  · exact absurd data (noEntries fun _ _ => not_endsWithAliases_arrowLine)
  · exact absurd calls (noEntries fun _ _ => not_endsWithAliases_arrowLine)
  · split at problems
    · cases problems
    · simp only [List.mem_append, notBlank, false_or] at problems
      obtain ⟨d, -, rfl⟩ := List.mem_map.1 (mem_of_mem_sectionLines problems about)
      -- The second piece of such a line is the word for its severity.
      obtain ⟨severity, summary, detail, pos⟩ := d
      cases severity <;> simp [IsAbout, diagnosticLine, severitySpan] at about

/-! ## The line of a provider -/

theorem isAbout_providerLine {m : Module} {name provider : String} {r : ProviderRequirement} :
    IsAbout name (providerLine m provider r) ↔ provider = name := by
  simp [IsAbout, providerLine]

theorem endsWithAliases_providerLine {m : Module} {provider : String} {known : List String}
    (recorded : m.providerAliases.get? provider = some known) (r : ProviderRequirement) :
    EndsWithAliases known (providerLine m provider r) := by
  unfold EndsWithAliases providerLine
  rw [List.getLast?_append, recorded]
  rfl

def ShowsAliases (m : Module) (provider : String) (known : List String) : Prop :=
  ∃ line ∈ summaryLines m, IsAbout provider line ∧ EndsWithAliases known line

theorem showsAliases_iff {m : Module} {provider : String} {known : List String}
    (recorded : m.providerAliases.get? provider = some known) :
    ShowsAliases m provider known ↔ m.requiredProviders.contains provider = true := by
  constructor
  · rintro ⟨line, member, about, ends⟩
    obtain ⟨⟨other, r⟩, entry, rfl⟩ := List.mem_map.1 (mem_providerLines member about ends)
    obtain rfl := isAbout_providerLine.1 about
    exact SortedMap.contains_iff.2 ⟨r, SortedMap.mem_entries_iff.1 entry⟩
  · intro required
    obtain ⟨r, found⟩ := SortedMap.contains_iff.1 required
    have inSection : providerLine m provider r ∈
        sectionLines "Providers" (mapLines (providerLine m) m.requiredProviders) :=
      mem_sectionLines (List.mem_map.2 ⟨(provider, r), SortedMap.mem_entries_iff.2 found, rfl⟩)
    refine ⟨_, ?_, isAbout_providerLine.2 rfl, endsWithAliases_providerLine recorded r⟩
    simp only [summaryLines, List.mem_append, inSection, or_true, true_or]

/-- After any sequence of files, the summary shows the aliases of a provider exactly where the
provider is required. Where it is not, all its aliases are configurations that other providers
list. -/
theorem recorded_aliases_in_summary (path : String) (files : List (FileRole × ParsedFile))
    (provider : String) (known : List String)
    (recorded : ((Module.new path).decodeAll files).providerAliases.get? provider = some known) :
    let m := (Module.new path).decodeAll files
    (ShowsAliases m provider known ↔ m.requiredProviders.contains provider = true) ∧
    (m.requiredProviders.contains provider = true ∨
      ∀ aliasName ∈ known, ∃ other requirement, other ≠ provider ∧
        m.requiredProviders.get? other = some requirement ∧
        ⟨provider, aliasName⟩ ∈ requirement.configurationAliases) := by
  intro m
  refine ⟨showsAliases_iff recorded, ?_⟩
  by_cases required : m.requiredProviders.contains provider = true
  · exact .inl required
  · refine .inr fun aliasName member => ?_
    have placed := (Module.inOrder_decodeAll path files).placed ⟨provider, aliasName⟩
      ⟨known, recorded, member⟩
    obtain ⟨other, requirement, found, listed⟩ := placed.resolve_left required
    refine ⟨other, requirement, ?_, found, listed⟩
    rintro rfl
    exact required (SortedMap.contains_iff.2 ⟨requirement, found⟩)

/-- A file in which one provider lists a configuration of its own and one of another provider. -/
def strayConfiguration : ParsedFile where
  filename := "main.tf.json"
  format := .json
  text := ""
  body := .object [("terraform", .object [("required_providers", .object [("aws", .object [
    ("configuration_aliases", .array [.string "aws.east", .string "gcp.west"])])])])]

theorem strayConfiguration_shown_in_part :
    let m := (Module.new "m").decodeAll [(.primary, strayConfiguration)]
    m.providerAliases.get? "aws" = some ["east"] ∧ ShowsAliases m "aws" ["east"] ∧
    m.providerAliases.get? "gcp" = some ["west"] ∧ ¬ ShowsAliases m "gcp" ["west"] ∧
    ∃ requirement, m.requiredProviders.get? "aws" = some requirement ∧
      ⟨"gcp", "west"⟩ ∈ requirement.configurationAliases := by
  intro m
  have own := recorded_aliases_in_summary "m" [(.primary, strayConfiguration)] "aws" ["east"] rfl
  have stray := recorded_aliases_in_summary "m" [(.primary, strayConfiguration)] "gcp" ["west"] rfl
  have notRequired : ¬ m.requiredProviders.contains "gcp" = true := by decide
  refine ⟨rfl, own.1.2 rfl, rfl, fun shown => notRequired (stray.1.1 shown), ?_⟩
  exact ⟨⟨"", [], [⟨"aws", "east"⟩, ⟨"gcp", "west"⟩]⟩, rfl, by decide⟩

/-- That every provider with an alias is required is false: the file above records an alias of a
provider that no requirement is about. -/
theorem aliased_provider_not_required :
    ¬ ∀ (path : String) (files : List (FileRole × ParsedFile)) (provider : String),
      ((Module.new path).decodeAll files).providerAliases.contains provider = true →
      ((Module.new path).decodeAll files).requiredProviders.contains provider = true := by
  intro required
  have gcpRequired := required "m" [(.primary, strayConfiguration)] "gcp" rfl
  exact absurd gcpRequired (by decide)

end ModuleSurvey.Report
