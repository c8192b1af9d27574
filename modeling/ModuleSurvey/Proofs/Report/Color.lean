import ModuleSurvey.Proofs.Report.LineBreaks
import ModuleSurvey.Proofs.SortedMap
import ModuleSurvey.Report.Summary

/-! # Colors are decoration

With color a styled piece of a line stands between two escape sequences, and without color it is the
text alone. The texts of a module are written as they are. So as long as none of them has an escape
character, the escape sequences of colored output are those of its styles, and taking them out leaves
the output without color.

* `withoutSequences` — a text without its escape sequences.
* `withoutSequences_linesChars` — what is left of colored lines.
* `Module.Unescaped`, `unescaped_summaryLines`, `unescaped_checkLines` — the texts that are written.
* `colors_are_decoration` — the law of summaries, of reports and of the other format.
-/

namespace ModuleSurvey

def Unescaped (s : String) : Prop := Lacks '\x1b' s

instance (s : String) : Decidable (Unescaped s) := inferInstanceAs (Decidable (Lacks _ _))

structure Diagnostic.Unescaped (d : Diagnostic) : Prop where
  summary : ModuleSurvey.Unescaped d.summary
  detail : ModuleSurvey.Unescaped d.detail
  filename : ∀ pos, d.pos = some pos → ModuleSurvey.Unescaped pos.filename

/-- No escape character is in the texts of a module that its summary shows. -/
structure Module.Unescaped (m : Module) : Prop where
  path : ModuleSurvey.Unescaped m.path
  core : ∀ version ∈ m.requiredCore, ModuleSurvey.Unescaped version
  providers : ∀ e ∈ m.requiredProviders.entries, ModuleSurvey.Unescaped e.1 ∧
    ModuleSurvey.Unescaped e.2.source ∧ ∀ version ∈ e.2.versionConstraints, ModuleSurvey.Unescaped version
  aliases : ∀ e ∈ m.providerAliases.toList, ∀ aliasName ∈ e.2, ModuleSurvey.Unescaped aliasName
  inputs : ∀ e ∈ m.inputs.entries, ModuleSurvey.Unescaped e.1 ∧
    (∀ type ∈ e.2.type, ModuleSurvey.Unescaped type) ∧ ModuleSurvey.Unescaped e.2.description
  outputs : ∀ e ∈ m.outputs.entries, ModuleSurvey.Unescaped e.1 ∧
    ModuleSurvey.Unescaped e.2.description
  resources : ∀ mode, ∀ e ∈ (m.resourcesOf mode).entries, ModuleSurvey.Unescaped e.1 ∧
    ModuleSurvey.Unescaped e.2.provider.name ∧ ModuleSurvey.Unescaped e.2.provider.aliasName
  calls : ∀ e ∈ m.moduleCalls.entries, ModuleSurvey.Unescaped e.1 ∧
    ModuleSurvey.Unescaped e.2.source ∧ ModuleSurvey.Unescaped e.2.version
  diagnostics : ∀ d ∈ m.diagnostics, d.Unescaped

namespace Report

/-! ## Taking sequences out -/

def withoutSequences : List Char → List Char
  | '\x1b' :: '[' :: cs =>
    -- A sequence ends with the next `m`.
    match _cut : Text.cutAtFirst? 'm' cs with
    | some (_, behind) => withoutSequences behind
    | none => '\x1b' :: '[' :: cs
  | c :: cs => c :: withoutSequences cs
  | [] => []
termination_by cs => cs.length
decreasing_by
  · obtain ⟨rfl, -⟩ := Text.cutAtFirst?_eq_some_iff.1 _cut
    simp only [List.length_cons, List.length_append]
    omega
  · exact Nat.lt_succ_self _

theorem withoutSequences_cons {c : Char} (plain : c ≠ '\x1b') (cs : List Char) :
    withoutSequences (c :: cs) = c :: withoutSequences cs := by
  rw [withoutSequences]
  rintro _ rfl
  exact absurd rfl plain

theorem withoutSequences_append {before : List Char} (plain : '\x1b' ∉ before) (cs : List Char) :
    withoutSequences (before ++ cs) = before ++ withoutSequences cs := by
  induction before with
  | nil => rfl
  | cons c before inductionHypothesis =>
    obtain ⟨first, more⟩ := not_or.1 (List.mem_cons.not.1 plain)
    rw [List.cons_append, withoutSequences_cons (Ne.symm first), inductionHypothesis more,
      List.cons_append]

theorem withoutSequences_sequence {codes : List Char} (unended : 'm' ∉ codes) (cs : List Char) :
    withoutSequences ('\x1b' :: '[' :: (codes ++ 'm' :: cs)) = withoutSequences cs := by
  have cut : Text.cutAtFirst? 'm' (codes ++ 'm' :: cs) = some (codes, cs) :=
    Text.cutAtFirst?_eq_some_iff.2 ⟨rfl, unended⟩
  rw [withoutSequences]
  split
  case h_1 behind found =>
    rw [cut] at found
    cases found
    rfl
  case h_2 missing =>
    rw [cut] at missing
    cases missing

/-! ## Styled lines -/

theorem withoutSequences_opening (style : Style) (cs : List Char) :
    withoutSequences (style.opening ++ cs) = withoutSequences cs := by
  have unended : 'm' ∉ style.codes.toList := by cases style <;> decide
  have front : style.opening ++ cs = '\x1b' :: '[' :: (style.codes.toList ++ 'm' :: cs) := by
    simp [Style.opening]
  rw [front]
  exact withoutSequences_sequence unended cs

theorem withoutSequences_closing (cs : List Char) :
    withoutSequences (closing ++ cs) = withoutSequences cs := by
  have unended : 'm' ∉ ['0'] := by decide
  exact withoutSequences_sequence unended cs

/-- No style is ended within a text without escape characters, so none is turned on again. -/
theorem reopened_of_plain {opening cs : List Char} (plain : '\x1b' ∉ cs) :
    reopened opening cs = cs := by
  fun_induction reopened opening cs with
  | case1 => exact absurd List.mem_cons_self plain
  | case2 c cs _ inductionHypothesis =>
    exact congrArg (c :: ·) (inductionHypothesis fun later => plain (List.mem_cons_of_mem c later))
  | case3 => rfl

def Span.string : Span → String
  | .plain s | .styled _ s => s

def Line.Unescaped (line : Line) : Prop := ∀ span ∈ line, ModuleSurvey.Unescaped span.string

theorem withoutSequences_span {span : Span} (unescaped : Unescaped span.string) (cs : List Char) :
    withoutSequences (span.chars true ++ cs) = span.chars false ++ withoutSequences cs := by
  cases span with
  | plain s => exact withoutSequences_append unescaped cs
  | styled style s =>
    have plain : '\x1b' ∉ s.toList := unescaped
    have colored : (Span.styled style s).chars true =
        style.opening ++ reopened style.opening s.toList ++ closing := rfl
    -- Between the two sequences stands the text itself.
    rw [colored, reopened_of_plain plain, List.append_assoc, List.append_assoc,
      withoutSequences_opening, withoutSequences_append plain, withoutSequences_closing]
    rfl

theorem withoutSequences_line {line : Line} (unescaped : line.Unescaped) (cs : List Char) :
    withoutSequences (line.chars true ++ cs) = line.chars false ++ withoutSequences cs := by
  induction line with
  | nil => rfl
  | cons span line inductionHypothesis =>
    obtain ⟨first, more⟩ := List.forall_mem_cons.1 unescaped
    have split (color : Bool) : Line.chars color (span :: line) =
        span.chars color ++ Line.chars color line := List.flatMap_cons
    rw [split, split, List.append_assoc, withoutSequences_span first, inductionHypothesis more,
      List.append_assoc]

/-- Colored lines without escape sequences are the lines without color. -/
theorem withoutSequences_linesChars {lines : List Line}
    (unescaped : ∀ line ∈ lines, line.Unescaped) :
    withoutSequences (linesChars true lines) = linesChars false lines := by
  induction lines with
  | nil => exact withoutSequences.eq_3
  | cons line lines inductionHypothesis =>
    obtain ⟨first, more⟩ := List.forall_mem_cons.1 unescaped
    have split (color : Bool) : linesChars color (line :: lines) =
        line.chars color ++ '\n' :: linesChars color lines := by
      simp [linesChars]
    rw [split, split, withoutSequences_line first, withoutSequences_cons (by decide),
      inductionHypothesis more]

/-! ## The texts that are written -/

section

variable {line more : Line} {name description : String} {tags : List String}

theorem Line.Unescaped.append (first : line.Unescaped) (later : more.Unescaped) :
    Line.Unescaped (line ++ more) :=
  List.forall_mem_append.2 ⟨first, later⟩

theorem Line.Unescaped.cons {span : Span} (first : ModuleSurvey.Unescaped span.string)
    (later : line.Unescaped) : Line.Unescaped (span :: line) :=
  List.forall_mem_cons.2 ⟨first, later⟩

theorem unescaped_nil : Line.Unescaped [] := List.forall_mem_nil _

theorem Line.Unescaped.unless {p : Prop} [Decidable p] (otherwise : line.Unescaped) :
    Line.Unescaped (if p then [] else line) := by
  split
  · exact unescaped_nil
  · exact otherwise

theorem unescaped_commas {words : List String} (parts : ∀ word ∈ words, Unescaped word) :
    Unescaped (commas words) :=
  lacks_intercalate (by decide) parts

theorem unescaped_entryLine (named : Unescaped name) (tagged : ∀ tag ∈ tags, Unescaped tag)
    (described : Unescaped description) : (entryLine name tags description).Unescaped := by
  have joints : Unescaped "  " ∧ Unescaped " [" ∧ Unescaped "]" ∧ Unescaped " - " := by decide
  obtain ⟨indent, opened, closed, dash⟩ := joints
  refine Line.Unescaped.append (Line.Unescaped.append ?_ (.unless ?_)) (.unless ?_)
  · exact .cons indent (.cons named unescaped_nil)
  · exact .cons ((opened.append (unescaped_commas tagged)).append closed) unescaped_nil
  · exact .cons dash (.cons described unescaped_nil)

theorem unescaped_arrowLine {target : String} (named : Unescaped name) (destination : Unescaped target) :
    (arrowLine name target).Unescaped := by
  have joints : Unescaped "  " ∧ Unescaped " → " := by decide
  obtain ⟨indent, arrow⟩ := joints
  exact .cons indent (.cons named (.cons (arrow.append destination) unescaped_nil))

theorem unescaped_diagnosticLine {d : Diagnostic} (unescaped : d.Unescaped) :
    (diagnosticLine d).Unescaped := by
  have joints : Unescaped "Error:" ∧ Unescaped "Warning:" ∧ Unescaped " " ∧ Unescaped "; " ∧
      Unescaped "(" ∧ Unescaped ":" ∧ Unescaped ")" := by decide
  obtain ⟨error, warning, space, semicolon, opened, colon, closed⟩ := joints
  obtain ⟨summary, detail, filename⟩ := unescaped
  refine Line.Unescaped.append (Line.Unescaped.append (.cons ?_ ?_) (.unless ?_)) ?_
  · cases d.severity
    · exact error
    · exact warning
  · exact .cons (space.append summary) unescaped_nil
  · exact .cons (semicolon.append detail) unescaped_nil
  · cases placed : d.pos with
    | none => exact unescaped_nil
    | some pos =>
      have line : Unescaped (toString pos.line) := lacks_toString (by decide) pos.line
      have text : Unescaped pos.text := ((filename pos placed).append colon).append line
      exact .cons space (.cons ((opened.append text).append closed) unescaped_nil)

theorem unescaped_verdictLine (ds : Diagnostics) (r : CheckReport) :
    (verdictLine ds r).Unescaped := by
  have joints : Unescaped " error(s), " ∧ Unescaped " warning(s)" ∧ Unescaped "✗ " ∧
      Unescaped "✓ " ∧ Unescaped "✓ No problems found" := by decide
  obtain ⟨errors, warnings, failed, passed, clean⟩ := joints
  have number (n : Nat) : Unescaped (toString n) := lacks_toString (by decide) n
  have totals : Unescaped (toString r.errors ++ " error(s), " ++ toString r.warnings ++ " warning(s)") :=
    (((number _).append errors).append (number _)).append warnings
  simp only [verdictLine]
  split
  · exact .cons clean unescaped_nil
  · split
    · exact .cons (failed.append totals) unescaped_nil
    · exact .cons (passed.append totals) unescaped_nil

theorem unescaped_checkLines {ds : Diagnostics} (unescaped : ∀ d ∈ ds, d.Unescaped)
    (r : CheckReport) : ∀ line ∈ checkLines ds r, line.Unescaped := by
  refine List.forall_mem_append.2 ⟨?_, List.forall_mem_singleton.2 (unescaped_verdictLine ds r)⟩
  exact List.forall_mem_map.2 fun d member => unescaped_diagnosticLine (unescaped d member)

theorem unescaped_providerLine {m : Module} {r : ProviderRequirement} (named : Unescaped name)
    (source : Unescaped r.source) (versions : ∀ version ∈ r.versionConstraints, Unescaped version)
    (aliases : ∀ known, m.providerAliases.get? name = some known →
      ∀ aliasName ∈ known, Unescaped aliasName) : (providerLine m name r).Unescaped := by
  have joints : Unescaped "  " ∧ Unescaped " (" ∧ Unescaped ")" ∧ Unescaped " " ∧
      Unescaped " aliases: " := by decide
  obtain ⟨indent, opened, closed, space, known⟩ := joints
  refine .append (.append (.append ?_ (.unless ?_)) (.unless ?_)) ?_
  · exact .cons indent (.cons named unescaped_nil)
  · exact .cons ((opened.append source).append closed) unescaped_nil
  · exact .cons (space.append (unescaped_commas versions)) unescaped_nil
  · cases recorded : m.providerAliases.get? name with
    | none => exact unescaped_nil
    | some names =>
      exact .cons (known.append (unescaped_commas (aliases names recorded))) unescaped_nil

theorem unescaped_variableLine {v : Variable} (named : Unescaped name)
    (typed : ∀ type ∈ v.type, Unescaped type) (described : Unescaped v.description) :
    (variableLine name v).Unescaped := by
  have words : Unescaped "required" ∧ Unescaped "sensitive" := by decide
  refine unescaped_entryLine named (fun tag member => ?_) described
  rw [List.mem_append, List.mem_append, Option.mem_toList] at member
  rcases member with (isType | isRequired) | isSensitive
  · exact typed tag isType
  · obtain rfl : tag = "required" := by simp_all
    exact words.1
  · obtain rfl : tag = "sensitive" := by simp_all
    exact words.2

theorem unescaped_outputLine {o : Output} (named : Unescaped name)
    (described : Unescaped o.description) : (outputLine name o).Unescaped := by
  have word : Unescaped "sensitive" := by decide
  refine unescaped_entryLine named (fun tag member => ?_) described
  obtain rfl : tag = "sensitive" := by simp_all
  exact word

theorem unescaped_text {r : ProviderRef} (named : Unescaped r.name) (aliased : Unescaped r.aliasName) :
    Unescaped r.text := by
  have dot : Unescaped "." := by decide
  rw [ProviderRef.text]
  split
  · exact named
  · exact (named.append dot).append aliased

theorem unescaped_callLine {c : ModuleCall} (named : Unescaped name) (source : Unescaped c.source)
    (version : Unescaped c.version) : (callLine name c).Unescaped := by
  have joints : Unescaped "" ∧ Unescaped " (" ∧ Unescaped ")" := by decide
  obtain ⟨empty, opened, closed⟩ := joints
  refine unescaped_arrowLine named (source.append ?_)
  split
  · exact empty
  · exact (opened.append version).append closed

theorem unescaped_sectionLines {title : String} {entries : List Line} (titled : Unescaped title)
    (unescaped : ∀ line ∈ entries, line.Unescaped) :
    ∀ line ∈ sectionLines title entries, line.Unescaped := by
  have joints : Unescaped " (" ∧ Unescaped "):" ∧ Unescaped "  " ∧ Unescaped "(none)" := by decide
  obtain ⟨opened, closed, indent, nothing⟩ := joints
  have number : Unescaped (toString entries.length) := lacks_toString (by decide) _
  refine List.forall_mem_cons.2 ⟨?_, ?_⟩
  · exact .cons (((titled.append opened).append number).append closed) unescaped_nil
  · split
    · exact List.forall_mem_singleton.2 (.cons indent (.cons nothing unescaped_nil))
    · exact unescaped

theorem unescaped_mapLines {α : Type} {f : String → α → Line} {map : SortedMap α}
    (unescaped : ∀ e ∈ map.entries, (f e.1 e.2).Unescaped) :
    ∀ line ∈ mapLines f map, line.Unescaped :=
  List.forall_mem_map.2 unescaped

theorem unescaped_summaryLines {m : Module} (unescaped : m.Unescaped) :
    ∀ line ∈ summaryLines m, line.Unescaped := by
  have titles : Unescaped "Providers" ∧ Unescaped "Variables" ∧ Unescaped "Outputs" ∧
      Unescaped "Managed resources" ∧ Unescaped "Data resources" ∧ Unescaped "Module calls" ∧
      Unescaped "Diagnostics" ∧ Unescaped "Module:" ∧ Unescaped "  Core version: " ∧
      Unescaped " " ∧ Unescaped "  " := by decide
  obtain ⟨providers, inputs, outputs, managed, data, calls, problems, heading, core, space,
    indent⟩ := titles
  have resources (mode : ResourceMode) :
      ∀ line ∈ mapLines (fun a r => arrowLine a r.provider.text) (m.resourcesOf mode),
        line.Unescaped :=
    unescaped_mapLines fun e member =>
      have ⟨named, provider, aliased⟩ := unescaped.resources mode e member
      unescaped_arrowLine named (unescaped_text provider aliased)
  simp only [summaryLines, List.forall_mem_append, List.forall_mem_singleton, unescaped_nil, and_true]
  refine ⟨⟨⟨⟨⟨⟨⟨⟨?_, ?_⟩, ?_⟩, ?_⟩, ?_⟩, ?_⟩, ?_⟩, ?_⟩, ?_⟩
  · exact .cons heading (.cons (space.append unescaped.path) unescaped_nil)
  · split
    · exact List.forall_mem_nil _
    · exact List.forall_mem_singleton.2
        (.cons (core.append (unescaped_commas unescaped.core)) unescaped_nil)
  · refine unescaped_sectionLines providers (unescaped_mapLines fun e member => ?_)
    obtain ⟨named, source, versions⟩ := unescaped.providers e member
    refine unescaped_providerLine named source versions fun known recorded => ?_
    exact unescaped.aliases (e.1, known) (SortedMap.mem_of_lookupEntry recorded)
  · refine unescaped_sectionLines inputs (unescaped_mapLines fun e member => ?_)
    obtain ⟨named, typed, described⟩ := unescaped.inputs e member
    exact unescaped_variableLine named typed described
  · refine unescaped_sectionLines outputs (unescaped_mapLines fun e member => ?_)
    obtain ⟨named, described⟩ := unescaped.outputs e member
    exact unescaped_outputLine named described
  · exact unescaped_sectionLines managed (resources .managed)
  · exact unescaped_sectionLines data (resources .data)
  · refine unescaped_sectionLines calls (unescaped_mapLines fun e member => ?_)
    obtain ⟨named, source, version⟩ := unescaped.calls e member
    exact unescaped_callLine named source version
  · split
    · exact List.forall_mem_nil _
    · refine List.forall_mem_append.2 ⟨List.forall_mem_singleton.2 unescaped_nil, ?_⟩
      refine unescaped_sectionLines problems (List.forall_mem_map.2 fun d member => ?_)
      exact .cons indent (unescaped_diagnosticLine (unescaped.diagnostics d member))

end

/-! ## The law -/

/-- Where no text of a module has an escape character, taking the escape sequences out of its colored
summary, and out of the colored report of its problems at any level, leaves the same without color.
The other format has no colors. -/
theorem colors_are_decoration (m : Module) (unescaped : m.Unescaped) :
    (∀ pretty, withoutSequences (render m .summary pretty true).toList =
      (render m .summary pretty false).toList) ∧
    (∀ failOn, let report := CheckReport.evaluate m.diagnostics failOn
      withoutSequences (linesText true (checkLines m.diagnostics report)).toList =
        (linesText false (checkLines m.diagnostics report)).toList) ∧
    ∀ pretty, render m .json pretty true = render m .json pretty false := by
  refine ⟨fun pretty => ?_, fun failOn => ?_, fun _ => rfl⟩
  · simp only [render, linesText, String.toList_ofList]
    exact withoutSequences_linesChars (unescaped_summaryLines unescaped)
  · simp only [linesText, String.toList_ofList]
    exact withoutSequences_linesChars (unescaped_checkLines unescaped.diagnostics _)

def faultyNetwork : Module :=
  { Module.new "net" with
    inputs := .ofList
      [("region", { Variable.new "region" ⟨"net/main.tf", 1⟩ with description := "where" })]
    requiredProviders := .ofList [("aws", ⟨"hashicorp/aws", [">= 5"], []⟩)]
    providerAliases := ProviderAliases.empty.add "aws" "west"
    diagnostics := [.errorAt ⟨"net/main.tf", 4⟩ "Missing source for module call" "vpc"] }

theorem faultyNetwork_colored :
    let shown (color : Bool) := (render faultyNetwork .summary true color).toList
    let report := CheckReport.evaluate faultyNetwork.diagnostics .warning
    let told (color : Bool) := (linesText color (checkLines faultyNetwork.diagnostics report)).toList
    faultyNetwork.Unescaped ∧ shown true ≠ shown false ∧ withoutSequences (shown true) = shown false ∧
      told true ≠ told false ∧ withoutSequences (told true) = told false := by
  intro shown report told
  have unescaped : faultyNetwork.Unescaped :=
    { path := by decide
      core := by decide
      providers := by decide
      aliases := by decide
      inputs := by decide
      outputs := by decide
      resources := by rintro ⟨⟩ <;> decide
      calls := by decide
      diagnostics := by
        refine List.forall_mem_singleton.2 ⟨by decide, by decide, ?_⟩
        rintro _ ⟨⟩
        decide }
  obtain ⟨summary, problems, -⟩ := colors_are_decoration faultyNetwork unescaped
  -- Colored output begins with an escape character, the other one with a letter.
  have differ {lines : List Line} (first : (linesChars true lines).head? ≠ (linesChars false lines).head?) :
      (linesText true lines).toList ≠ (linesText false lines).toList := by
    rw [linesText, linesText, String.toList_ofList, String.toList_ofList]
    exact fun same => first (congrArg List.head? same)
  refine ⟨unescaped, differ ?_, summary true, differ ?_, problems .warning⟩
  · decide
  · decide

end Report

end ModuleSurvey
