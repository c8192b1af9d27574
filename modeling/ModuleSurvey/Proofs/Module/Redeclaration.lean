import ModuleSurvey.Proofs.Module.Duplicates
import ModuleSurvey.Proofs.Module.Repetition

/-! # Targets declared once more

In primary files the blocks of a target form a chain. Every block but the first one is reported, at
the place that is looked up for it, and the report cites the place of the block before it, whatever
other blocks and files come in between. Override files take no part in this: a block of theirs
amends its target, or adds one that is missing, and replaces none.

* `Problem.eq_duplicate_of_summary` — the problems that are reported with the words of a duplicate.
* `Module.exists_entryProblem_of_mem` — what a run reports about entries.
* `ParsedFile.placed`, `Target.placesAmong` — the blocks of a file with their places, and the places
  of a target.
* `redeclarations_reported` — the law.
-/

namespace ModuleSurvey

open Json (Value Members)

/-! ## Summaries -/

theorem Problem.eq_duplicate_of_summary {problem : Problem} {kind : String}
    (words : problem.summary = "Duplicate " ++ kind ++ " declaration") :
    ∃ name previous, problem = .duplicate kind name previous := by
  cases problem with
  | duplicate own name previous =>
    have sameKind : own = kind := by simpa [summary] using words
    exact ⟨name, previous, by rw [sameKind]⟩
  | missingBase own name =>
    have letters := congrArg String.toList words
    simp [summary] at letters
  | noBody | malformedBlock | invalidAttribute | malformedRequirement | severalSources
  | missingSource => exact absurd words (summary_of_not_isAboutEntry rfl kind).2

theorem Problem.eq_missingBase_of_summary {problem : Problem} {kind : String}
    (words : problem.summary = "Missing base " ++ kind ++ " declaration to override") :
    ∃ name, problem = .missingBase kind name := by
  cases problem with
  | missingBase own name =>
    have sameKind : own = kind := by simpa [summary] using words
    exact ⟨name, by rw [sameKind]⟩
  | duplicate own name previous =>
    have letters := congrArg String.toList words
    simp [summary] at letters
  | noBody | malformedBlock | invalidAttribute | malformedRequirement | severalSources
  | missingSource => exact absurd words (summary_of_not_isAboutEntry rfl kind).1

/-! ## What a run reports about entries -/

namespace Module

theorem exists_entryProblem_of_mem {role : FileRole} {statements : List Statement} {m : Module}
    {found : SourcePos × Problem} (reported : found ∈ m.problemsAll role statements)
    (aboutEntry : found.2.isAboutEntry = true) :
    ∃ (target : Target) (place? : Option SourcePos),
      found.2 ∈ entryProblems role target.kind target.name place? := by
  induction statements generalizing m with
  | nil => cases reported
  | cons s statements inductionHypothesis =>
    rcases List.mem_append.1 reported with now | later
    · obtain ⟨problem, member, rfl⟩ := List.mem_map.1 now
      have kept := List.mem_filter.2 ⟨member, aboutEntry⟩
      rw [filter_isAboutEntry_reports] at kept
      cases aimed : s.target? with
      | none => simp [aimed] at kept
      | some target =>
        rw [aimed] at kept
        exact ⟨target, _, kept⟩
    · exact inductionHypothesis later

variable {statements : List Statement} {m : Module} {found : SourcePos × Problem} {kind : String}

/-- In primary files the words of a duplicate are those of a duplicate of a target. -/
theorem exists_isDuplicateOf_of_summary (reported : found ∈ m.problemsAll .primary statements)
    (words : found.2.summary = "Duplicate " ++ kind ++ " declaration") :
    ∃ target : Target, target.kind = kind ∧ found.2.isDuplicateOf target = true := by
  obtain ⟨name, previous, isDuplicate⟩ := Problem.eq_duplicate_of_summary words
  obtain ⟨target, place?, ofEntry⟩ := exists_entryProblem_of_mem reported (by rw [isDuplicate]; rfl)
  cases place? with
  | none => cases ofEntry
  | some place =>
    have isOfTarget : found.2 = .duplicate target.kind target.name place := by
      simpa [entryProblems] using ofEntry
    rw [isOfTarget] at isDuplicate ⊢
    exact ⟨target, (Problem.duplicate.inj isDuplicate).1, by simp [Problem.isDuplicateOf]⟩

theorem summary_ne_missingBase_of_primary (reported : found ∈ m.problemsAll .primary statements) :
    found.2.summary ≠ "Missing base " ++ kind ++ " declaration to override" := by
  intro words
  obtain ⟨name, isMissing⟩ := Problem.eq_missingBase_of_summary words
  obtain ⟨target, place?, ofEntry⟩ := exists_entryProblem_of_mem reported (by rw [isMissing]; rfl)
  cases place? <;> simp [isMissing, entryProblems] at ofEntry

theorem summary_ne_duplicate_of_override (reported : found ∈ m.problemsAll .override statements) :
    found.2.summary ≠ "Duplicate " ++ kind ++ " declaration" := by
  intro words
  obtain ⟨name, previous, isDuplicate⟩ := Problem.eq_duplicate_of_summary words
  obtain ⟨target, place?, ofEntry⟩ := exists_entryProblem_of_mem reported (by rw [isDuplicate]; rfl)
  cases place? <;> simp [isDuplicate, entryProblems] at ofEntry

end Module

/-! ## The blocks of files -/

def ParsedFile.placed (file : ParsedFile) : List ((BlockType × Block) × SourcePos) :=
  (BlockIndex.scan file.filename file.format file.text).placed (Block.ofBody file.body)

def Target.placesAmong (target : Target) (blocks : List ((BlockType × Block) × SourcePos)) :
    List SourcePos :=
  (blocks.filter fun block => ofBlock? block.1 = some target).map Prod.snd

variable {files : List ParsedFile}

theorem ParsedFile.map_placed?_statements
    (shaped : ∀ file ∈ files, Block.BodyShaped file.body) :
    (files.flatMap statements).map Statement.placed? =
      (files.flatMap placed).map fun block => (some block.1, block.2) := by
  rw [List.map_flatMap, List.map_flatMap]
  exact List.flatMap_congr fun file member => Statement.map_placed?_ofBody (shaped file member) _

theorem Target.placesOf_statements (target : Target)
    (shaped : ∀ file ∈ files, Block.BodyShaped file.body) :
    target.placesOf (files.flatMap ParsedFile.statements) =
      target.placesAmong (files.flatMap ParsedFile.placed) := by
  let isAimed (block : Option (BlockType × Block) × SourcePos) : Bool :=
    block.1.bind ofBlock? = some target
  have kept := congrArg (fun blocks => (blocks.filter isAimed).map Prod.snd)
    (ParsedFile.map_placed?_statements shaped)
  have ofStatements : target.placesOf (files.flatMap ParsedFile.statements) =
      (((files.flatMap ParsedFile.statements).map Statement.placed?).filter isAimed).map Prod.snd := by
    simp only [List.filter_map, List.map_map, placesOf, Statement.target?_eq]
    rfl
  rw [ofStatements, kept, List.filter_map, List.map_map]
  rfl

theorem Target.length_placesAmong (target : Target) (files : List ParsedFile) :
    (target.placesAmong (files.flatMap ParsedFile.placed)).length =
      target.count (files.flatMap fun file => Block.ofBody file.body) := by
  have blocks : (files.flatMap ParsedFile.placed).map Prod.fst =
      files.flatMap fun file => Block.ofBody file.body := by
    rw [List.map_flatMap]
    exact List.flatMap_congr fun file _ => BlockIndex.map_fst_placed _ _
  rw [placesAmong, List.length_map, ← List.countP_eq_length_filter, ← blocks, count, List.countP_map]
  rfl

/-! ## The law -/

/-- After any sequence of primary files the duplicates that are reported of a target are one for
each of its blocks but the first, at the place that is looked up for the block, and each cites the
place of the block before. So there is none of a target that is declared once or not at all. Nothing else is
reported in the words of a duplicate, and nothing in those of a missing base. And an override file
never reports a duplicate, whatever the module is that it is brought into. -/
theorem redeclarations_reported (path : String) (files : List ParsedFile)
    (shaped : ∀ file ∈ files, Block.BodyShaped file.body) :
    let m := (Module.new path).decodeAll (files.map fun file => (.primary, file))
    let reported := (Module.new path).problemsAll .primary (files.flatMap ParsedFile.statements)
    let duplicates := fun target : Target =>
      target.redeclared (target.placesAmong (files.flatMap ParsedFile.placed))
    m.diagnostics = reported.map (fun found => found.2.diagnostic found.1) ∧
    (∀ target, reported.filter (·.2.isDuplicateOf target) = duplicates target ∧
      (duplicates target).length =
        target.count (files.flatMap fun file => Block.ofBody file.body) - 1) ∧
    (∀ d ∈ m.diagnostics, ∀ kind, d.summary = "Duplicate " ++ kind ++ " declaration" →
      ∃ target : Target, target.kind = kind ∧
        ∃ found ∈ duplicates target, d = found.2.diagnostic found.1) ∧
    (∀ d ∈ m.diagnostics, ∀ kind,
      d.summary ≠ "Missing base " ++ kind ++ " declaration to override") ∧
    ∀ (m : Module) (overrides : List ParsedFile), ∃ reported : Diagnostics,
      (m.decodeAll (overrides.map fun file => (.override, file))).diagnostics =
        m.diagnostics ++ reported ∧
      ∀ d ∈ reported, ∀ kind, d.summary ≠ "Duplicate " ++ kind ++ " declaration" := by
  intro m reported duplicates
  have diagnostics : m.diagnostics = reported.map fun found => found.2.diagnostic found.1 :=
    Module.diagnostics_decodeAll_of_role .primary files (Module.new path)
  have ofTarget : ∀ target, reported.filter (·.2.isDuplicateOf target) = duplicates target := by
    intro target
    have unplaced : (Module.new path).place? target = none := by
      cases target with
      | resource mode address => cases mode <;> rfl
      | inputVariable | output | moduleCall => rfl
    have cited := Module.filter_isDuplicateOf_problemsAll target
      (files.flatMap ParsedFile.statements) (Module.new path)
    rwa [unplaced, target.placesOf_statements shaped] at cited
  refine ⟨diagnostics, fun target => ⟨ofTarget target, ?_⟩, ?_, ?_, ?_⟩
  · rw [Target.length_redeclared, Target.length_placesAmong]
  · intro d member kind words
    rw [diagnostics] at member
    obtain ⟨found, isReported, rfl⟩ := List.mem_map.1 member
    obtain ⟨target, sameKind, isDuplicate⟩ :=
      Module.exists_isDuplicateOf_of_summary isReported words
    refine ⟨target, sameKind, found, ?_, rfl⟩
    exact ofTarget target ▸ List.mem_filter.2 ⟨isReported, isDuplicate⟩
  · intro d member kind
    rw [diagnostics] at member
    obtain ⟨found, isReported, rfl⟩ := List.mem_map.1 member
    exact Module.summary_ne_missingBase_of_primary isReported
  · intro m overrides
    refine ⟨_, Module.diagnostics_decodeAll_of_role .override overrides m, ?_⟩
    intro d member kind
    obtain ⟨found, isReported, rfl⟩ := List.mem_map.1 member
    exact Module.summary_ne_duplicate_of_override isReported

def redeclaringFiles : List ParsedFile :=
  [⟨"a.tf.json", .json,
      "\x7b\"data\": \x7b\"aws_ami\": \x7b\"web\": \x7b\x7d\x7d\x7d,\n" ++
        " \"variable\": [\x7b\"zone\": \x7b\x7d\x7d,\n \x7b\"zone\": \x7b\x7d\x7d]\x7d",
      .object [
        ("data", .object [("aws_ami", .object [("web", .object [])])]),
        ("variable", .array [.object [("zone", .object [])], .object [("zone", .object [])]])]⟩,
    ⟨"b.tf", .native, "variable \"zone\" \x7b\x7d\ndata \"aws_ami\" \"web\" \x7b\x7d\n",
      .object [
        ("data", .object [("aws_ami", .object [("web", .object [])])]),
        ("variable", .object [("zone", .object [])])]⟩]

theorem redeclaringFiles_reported :
    let m := (Module.new "m").decodeAll (redeclaringFiles.map fun file => (.primary, file))
    (∀ file ∈ redeclaringFiles, Block.BodyShaped file.body) ∧
    (∀ target, ((Module.new "m").problemsAll .primary
        (redeclaringFiles.flatMap ParsedFile.statements)).filter (·.2.isDuplicateOf target) =
      target.redeclared (target.placesAmong (redeclaringFiles.flatMap ParsedFile.placed))) ∧
    (Target.inputVariable "zone").placesAmong (redeclaringFiles.flatMap ParsedFile.placed) =
      [⟨"a.tf.json", 2⟩, ⟨"a.tf.json", 3⟩, ⟨"b.tf", 1⟩] ∧
    m.diagnostics = [
      (Problem.duplicate "variable" "zone" ⟨"a.tf.json", 2⟩).diagnostic ⟨"a.tf.json", 3⟩,
      (Problem.duplicate "data resource" "data.aws_ami.web" ⟨"a.tf.json", 1⟩).diagnostic ⟨"b.tf", 2⟩,
      (Problem.duplicate "variable" "zone" ⟨"a.tf.json", 3⟩).diagnostic ⟨"b.tf", 1⟩] := by
  intro m
  have shaped : ∀ file ∈ redeclaringFiles, Block.BodyShaped file.body := by decide
  obtain ⟨diagnostics, duplicates, -⟩ := redeclarations_reported "m" redeclaringFiles shaped
  refine ⟨shaped, fun target => (duplicates target).1, by decide +kernel, ?_⟩
  exact diagnostics.trans (by decide +kernel)

end ModuleSurvey
