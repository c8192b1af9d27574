import ModuleSurvey.Proofs.Module.Repetition
import ModuleSurvey.Proofs.Module.RequiredProviders

/-! # Sources of providers

The source of a provider may be given any number of times. In primary files the first one that is
not empty is kept, and each later one that differs from it is reported, at the place of its block.
Whatever else mentions the provider in between has no say in this, even where it is what the
requirement for the provider goes back to.

* `Statement.sources`, `Statement.offers` — the sources that a block gives for a provider, in order.
* `keptSource`, `contradictions` — the source that is kept, and the problems of the others.
* `Books.source_writeAll`, `Books.filter_isConflictOf_problems` — what the remarks of a statement
  do.
* `Module.filter_isConflictOf_problemsAll` — what a run of statements reports.
* `provider_sources_settled` — the law.
-/

namespace ModuleSurvey

open Json (Value Members)

/-! ## Sources that are given -/

def givenSource? : Value → Option String
  | .object attrs => (Attribute.string attrs "source").value?
  | .null | .bool _ | .number _ | .string _ | .array _ => none

def Statement.sources (provider : String) : Statement → List String
  | .terraform _ body =>
    (requirementEntries body).filterMap fun e => if e.1 = provider then givenSource? e.2 else none
  | .provider .. | .inputVariable .. | .output .. | .resource .. | .moduleCall .. | .malformed ..
  | .noBody _ => []

def Statement.offers (provider : String) (s : Statement) : List (SourcePos × String) :=
  (s.sources provider).map (s.pos, ·)

theorem Note.about_of_none {γ : Type} {provider : String} {say? : Note → Option γ} {note : Note}
    (unsaid : say? note = none) : note.about provider say? = none := by
  rw [about, unsaid, ite_self]

theorem map_snd_at (pos : SourcePos) (addresses : List String) :
    (addresses.map (pos, ·)).map Prod.snd = addresses := by
  simp [Function.comp_def]

def sourcesIn (provider : String) (notes : List Note) : List String :=
  notes.filterMap (Note.about provider Note.address?)

theorem sourcesIn_cons (provider : String) (note : Note) (notes : List Note) :
    sourcesIn provider (note :: notes) =
      (note.about provider Note.address?).toList ++ sourcesIn provider notes := by
  rw [sourcesIn, List.filterMap_cons]
  cases note.about provider Note.address? <;> rfl

theorem sourcesIn_append (provider : String) (first more : List Note) :
    sourcesIn provider (first ++ more) = sourcesIn provider first ++ sourcesIn provider more :=
  List.filterMap_append

theorem sourcesIn_flatMap {γ : Type} (provider : String) (notes : γ → List Note) (cs : List γ) :
    sourcesIn provider (cs.flatMap notes) = cs.flatMap fun c => sourcesIn provider (notes c) :=
  List.filterMap_flatMap

theorem sourcesIn_eq_nil {provider : String} {notes : List Note}
    (sourceless : ∀ note ∈ notes, note.address? = none) : sourcesIn provider notes = [] :=
  List.filterMap_eq_nil_iff.2 fun note noted => Note.about_of_none (sourceless note noted)

theorem sourcesIn_requirementNotes (wanted provider : String) (value : Value) :
    sourcesIn wanted (requirementNotes provider value) =
      (if provider = wanted then givenSource? value else none).toList := by
  by_cases same : provider = wanted
  · subst same
    rw [if_pos rfl]
    cases value with
    | string constraint => exact sourcesIn_eq_nil (by simp [requirementNotes, Note.address?])
    | object attrs =>
      have constraints (given : List String) :
          sourcesIn provider (given.map (.version provider)) = [] :=
        sourcesIn_eq_nil (by simp [Note.address?])
      have configurations (given : List String) : sourcesIn provider (given.map fun aliasName =>
          .configuration provider (.parse (unwrapTemplate aliasName))) = [] :=
        sourcesIn_eq_nil (by simp [Note.address?])
      rw [requirementNotes, sourcesIn_append, sourcesIn_append, constraints, configurations,
        List.append_nil, List.append_nil, givenSource?]
      cases Attribute.string attrs "source" with
      | given source =>
        simp [sourcesIn, Note.about, Note.provider, Note.address?, Attribute.value?]
      | missing | null => exact sourcesIn_eq_nil (by simp [Note.address?])
      | rejected => rfl
    | null | bool | number | array => rfl
  · rw [if_neg same]
    refine List.filterMap_eq_nil_iff.2 fun note noted => ?_
    exact if_neg (provider_of_mem_requirementNotes noted ▸ same)

theorem sourcesIn_notes (provider : String) (s : Statement) :
    sourcesIn provider s.notes = s.sources provider := by
  cases s with
  | terraform pos body =>
    rw [notes_terraform, sourcesIn_flatMap, Statement.sources, List.filterMap_eq_flatMap_toList]
    simp only [sourcesIn_requirementNotes]
  | provider pos name body =>
    refine sourcesIn_eq_nil ?_
    simp only [Statement.notes, List.cons_append, List.mem_cons, List.mem_append, List.mem_map]
    rintro note (rfl | ⟨constraint, -, rfl⟩ | ⟨aliasName, -, rfl⟩) <;> rfl
  | resource pos mode type name body =>
    refine sourcesIn_eq_nil fun note noted => ?_
    obtain rfl := List.mem_singleton.1 noted
    unfold ProviderRef.note
    split <;> rfl
  | inputVariable | output | moduleCall | malformed | noBody => rfl

/-! ## The source that is kept -/

/-- Of the sources that are given one after the other the first one that is not empty is kept. -/
def keptSource (sources : List String) : String := (sources.find? (· ≠ "")).getD ""

theorem keptSource_singleton (address : String) : keptSource [address] = address := by
  by_cases empty : address = "" <;> simp [keptSource, empty]

theorem keptSource_of_unknown (sources : List String) :
    keptSource ("" :: sources) = keptSource sources := rfl

theorem keptSource_cons_cons (known address : String) (sources : List String) :
    keptSource (known :: address :: sources) =
      keptSource ((if known = "" then address else known) :: sources) := by
  by_cases unknown : known = "" <;> simp [keptSource, unknown]

theorem keptSource_append (known : String) (first more : List String) :
    keptSource (known :: (first ++ more)) = keptSource (keptSource (known :: first) :: more) := by
  induction first generalizing known with
  | nil => rw [List.nil_append, keptSource_singleton]
  | cons address first inductionHypothesis =>
    rw [List.cons_append, keptSource_cons_cons, keptSource_cons_cons, inductionHypothesis]

def contradictions (provider : String) (offers : List (SourcePos × String)) :
    List (SourcePos × Problem) :=
  let kept := keptSource (offers.map Prod.snd)
  -- Each source from the kept one on that differs from it.
  ((offers.dropWhile (·.2 = "")).filter (·.2 ≠ kept)).map fun offer =>
    (offer.1, .severalSources provider kept offer.2)

variable {provider : String}

theorem contradictions_singleton (offer : SourcePos × String) :
    contradictions provider [offer] = [] := by
  by_cases unknown : offer.2 = "" <;> simp [contradictions, keptSource, unknown]

theorem contradictions_of_unknown (place : SourcePos) (offers : List (SourcePos × String)) :
    contradictions provider ((place, "") :: offers) = contradictions provider offers := by
  simp [contradictions, keptSource]

/-- A source that is given after another one is a problem if that one is known and differs from it;
where the other one is not known, it takes its place. -/
theorem contradictions_cons_cons (known address : String) (place pos : SourcePos)
    (offers : List (SourcePos × String)) :
    contradictions provider ((place, known) :: (pos, address) :: offers) =
      (if known = "" ∨ known = address then []
        else [(pos, .severalSources provider known address)]) ++
      contradictions provider ((place, if known = "" then address else known) :: offers) := by
  -- An unknown source is passed over, and the one behind it is the first to be considered.
  by_cases unknown : known = ""
  · by_cases empty : address = "" <;> simp [contradictions, keptSource, unknown, empty]
  · by_cases same : known = address
    · simp [contradictions, keptSource, unknown, ← same]
    · simp [contradictions, keptSource, unknown, same, Ne.symm same]

theorem contradictions_append (known : String) (place : SourcePos)
    (first more : List (SourcePos × String)) :
    contradictions provider ((place, known) :: (first ++ more)) =
      contradictions provider ((place, known) :: first) ++
        contradictions provider ((place, keptSource (known :: first.map Prod.snd)) :: more) := by
  induction first generalizing known with
  | nil => simp [contradictions_singleton, keptSource_singleton]
  | cons offer first inductionHypothesis =>
    obtain ⟨pos, address⟩ := offer
    rw [List.cons_append, contradictions_cons_cons, contradictions_cons_cons, inductionHypothesis,
      List.append_assoc, List.map_cons, keptSource_cons_cons]

/-! ## Remarks -/

def Problem.isConflictOf (provider : String) : Problem → Bool
  | severalSources other .. => other = provider
  | _ => false

theorem Problem.not_isConflictOf_of_isAboutBlock {problem : Problem}
    (aboutBlock : problem.isAboutBlock = true) : problem.isConflictOf provider = false := by
  cases problem <;> first | rfl | cases aboutBlock

theorem Problem.not_isConflictOf_of_isAboutEntry {problem : Problem}
    (aboutEntry : problem.isAboutEntry = true) : problem.isConflictOf provider = false := by
  cases problem <;> first | rfl | cases aboutEntry

namespace Books

theorem source_write_eq (b : Books) (note : Note) :
    (b.write .primary note).source provider =
      keptSource (b.source provider :: (note.about provider Note.address?).toList) := by
  rw [source_write, Note.about]
  split
  case isTrue about =>
    cases note.address? with
    | none => exact (keptSource_singleton _).symm
    | some address => exact ((keptSource_cons_cons ..).trans (keptSource_singleton _)).symm
  case isFalse => exact (keptSource_singleton _).symm

/-- The source after notes is the first one that is not empty, of the one before and those that the
notes give. -/
theorem source_writeAll (b : Books) (notes : List Note) :
    (b.writeAll .primary notes).source provider =
      keptSource (b.source provider :: sourcesIn provider notes) := by
  induction notes generalizing b with
  | nil => exact (keptSource_singleton _).symm
  | cons note notes inductionHypothesis =>
    rw [writeAll_cons, inductionHypothesis, source_write_eq, sourcesIn_cons, keptSource_append]

/-- The problem of a note that gives a source is that of this source. Here and below the source that
is known before stands in front, as one that was given at any place. -/
theorem filter_isConflictOf_conflict? (b : Books) (note : Note) (place pos : SourcePos) :
    ((b.conflict? .primary note).toList.filter (Problem.isConflictOf provider)).map (pos, ·) =
      contradictions provider ((place, b.source provider) ::
        (note.about provider Note.address?).toList.map (pos, ·)) := by
  cases note with
  | source other address =>
    by_cases same : other = provider
    · subst same
      have given : (Note.source other address).about other Note.address? = some address :=
        if_pos rfl
      rw [given, Option.toList_some, List.map_singleton, contradictions_cons_cons,
        contradictions_singleton, List.append_nil, conflict?]
      by_cases fits : b.source other = "" ∨ b.source other = address
      · simp [fits]
      · simp [fits, Problem.isConflictOf]
    · have unsaid : (Note.source other address).about provider Note.address? = none := if_neg same
      rw [unsaid, Option.toList_none, List.map_nil, contradictions_singleton, conflict?]
      split <;> simp [Problem.isConflictOf, same]
  | named | version | configuration | aliased =>
    rw [Note.about_of_none rfl]
    exact (contradictions_singleton _).symm

theorem filter_isConflictOf_problems {remarks : List Remark}
    (own : ∀ problem, .problem problem ∈ remarks → problem.isAboutBlock = true)
    (b : Books) (place pos : SourcePos) :
    ((b.problems .primary remarks).filter (Problem.isConflictOf provider)).map (pos, ·) =
      contradictions provider ((place, b.source provider) ::
        (sourcesIn provider (notesOf remarks)).map (pos, ·)) := by
  induction remarks generalizing b with
  | nil => exact (contradictions_singleton _).symm
  | cons remark remarks inductionHypothesis =>
    have later := inductionHypothesis fun problem member =>
      own problem (List.mem_cons_of_mem _ member)
    cases remark with
    | problem problem =>
      have notConflict : problem.isConflictOf provider = false :=
        problem.not_isConflictOf_of_isAboutBlock (own problem List.mem_cons_self)
      rw [problems, List.filter_cons_of_neg (by simp [notConflict]), notesOf_cons_problem, later]
    | note note =>
      rw [problems, List.filter_append, List.map_append,
        filter_isConflictOf_conflict? b note place pos, later, notesOf_cons_note, sourcesIn_cons,
        List.map_append, contradictions_append, map_snd_at, source_write_eq]

end Books

/-! ## Runs -/

namespace Module

theorem filter_isConflictOf_reports (m : Module) (s : Statement) (place : SourcePos) :
    ((m.reports .primary s).filter (Problem.isConflictOf provider)).map (s.pos, ·) =
      contradictions provider ((place, m.books.source provider) :: s.offers provider) := by
  have ofEntry : (s.target?.elim [] fun target => s.orphanProblems .primary (m.place? target) ++
      entryProblems .primary target.kind target.name (m.place? target)).filter
        (Problem.isConflictOf provider) = [] := by
    refine List.filter_eq_nil_iff.2 fun problem found => ?_
    cases aimed : s.target? with
    | none => simp [aimed] at found
    | some target =>
      rw [aimed] at found
      rcases List.mem_append.1 found with ofBlock | ofTarget
      · simp [problem.not_isConflictOf_of_isAboutBlock (isAboutBlock_of_mem_orphanProblems ofBlock)]
      · simp [problem.not_isConflictOf_of_isAboutEntry (isAboutEntry_of_mem_entryProblems ofTarget)]
  rw [reports, List.filter_append, ofEntry, List.append_nil,
    Books.filter_isConflictOf_problems (fun _ => isAboutBlock_of_mem_remarks) m.books place s.pos,
    notesOf_remarks, sourcesIn_notes, Statement.offers]

theorem source_declare (m : Module) (s : Statement) :
    (m.declare .primary s).books.source provider =
      keptSource (m.books.source provider :: s.sources provider) := by
  rw [books_declare, Books.source_writeAll, sourcesIn_notes]

theorem filter_isConflictOf_problemsAll (provider : String) (statements : List Statement)
    (m : Module) (place : SourcePos) :
    (m.problemsAll .primary statements).filter (·.2.isConflictOf provider) =
      contradictions provider
        ((place, m.books.source provider) :: statements.flatMap (·.offers provider)) := by
  induction statements generalizing m with
  | nil => exact (contradictions_singleton _).symm
  | cons s statements inductionHypothesis =>
    have now : ((m.reports .primary s).map (s.pos, ·)).filter (·.2.isConflictOf provider) =
        ((m.reports .primary s).filter (Problem.isConflictOf provider)).map (s.pos, ·) :=
      List.filter_map
    rw [problemsAll, List.filter_append, now, inductionHypothesis,
      filter_isConflictOf_reports m s place, List.flatMap_cons, contradictions_append,
      Statement.offers, map_snd_at, source_declare]

/-- The source of a provider after primary files. -/
theorem source_decodeAll_primary (provider path : String) (files : List ParsedFile) :
    ((Module.new path).decodeAll (files.map fun file => (.primary, file))).books.source provider =
      keptSource
        (((files.flatMap ParsedFile.statements).flatMap (·.offers provider)).map Prod.snd) := by
  have given (s : Statement) : (s.offers provider).map Prod.snd = sourcesIn provider s.notes := by
    rw [Statement.offers, map_snd_at, sourcesIn_notes]
  rw [decodeAll_of_role, books_foldl_declare, Books.source_writeAll, List.map_flatMap]
  simp only [given, ← sourcesIn_flatMap]
  exact keptSource_of_unknown _

end Module

/-! ## The law -/

theorem Problem.exists_isConflictOf_of_summary {problem : Problem}
    (words : problem.summary = "Multiple provider source attributes") :
    ∃ provider, problem.isConflictOf provider = true := by
  cases problem with
  | severalSources provider existing other => exact ⟨provider, decide_eq_true rfl⟩
  | noBody | malformedBlock | invalidAttribute | malformedRequirement | missingSource | missingBase
  | duplicate =>
    have letters := congrArg String.toList words
    simp [summary] at letters

/-- After any sequence of primary files the source of a provider is the first one that is not empty
of those that are given in the required providers, in the order of the blocks, and empty if there is
none. From this one on each source that differs from it is reported at the place of its block, with
the one that is kept and the one that is not, in this order. Nothing else is reported in these
words. -/
theorem provider_sources_settled (path : String) (files : List ParsedFile) :
    let m := (Module.new path).decodeAll (files.map fun file => (.primary, file))
    let statements := files.flatMap ParsedFile.statements
    let reported := (Module.new path).problemsAll .primary statements
    m.diagnostics = reported.map (fun found => found.2.diagnostic found.1) ∧
    (∀ provider,
      let offers := statements.flatMap (·.offers provider)
      let kept := ((offers.map Prod.snd).find? (· ≠ "")).getD ""
      (m.requirement provider).source = kept ∧
      reported.filter (·.2.isConflictOf provider) =
        ((offers.dropWhile (·.2 = "")).filter (·.2 ≠ kept)).map fun offer =>
          (offer.1, .severalSources provider kept offer.2)) ∧
    ∀ d ∈ m.diagnostics, d.summary = "Multiple provider source attributes" →
      ∃ provider, ∃ found ∈ reported.filter (·.2.isConflictOf provider),
        d = found.2.diagnostic found.1 := by
  intro m statements reported
  have diagnostics : m.diagnostics = reported.map fun found => found.2.diagnostic found.1 :=
    Module.diagnostics_decodeAll_of_role .primary files (Module.new path)
  refine ⟨diagnostics, fun provider => ⟨?_, ?_⟩, ?_⟩
  · exact Module.source_decodeAll_primary provider path files
  · have contradicted :=
      Module.filter_isConflictOf_problemsAll provider statements (Module.new path) ⟨path, 1⟩
    exact contradicted.trans (contradictions_of_unknown ..)
  · intro d member words
    rw [diagnostics] at member
    obtain ⟨found, isReported, rfl⟩ := List.mem_map.1 member
    obtain ⟨provider, isConflict⟩ := Problem.exists_isConflictOf_of_summary words
    exact ⟨provider, found, List.mem_filter.2 ⟨isReported, isConflict⟩, rfl⟩

/-- A file that gives the source of a provider first as the empty text and then as another one, and
a file with one block that gives a different one and the same one again. -/
def conflictingSources : List ParsedFile :=
  let requirement (address : String) : Value :=
    .object [("aws", .object [("source", .string address), ("version", .string "5.0")])]
  [⟨"a.tf.json", .json, "", .object [
      ("provider", .object [("aws", .object [])]),
      ("terraform", .array [
        .object [("required_providers", requirement "")],
        .object [("required_providers", requirement "hashicorp/aws")]])]⟩,
    ⟨"b.tf.json", .json, "", .object [
      ("terraform", .object [
        ("required_providers", .array [requirement "example/aws", requirement "hashicorp/aws"])])]⟩]

theorem conflictingSources_settled :
    let m := (Module.new "m").decodeAll (conflictingSources.map fun file => (.primary, file))
    let conflict := Problem.severalSources "aws" "hashicorp/aws" "example/aws"
    let place : SourcePos := ⟨"b.tf.json", 1⟩
    (m.requirement "aws").source = "hashicorp/aws" ∧
    m.diagnostics = [conflict.diagnostic place] ∧
    ∃ provider, ∃ found ∈ ((Module.new "m").problemsAll .primary
        (conflictingSources.flatMap ParsedFile.statements)).filter (·.2.isConflictOf provider),
      conflict.diagnostic place = found.2.diagnostic found.1 := by
  intro m conflict place
  obtain ⟨diagnostics, settled, told⟩ := provider_sources_settled "m" conflictingSources
  have reported : m.diagnostics = [conflict.diagnostic place] :=
    diagnostics.trans (by decide +kernel)
  refine ⟨(settled "aws").1.trans (by decide +kernel), reported, told _ ?_ rfl⟩
  exact reported ▸ List.mem_singleton_self _

end ModuleSurvey
