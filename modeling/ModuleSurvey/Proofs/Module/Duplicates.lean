import ModuleSurvey.Loader
import ModuleSurvey.Proofs.BlockIndex.Interference
import ModuleSurvey.Proofs.HiddenBlocks
import ModuleSurvey.Proofs.Module.Overrides
import ModuleSurvey.Proofs.Module.Places

/-! # Blocks and duplicates

Each block of a primary file that is brought into a module is represented there in the end, or its
place is cited by the problem of a later block with the same target. So the blocks of a target
balance with the entry and the problems that come of them. In a JSON text this does not go for all
blocks that are written down: those behind a repeated name are hidden from the module, and nothing is
reported about them.

* `Statement.block?`, `Statement.map_placed?_ofBody` — the statements of a body are its blocks, each at
  the place that is looked up for it.
* `Module.Represents` — what a module has of a block that it was told last.
* `Module.foldl_declare_accounts` — a block is represented, or cited by a later one.
* `Module.filter_isDuplicateOf_problemsAll` — the duplicates that are reported of a target.
* `Module.balance_foldl_declare` — how many blocks, entries and problems a target has.
* `json_blocks_accounted` — the law of a JSON text.
-/

namespace ModuleSurvey

open Json (Value Members)

/-! ## Statements and their blocks -/

namespace Statement

def block? : Statement → Option (BlockType × Block)
  | terraform _ body => some (.terraform, ⟨[], body⟩)
  | provider _ name body => some (.provider, ⟨[name], body⟩)
  | inputVariable _ name body => some (.inputVariable, ⟨[name], body⟩)
  | output _ name body => some (.output, ⟨[name], body⟩)
  | resource _ mode type name body => some (.resource mode, ⟨[type, name], body⟩)
  | moduleCall _ name body => some (.moduleCall, ⟨[name], body⟩)
  | malformed .. | noBody _ => none

end Statement

def Block.header (block : BlockType × Block) : Header := ⟨block.1.word, block.2.labels⟩

/-- Blocks, each with the place that is found when they are looked up one after the other. -/
def BlockIndex.placed (x : BlockIndex) (blocks : List (BlockType × Block)) :
    List ((BlockType × Block) × SourcePos) :=
  blocks.zip ((x.answers (blocks.map Block.header)).map Prod.snd)

theorem BlockIndex.map_fst_placed (x : BlockIndex) (blocks : List (BlockType × Block)) :
    (x.placed blocks).map Prod.fst = blocks := by
  induction blocks generalizing x with
  | nil => rfl
  | cons block blocks inductionHypothesis => exact congrArg (block :: ·) (inductionHypothesis _)

theorem BlockIndex.placed_append (x : BlockIndex) (first more : List (BlockType × Block)) :
    x.placed (first ++ more) =
      x.placed first ++ (x.after (first.map Block.header)).placed more := by
  induction first generalizing x with
  | nil => rfl
  | cons block first inductionHypothesis =>
    exact congrArg (_ :: ·) (inductionHypothesis (x.locate block.1.word block.2.labels).2)

namespace Statement

def placed? (s : Statement) : Option (BlockType × Block) × SourcePos := (s.block?, s.pos)

theorem map_placed?_ofBlock? {type : BlockType} {block : Block}
    (labelled : block.labels.length = type.labelCount) (pos : SourcePos) :
    (ofBlock? type pos block).toList.map placed? = [(some (type, block), pos)] := by
  obtain ⟨labels, body⟩ := block
  cases type with
  | terraform =>
    obtain rfl := List.length_eq_zero_iff.1 labelled
    rfl
  | provider | inputVariable | output | moduleCall =>
    obtain ⟨name, rfl⟩ := List.length_eq_one_iff.1 labelled
    rfl
  | resource mode =>
    obtain ⟨type, name, rfl⟩ := List.length_eq_two.1 labelled
    rfl

/-- Statements that are blocks at the places which an index gives for them, and the index after
these look-ups. -/
structure AreBlocks (statements : List Statement × BlockIndex) (blocks : List (BlockType × Block))
    (x : BlockIndex) : Prop where
  placed : statements.1.map placed? = (x.placed blocks).map fun block => (some block.1, block.2)
  after : statements.2 = x.after (blocks.map Block.header)

theorem areBlocks_ofBlocks {type : BlockType} {blocks : List Block}
    (labelled : ∀ block ∈ blocks, block.labels.length = type.labelCount) (x : BlockIndex) :
    AreBlocks (ofBlocks type blocks x) (blocks.map (type, ·)) x := by
  induction blocks generalizing x with
  | nil => exact ⟨rfl, rfl⟩
  | cons block blocks inductionHypothesis =>
    obtain ⟨first, more⟩ := List.forall_mem_cons.1 labelled
    obtain ⟨placed, after⟩ := inductionHypothesis more (x.locate type.word block.labels).2
    refine ⟨?_, after⟩
    simp only [ofBlocks, List.map_append, map_placed?_ofBlock? first, placed]
    rfl

theorem areBlocks_ofMember {e : String × Value}
    (shaped : ∀ type, BlockType.ofWord? e.1 = some type → Block.Shaped type.labelCount e.2)
    (x : BlockIndex) : AreBlocks (ofMember e.1 e.2 x) (Block.ofMember Block.leaves e) x := by
  unfold Block.ofMember
  cases opened : BlockType.ofWord? e.1 with
  | none =>
    rw [ofMember_of_unknown opened]
    exact ⟨rfl, rfl⟩
  | some type =>
    have collected := Block.collect_of_shaped (shaped type opened)
    rw [← BlockType.word_of_ofWord? opened, ofMember_of_blocks collected]
    exact areBlocks_ofBlocks (fun block => Block.length_labels_of_mem_leaves) x

theorem areBlocks_ofBody {body : Value} (shaped : Block.BodyShaped body) (x : BlockIndex) :
    AreBlocks (ofBody body x) (Block.ofBody body) x := by
  obtain ⟨members⟩ := shaped
  rename_i ms
  rw [ofBody, Block.ofBody]
  induction ms generalizing x with
  | nil => exact ⟨rfl, rfl⟩
  | cons e ms inductionHypothesis =>
    obtain ⟨first, more⟩ := List.forall_mem_cons.1 members
    obtain ⟨placed, after⟩ := areBlocks_ofMember first x
    obtain ⟨placedMore, afterMore⟩ := inductionHypothesis (ofMember e.1 e.2 x).2 more
    rw [List.flatMap_cons]
    constructor
    · rw [BlockIndex.placed_append, List.map_append, ← after, ← placed, ← placedMore, ← List.map_append]
      rfl
    · rw [List.map_append, BlockIndex.after, List.foldl_append, ← BlockIndex.after,
        ← BlockIndex.after, ← after, ← afterMore]
      rfl

/-- The statements of a body are its blocks, each at the place that is looked up for it. -/
theorem map_placed?_ofBody {body : Value} (shaped : Block.BodyShaped body) (x : BlockIndex) :
    (ofBody body x).1.map placed? =
      (x.placed (Block.ofBody body)).map fun block => (some block.1, block.2) :=
  (areBlocks_ofBody shaped x).placed

theorem map_block?_ofBody {body : Value} (shaped : Block.BodyShaped body) (x : BlockIndex) :
    (ofBody body x).1.map block? = (Block.ofBody body).map some := by
  have blocks := congrArg (List.map Prod.fst) (map_placed?_ofBody shaped x)
  rw [List.map_map, List.map_map] at blocks
  rw [← x.map_fst_placed (Block.ofBody body), List.map_map]
  exact blocks

end Statement

def BlockType.target? : BlockType → List String → Option Target
  | inputVariable, [name] => some (.inputVariable name)
  | output, [name] => some (.output name)
  | resource mode, [type, name] => some (.resource mode (Resource.addressOf mode type name))
  | moduleCall, [name] => some (.moduleCall name)
  | _, _ => none

def Target.ofBlock? (block : BlockType × Block) : Option Target := block.1.target? block.2.labels

def Target.count (target : Target) (blocks : List (BlockType × Block)) : Nat :=
  blocks.countP (ofBlock? · = some target)

theorem Statement.target?_eq (s : Statement) : s.target? = s.block?.bind Target.ofBlock? := by
  cases s <;> rfl

/-! ## What a module has of a block -/

/-- What a module has of a block that no later one with the same target took the place of: the entry
that the block declares, the constraint on the program that it gives, and the requirement and the
alias for every provider that it speaks of. -/
structure Module.Represents (m : Module) (s : Statement) : Prop where
  inputs : ∀ block ∈ s.inputVariable?,
    m.inputs.get? block.name = some (EntryKind.inputVariable.fresh block)
  outputs : ∀ block ∈ s.output?, m.outputs.get? block.name = some (EntryKind.output.fresh block)
  resources : ∀ mode, ∀ block ∈ s.resource? mode,
    (m.resourcesOf mode).get? ((EntryKind.resource mode).key block) =
      some ((EntryKind.resource mode).fresh block)
  moduleCalls : ∀ block ∈ s.moduleCall?,
    m.moduleCalls.get? block.name = some (EntryKind.moduleCall.fresh block)
  requiredCore : ∀ constraint ∈ Module.coreConstraint? s, constraint ∈ m.requiredCore
  providers : ∀ note ∈ s.notes, m.books.Requires note.provider
  aliases : ∀ note ∈ s.notes, ∀ r ∈ note.reference?, m.books.aliases.Knows r

namespace Module

variable {m : Module} {s later : Statement} {target : Target}

theorem mem_requiredCore_declare_primary {constraint : String} :
    constraint ∈ (m.declare .primary s).requiredCore ↔
      coreConstraint? s = some constraint ∨ constraint ∈ m.requiredCore := by
  rw [requiredCore_declare_primary, List.mem_append, Option.mem_toList, or_comm]

theorem represents_declare_self (m : Module) (s : Statement) :
    (m.declare .primary s).Represents s where
  inputs block is := by
    rw [inputs_declare, is]
    exact EntryKind.inputVariable.get?_bring_primary m.inputs block
  outputs block is := by
    rw [outputs_declare, is]
    exact EntryKind.output.get?_bring_primary m.outputs block
  resources mode block is := by
    rw [resourcesOf_declare, is]
    exact (EntryKind.resource mode).get?_bring_primary (m.resourcesOf mode) block
  moduleCalls block is := by
    rw [moduleCalls_declare, is]
    exact EntryKind.moduleCall.get?_bring_primary m.moduleCalls block
  requiredCore constraint given := mem_requiredCore_declare_primary.2 (.inl given)
  providers note noted := by
    rw [books_declare]
    exact Books.requires_writeAll.2 (.inl ⟨note, noted, rfl⟩)
  aliases note noted r refers := by
    rw [books_declare]
    exact Books.knows_writeAll.2 (.inl ⟨note, noted, refers⟩)

theorem Represents.declare_other (represents : m.Represents s)
    (other : ∀ target, s.target? = some target → later.target? ≠ some target) :
    (m.declare .primary later).Represents s where
  inputs block is := by
    have apart := other _ (Statement.target?_of_inputVariable? is)
    rw [inputs_declare,
      EntryKind.get?_elim_bring _ .inputVariable Statement.target?_of_inputVariable? apart]
    exact represents.inputs block is
  outputs block is := by
    have apart := other _ (Statement.target?_of_output? is)
    rw [outputs_declare, EntryKind.get?_elim_bring _ .output Statement.target?_of_output? apart]
    exact represents.outputs block is
  resources mode block is := by
    have apart := other _ (Statement.target?_of_resource? is)
    rw [resourcesOf_declare,
      EntryKind.get?_elim_bring _ (.resource mode) Statement.target?_of_resource? apart]
    exact represents.resources mode block is
  moduleCalls block is := by
    have apart := other _ (Statement.target?_of_moduleCall? is)
    rw [moduleCalls_declare,
      EntryKind.get?_elim_bring _ .moduleCall Statement.target?_of_moduleCall? apart]
    exact represents.moduleCalls block is
  requiredCore constraint given :=
    mem_requiredCore_declare_primary.2 (.inr (represents.requiredCore constraint given))
  providers note noted := by
    rw [books_declare]
    exact Books.requires_writeAll.2 (.inr (represents.providers note noted))
  aliases note noted r refers := by
    rw [books_declare]
    exact Books.knows_writeAll.2 (.inr (represents.aliases note noted r refers))

theorem Represents.place? (represents : m.Represents s) (aimed : s.target? = some target) :
    m.place? target = some s.pos := by
  cases s with
  | inputVariable pos name body =>
    cases aimed
    have entry := represents.inputs ⟨pos, name, body⟩ rfl
    rw [Module.place?, entry, Option.map_some, EntryKind.inputVariable_fresh]
    rfl
  | output pos name body =>
    cases aimed
    rw [Module.place?, represents.outputs ⟨pos, name, body⟩ rfl]
    rfl
  | resource pos mode type name body =>
    cases aimed
    have entry := represents.resources mode ⟨pos, type, name, body⟩ (if_pos rfl)
    exact congrArg (Option.map Resource.pos) entry
  | moduleCall pos name body =>
    cases aimed
    rw [Module.place?, represents.moduleCalls ⟨pos, name, body⟩ rfl]
    rfl
  | terraform | provider | malformed | noBody => cases aimed

end Module

/-! ## Reported duplicates -/

def Problem.isDuplicateOf (target : Target) : Problem → Bool
  | duplicate kind name _ => kind = target.kind ∧ name = target.name
  | _ => false

def Target.placesOf (target : Target) (statements : List Statement) : List SourcePos :=
  (statements.filter (·.target? = some target)).map Statement.pos

/-- The duplicates of a target that is declared at these places in a row: at each but the first one
that the target is declared once more, citing the place before it. -/
def Target.redeclared (target : Target) (places : List SourcePos) : List (SourcePos × Problem) :=
  (places.zip places.tail).map fun pair => (pair.2, .duplicate target.kind target.name pair.1)

section

variable {target : Target} {s : Statement} {statements : List Statement}

theorem Target.placesOf_cons_of_eq (aimed : s.target? = some target) :
    target.placesOf (s :: statements) = s.pos :: target.placesOf statements := by
  simp [placesOf, aimed]

theorem Target.placesOf_cons_of_ne (other : s.target? ≠ some target) :
    target.placesOf (s :: statements) = target.placesOf statements := by
  simp [placesOf, other]

theorem Target.length_placesOf :
    (target.placesOf statements).length = statements.countP (·.target? = some target) := by
  rw [placesOf, List.length_map, List.countP_eq_length_filter]

theorem Target.length_redeclared (target : Target) (places : List SourcePos) :
    (target.redeclared places).length = places.length - 1 := by
  simp [redeclared]

end

/-- The words that a duplicate is reported with tell which target it is about. -/
theorem Target.eq_of_words {a b : Target} (kind : a.kind = b.kind) (name : a.name = b.name) :
    a = b := by
  rcases a with _ | _ | ⟨⟨⟩, _⟩ | _ <;> rcases b with _ | _ | ⟨⟨⟩, _⟩ | _ <;>
    first
    | exact congrArg _ name
    | simp [Target.kind, Module.resourceKind] at kind

namespace Module

variable {m : Module} {s : Statement} {target : Target}

def problemsAll (role : FileRole) (m : Module) : List Statement → List (SourcePos × Problem)
  | [] => []
  | s :: statements =>
    (m.reports role s).map (s.pos, ·) ++ (m.declare role s).problemsAll role statements

theorem reportsAll_eq_map (role : FileRole) (statements : List Statement) (m : Module) :
    m.reportsAll role statements =
      (m.problemsAll role statements).map fun found => found.2.diagnostic found.1 := by
  induction statements generalizing m with
  | nil => rfl
  | cons s statements inductionHypothesis =>
    rw [reportsAll, problemsAll, List.map_append, inductionHypothesis, List.map_map]
    rfl

theorem diagnostics_decodeAll_of_role (role : FileRole) (files : List ParsedFile) (m : Module) :
    (m.decodeAll (files.map fun file => (role, file))).diagnostics =
      m.diagnostics ++ (m.problemsAll role (files.flatMap ParsedFile.statements)).map
        fun found => found.2.diagnostic found.1 := by
  rw [decodeAll_of_role, diagnostics_foldl_declare, reportsAll_eq_map]

theorem duplicate_mem_reports {place : SourcePos} (aimed : s.target? = some target)
    (placed : m.place? target = some place) :
    .duplicate target.kind target.name place ∈ m.reports .primary s := by
  have ofEntry : .duplicate target.kind target.name place ∈
      (m.reports .primary s).filter Problem.isAboutEntry := by
    rw [filter_isAboutEntry_reports, aimed]
    simp only [Option.elim, placed]
    exact List.mem_singleton_self _
  exact (List.mem_filter.1 ofEntry).1

theorem Represents.foldl_declare (represents : m.Represents s) (statements : List Statement) :
    (statements.foldl (declare .primary) m).Represents s ∨
      ∃ target, s.target? = some target ∧ ∃ later ∈ statements, later.target? = some target ∧
        (later.pos, .duplicate target.kind target.name s.pos) ∈ m.problemsAll .primary statements := by
  -- The block stays represented up to the first statement with its target, which reports it.
  induction statements generalizing m with
  | nil => exact .inl represents
  | cons next statements inductionHypothesis =>
    by_cases again : ∃ target, s.target? = some target ∧ next.target? = some target
    · obtain ⟨target, aimed, aimedAgain⟩ := again
      have reported := duplicate_mem_reports aimedAgain (represents.place? aimed)
      refine .inr ⟨target, aimed, next, List.mem_cons_self, aimedAgain, ?_⟩
      exact List.mem_append_left _ (List.mem_map_of_mem reported)
    · have other : ∀ target, s.target? = some target → next.target? ≠ some target :=
        fun target aimed aimedAgain => again ⟨target, aimed, aimedAgain⟩
      rcases inductionHypothesis (represents.declare_other other) with stays | replaced
      · exact .inl stays
      · obtain ⟨target, aimed, later, member, aimedAgain, reported⟩ := replaced
        exact .inr ⟨target, aimed, later, List.mem_cons_of_mem _ member, aimedAgain,
          List.mem_append_right _ reported⟩

/-- Each block that is brought into a module is represented in the end, or cited by a later one. -/
theorem foldl_declare_accounts (m : Module) (before : List Statement) (s : Statement)
    (after : List Statement) :
    ((before ++ s :: after).foldl (declare .primary) m).Represents s ∨
      ∃ target, s.target? = some target ∧ ∃ later ∈ after, later.target? = some target ∧
        (later.pos, .duplicate target.kind target.name s.pos) ∈
          m.problemsAll .primary (before ++ s :: after) := by
  induction before generalizing m with
  | nil =>
    rcases (represents_declare_self m s).foldl_declare after with stays | replaced
    · exact .inl stays
    · obtain ⟨target, aimed, later, member, aimedAgain, reported⟩ := replaced
      exact .inr ⟨target, aimed, later, member, aimedAgain, List.mem_append_right _ reported⟩
  | cons first before inductionHypothesis =>
    rcases inductionHypothesis (m.declare .primary first) with stays | replaced
    · exact .inl stays
    · obtain ⟨target, aimed, later, member, aimedAgain, reported⟩ := replaced
      exact .inr ⟨target, aimed, later, member, aimedAgain, List.mem_append_right _ reported⟩

theorem filter_isDuplicateOf_reports (m : Module) (s : Statement) (target : Target) :
    (m.reports .primary s).filter (Problem.isDuplicateOf target) =
      if s.target? = some target then
        (m.place? target).toList.map (.duplicate target.kind target.name)
      else [] := by
  have aboutEntry : ∀ problem : Problem, problem.isDuplicateOf target = true →
      problem.isAboutEntry = true := by
    intro problem duplicate
    cases problem <;> first | rfl | cases duplicate
  rw [← filter_filter_of_imp aboutEntry, filter_isAboutEntry_reports]
  cases aimed : s.target? with
  | none => rfl
  | some own =>
    simp only [Option.elim, Option.some.injEq]
    by_cases same : own = target
    · subst same
      cases m.place? own with
      | none => simp [entryProblems]
      | some place => simp [entryProblems, Problem.isDuplicateOf]
    · have otherWords : ¬ (own.kind = target.kind ∧ own.name = target.name) :=
        fun words => same (Target.eq_of_words words.1 words.2)
      cases m.place? own with
      | none => simp [entryProblems, same]
      | some place => simpa [entryProblems, Problem.isDuplicateOf, same] using otherWords

theorem place?_declare_self (m : Module) (aimed : s.target? = some target) :
    (m.declare .primary s).place? target = some s.pos :=
  (represents_declare_self m s).place? aimed

/-- The duplicates that are reported of a target cite its places one after the other: the one at
which it was there before, if it was, and then those of its blocks. -/
theorem filter_isDuplicateOf_problemsAll (target : Target) (statements : List Statement)
    (m : Module) :
    (m.problemsAll .primary statements).filter (·.2.isDuplicateOf target) =
      target.redeclared ((m.place? target).toList ++ target.placesOf statements) := by
  induction statements generalizing m with
  | nil => cases m.place? target <;> rfl
  | cons s statements inductionHypothesis =>
    have now : ((m.reports .primary s).map (s.pos, ·)).filter (·.2.isDuplicateOf target) =
        ((m.reports .primary s).filter (Problem.isDuplicateOf target)).map (s.pos, ·) :=
      List.filter_map
    rw [problemsAll, List.filter_append, inductionHypothesis, now, filter_isDuplicateOf_reports]
    by_cases aimed : s.target? = some target
    · -- The place of this block comes behind the one that it cites, and is the next to be cited.
      rw [place?_declare_self m aimed, target.placesOf_cons_of_eq aimed, if_pos aimed]
      cases m.place? target <;> rfl
    · rw [place?_declare_of_ne aimed, target.placesOf_cons_of_ne aimed, if_neg aimed]
      rfl

/-- The blocks of a target, and the entry that it had, are the entry that it has and the duplicates
that were reported. -/
theorem balance_foldl_declare (target : Target) (statements : List Statement) (m : Module) :
    statements.countP (·.target? = some target) + (m.holds target).toNat =
      ((statements.foldl (declare .primary) m).holds target).toNat
        + (m.problemsAll .primary statements).countP (·.2.isDuplicateOf target) := by
  have cited : (m.problemsAll .primary statements).countP (·.2.isDuplicateOf target) =
      (m.place? target).toList.length + statements.countP (·.target? = some target) - 1 := by
    rw [List.countP_eq_length_filter, filter_isDuplicateOf_problemsAll, Target.length_redeclared,
      List.length_append, Target.length_placesOf]
  have held : (statements.foldl (declare .primary) m).holds target =
      (decide (0 < statements.countP (·.target? = some target)) || m.holds target) := by
    rw [Bool.eq_iff_iff, holds_eq_isSome_place?, isSome_place?_foldl_declare, holds_eq_isSome_place?]
    simp [List.countP_pos_iff]
  rw [cited, held, holds_eq_isSome_place?]
  by_cases declared : 0 < statements.countP (·.target? = some target) <;>
    cases m.place? target <;> simp [declared] <;> omega

end Module

/-! ## JSON texts -/

theorem parseBody_json {words : String → String} {text : String} {written : Value}
    (parsed : Value.parseWritten text = .ok written) :
    parseBody words .json text = .ok written.settled := by
  rw [parseBody, Value.parse_eq_settled, parsed]
  rfl

theorem countP_target?_eq {statements : List Statement} {blocks : List (BlockType × Block)}
    (ofBlocks : statements.map Statement.block? = blocks.map some) (target : Target) :
    statements.countP (·.target? = some target) = target.count blocks := by
  have counted := congrArg (List.countP fun block? => block?.bind Target.ofBlock? = some target)
    ofBlocks
  rw [List.countP_map, List.countP_map] at counted
  simpa only [Target.count, Statement.target?_eq, Function.comp_def, Option.bind_some] using counted

theorem Target.count_map_settle (target : Target) (blocks : List (BlockType × Block)) :
    target.count (blocks.map Block.settle) = target.count blocks :=
  List.countP_map

theorem Target.count_ofBody (target : Target) (written : Value) :
    target.count (Block.ofBody written) =
      target.count (Block.ofBody written.settled) + target.count (Block.hiddenOfBody written) := by
  rw [← target.count_map_settle (Block.ofBody written),
    ← target.count_map_settle (Block.hiddenOfBody written)]
  have parted := (Block.ofBody_settled written).countP_eq (Target.ofBlock? · = some target)
  rwa [List.countP_append] at parted

theorem Target.count_eq_zero_iff {blocks : List (BlockType × Block)} :
    (∀ target : Target, target.count blocks = 0) ↔
      ∀ block ∈ blocks, Target.ofBlock? block = none := by
  simp only [Target.count, List.countP_eq_zero, decide_eq_true_eq]
  constructor
  · intro untargeted block member
    exact Option.eq_none_iff_forall_not_mem.2 fun target => untargeted target block member
  · intro untargeted target block member
    simp [untargeted block member]

/-- The blocks that a JSON text of a primary file writes down are those that are brought into the
module and those that are hidden behind a repeated name. Each one that is brought into it is
represented in the end, or a later block of its target is reported as a duplicate and cites it. So
the blocks of a target balance with its entry and the reported duplicates up to the hidden ones, of
which nothing is seen: they balance for all targets iff no block with a target is hidden. -/
theorem json_blocks_accounted (words : String → String) (m : Module) (path : String)
    (file : ConfigFile) (text : String) (written : Value) (json : file.format = .json)
    (primary : file.role = .primary) (parsed : Value.parseWritten text = .ok written)
    (shaped : Block.BodyShaped written) :
    let statements := (Statement.ofBody written.settled (.scan path .json text)).1
    let after := loadText words m path file text
    let reported := m.problemsAll .primary statements
    let hidden := Block.hiddenOfBody written
    (∃ brought, statements.map Statement.block? = brought.map some ∧
      ((Block.ofBody written).map Block.settle).Perm (brought ++ hidden.map Block.settle)) ∧
    after.diagnostics = m.diagnostics ++ reported.map (fun found => found.2.diagnostic found.1) ∧
    (∀ before s later, statements = before ++ s :: later →
      after.Represents s ∨ ∃ target, s.target? = some target ∧
        ∃ next ∈ later, next.target? = some target ∧
          (next.pos, .duplicate target.kind target.name s.pos) ∈ reported) ∧
    (∀ target : Target, target.count (Block.ofBody written) + (m.holds target).toNat =
      (after.holds target).toNat + reported.countP (·.2.isDuplicateOf target)
        + target.count hidden) ∧
    ((∀ target : Target, target.count (Block.ofBody written) + (m.holds target).toNat =
      (after.holds target).toNat + reported.countP (·.2.isDuplicateOf target)) ↔
        ∀ block ∈ hidden, Target.ofBlock? block = none) := by
  intro statements after reported hidden
  have loaded : after = statements.foldl (Module.declare .primary) m := by
    simp only [after, loadText, json, primary, parseBody_json parsed]
    rfl
  have blocks : statements.map Statement.block? = (Block.ofBody written.settled).map some :=
    Statement.map_block?_ofBody shaped.settled _
  have balance : ∀ target : Target, target.count (Block.ofBody written) + (m.holds target).toNat =
      (after.holds target).toNat + reported.countP (·.2.isDuplicateOf target)
        + target.count hidden := by
    intro target
    have brought := Module.balance_foldl_declare target statements m
    rw [countP_target?_eq blocks, ← loaded] at brought
    rw [Target.count_ofBody, Nat.add_right_comm, brought]
  refine ⟨⟨_, blocks, Block.ofBody_settled written⟩, ?_, ?_, balance, ?_⟩
  · rw [loaded, Module.diagnostics_foldl_declare, Module.reportsAll_eq_map]
  · intro before s later split
    have accounted := m.foldl_declare_accounts before s later
    rw [← split, ← loaded] at accounted
    exact accounted
  · rw [← Target.count_eq_zero_iff]
    constructor
    · intro unhidden target
      have full := (unhidden target).symm.trans (balance target)
      omega
    · intro noneHidden target
      rw [balance, noneHidden]
      rfl

/-- A text in which an output is repeated under its name, and a variable in a list. -/
def repeatedText : String :=
  "\x7b\"output\": \x7b\"id\": \x7b\x7d, \"id\": \x7b\x7d\x7d, " ++
    "\"variable\": [\x7b\"a\": \x7b\x7d\x7d, \x7b\"a\": \x7b\x7d\x7d]\x7d"

def repeatedBody : Value :=
  .object [
    ("output", .object [("id", .object []), ("id", .object [])]),
    ("variable", .array [.object [("a", .object [])], .object [("a", .object [])]])]

/-- Of the two only the variable is reported as a duplicate. -/
theorem repeatedText_accounted :
    let file : ConfigFile := ⟨"main.tf.json", .json, .primary⟩
    let after := loadText id (Module.new "m") "m/main.tf.json" file repeatedText
    let place : SourcePos := ⟨"m/main.tf.json", 1⟩
    Value.parseWritten repeatedText = .ok repeatedBody ∧ Block.BodyShaped repeatedBody ∧
    Block.hiddenOfBody repeatedBody = [(.output, ⟨["id"], []⟩)] ∧
    after.diagnostics = [(Problem.duplicate "variable" "a" place).diagnostic place] ∧
    (Target.output "id").count (Block.ofBody repeatedBody) = 2 ∧
    (Target.inputVariable "a").count (Block.ofBody repeatedBody) = 2 ∧
    after.holds (.output "id") = true ∧ after.holds (.inputVariable "a") = true := by
  intro file after place
  have parsed : Value.parseWritten repeatedText = .ok repeatedBody := by rfl
  have shaped : Block.BodyShaped repeatedBody := by decide
  obtain ⟨-, reported, -, -, -⟩ :=
    json_blocks_accounted id (Module.new "m") "m/main.tf.json" file repeatedText repeatedBody rfl rfl
      parsed shaped
  have outputHeld : after.holds (.output "id") = true := by decide +kernel
  have variableHeld : after.holds (.inputVariable "a") = true := by decide +kernel
  exact ⟨parsed, shaped, rfl, reported.trans (by decide +kernel), rfl, rfl, outputHeld, variableHeld⟩

def parallelText : String :=
  "\x7b\"variable\": \x7b\"a\": \x7b\x7d\x7d, \"variable\": \x7b\"b\": \x7b\x7d\x7d\x7d"

def parallelBody : Value :=
  .object [("variable", .object [("a", .object [])]), ("variable", .object [("b", .object [])])]

/-- That every block with a target is in the module or reported as a duplicate is false: the first of
these variables is lost, and nothing is reported. -/
theorem parallel_type_lost :
    ¬ ∀ (words : String → String) (m : Module) (path : String) (file : ConfigFile) (text : String)
      (written : Value), file.format = .json → file.role = .primary → Value.parseWritten text = .ok written →
      Block.BodyShaped written →
      ∀ block ∈ Block.ofBody written, ∀ target, Target.ofBlock? block = some target →
        (loadText words m path file text).holds target = true ∨
          ∃ found ∈ (loadText words m path file text).diagnostics,
            found.summary = "Duplicate " ++ target.kind ++ " declaration" := by
  intro accounted
  let file : ConfigFile := ⟨"main.tf.json", .json, .primary⟩
  let after := loadText id (Module.new "m") "m/main.tf.json" file parallelText
  have blocks : Block.ofBody parallelBody =
    [(.inputVariable, ⟨["a"], []⟩), (.inputVariable, ⟨["b"], []⟩)] := rfl
  have written : (.inputVariable, ⟨["a"], []⟩) ∈ Block.ofBody parallelBody :=
    blocks ▸ List.mem_cons_self
  have found := accounted id (Module.new "m") "m/main.tf.json" file parallelText parallelBody rfl rfl
    (by rfl) (by decide) _ written (.inputVariable "a") rfl
  have notHeld : after.holds (.inputVariable "a") = false := by decide +kernel
  have noProblem : after.diagnostics = [] := by decide +kernel
  rcases found with held | ⟨problem, reported, -⟩
  · exact Bool.false_ne_true (notHeld.symm.trans held)
  · exact List.not_mem_nil (noProblem ▸ reported)

end ModuleSurvey
