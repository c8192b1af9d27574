import ModuleSurvey.Proofs.BlockIndex.Lookups
import ModuleSurvey.Proofs.Module.CallSources
import ModuleSurvey.Proofs.Module.Coherence
import ModuleSurvey.Proofs.Module.Places

/-! # Addresses of resources

A module keeps resources under their addresses, in which a dot stands between the type and the name.
A label may have dots in it, and then two resources can have the same address: each is taken for the
other one, is replaced and amended by its blocks, and is reported as its duplicate. Resources whose
types and names differ also after they are cut at their dots have nothing to do with each other.

* `Resource.pieces`, `Resource.addressOf_eq_iff` — what an address tells of a type and a name.
* `Module.AgreeAt`, `AgreeAt.declareAll_filter` — the blocks of a run that an entry depends on.
* `Module.declare_sharing` — what a block does to an entry with its pieces.
* `resources_apart_by_pieces` — which resources have to do with each other.
-/

namespace ModuleSurvey

open Json (Value Members)

/-! ## Addresses -/

/-- Of two texts that are cut at a character, the parts before the cut are told by the number of
such characters in them. -/
theorem append_cons_inj_of_count {sep : Char} {before after otherBefore otherAfter : List Char}
    (sameCount : before.count sep = otherBefore.count sep) :
    before ++ sep :: after = otherBefore ++ sep :: otherAfter ↔
      before = otherBefore ∧ after = otherAfter := by
  constructor
  · intro same
    -- Where one of the two goes on behind the other, a separator is in what it has more.
    rcases List.append_eq_append_iff.1 same with ⟨more, isOther, rest⟩ | ⟨more, isFirst, rest⟩
    · cases more with
      | nil => simpa [isOther] using rest
      | cons c more =>
        obtain ⟨rfl, -⟩ := List.cons.inj rest
        simp [isOther] at sameCount
    · cases more with
      | nil => simpa [isFirst, eq_comm] using rest
      | cons c more =>
        obtain ⟨rfl, -⟩ := List.cons.inj rest
        simp [isFirst] at sameCount
  · rintro ⟨rfl, rfl⟩
    rfl

namespace Resource

/-- The type and the name of a resource, cut at the dots in them. -/
def pieces (type name : String) : List (List Char) := Text.piecesAt '.' [type, name]

variable {mode : ResourceMode} {type name other otherName : String}

/-- The dots within the labels look like the one between them, so an address tells the pieces of the
labels, and nothing else. -/
theorem addressOf_eq_iff :
    addressOf mode type name = addressOf mode other otherName ↔
      pieces type name = pieces other otherName := by
  have joined (type name : String) : ".".intercalate [type, name] = type ++ "." ++ name := by
    simp [String.intercalate_cons_cons]
  have joinedData (type name : String) :
      ".".intercalate ["data", type, name] = "data." ++ type ++ "." ++ name := by
    simp [String.intercalate_cons_cons, ← String.toList_inj]
  cases mode with
  | managed =>
    rw [addressOf, addressOf, ← joined, ← joined]
    exact Text.joined_eq_iff rfl
  | data =>
    rw [addressOf, addressOf, ← joinedData, ← joinedData, Text.joined_eq_iff rfl]
    exact List.append_right_inj _

/-- Where as many dots are in the one type as in the other, an address tells the labels. -/
theorem addressOf_inj (sameDots : type.toList.count '.' = other.toList.count '.') :
    addressOf mode type name = addressOf mode other otherName ↔
      type = other ∧ name = otherName := by
  have letters : pieces type name = pieces other otherName ↔
      type.toList ++ '.' :: name.toList = other.toList ++ '.' :: otherName.toList := by
    rw [← @addressOf_eq_iff .managed]
    simp [addressOf, ← String.toList_inj]
  rw [addressOf_eq_iff, letters, append_cons_inj_of_count sameDots, String.toList_inj,
    String.toList_inj]

end Resource

def Statement.sharesPieces (mode : ResourceMode) (type name : String) (s : Statement) : Bool :=
  (s.resource? mode).any fun block =>
    Resource.pieces block.type block.name = Resource.pieces type name

theorem Statement.sharesPieces_iff {mode : ResourceMode} {type name : String} {s : Statement} :
    s.sharesPieces mode type name = true ↔
      s.target? = some (.resource mode (Resource.addressOf mode type name)) := by
  cases s with
  | resource pos own other otherName body =>
    by_cases same : own = mode
    · subst same
      simp [sharesPieces, resource?, target?, Resource.addressOf_eq_iff]
    · simp [sharesPieces, resource?, target?, same]
  | terraform | provider | inputVariable | output | moduleCall | malformed | noBody =>
    simp [sharesPieces, resource?, target?]

/-! ## Runs of blocks -/

theorem EntryKind.get?_bring_congr {β α : Type} (kind : EntryKind β α) {role : FileRole}
    {a b : SortedMap α} {key : String} (same : a.get? key = b.get? key) (block : β) :
    (kind.bring role a block).get? key = (kind.bring role b block).get? key := by
  by_cases own : key = kind.key block
  · subst own
    cases role with
    | primary => rw [get?_bring_primary, get?_bring_primary]
    | override => rw [get?_bring_override, get?_bring_override, same]
  · rw [kind.get?_bring_ne own, kind.get?_bring_ne own, same]

namespace Module

def AgreeAt (mode : ResourceMode) (address : String) (a b : Module) : Prop :=
  (a.resourcesOf mode).get? address = (b.resourcesOf mode).get? address

namespace AgreeAt

variable {mode : ResourceMode} {address : String} {a b : Module}

theorem declare (agree : AgreeAt mode address a b) (role : FileRole) (s : Statement) :
    AgreeAt mode address (a.declare role s) (b.declare role s) := by
  rw [AgreeAt, resourcesOf_declare, resourcesOf_declare]
  cases s.resource? mode with
  | none => exact agree
  | some block => exact (EntryKind.resource mode).get?_bring_congr agree block

theorem declare_left (agree : AgreeAt mode address a b) (role : FileRole) {s : Statement}
    (other : s.target? ≠ some (.resource mode address)) :
    AgreeAt mode address (a.declare role s) b := by
  rw [AgreeAt, resourcesOf_declare,
    EntryKind.get?_elim_bring _ (.resource mode) Statement.target?_of_resource? other]
  exact agree

/-- Blocks with other pieces can be left out of a run. -/
theorem declareAll_filter {type name : String}
    (agree : AgreeAt mode (Resource.addressOf mode type name) a b)
    (run : List (FileRole × Statement)) :
    AgreeAt mode (Resource.addressOf mode type name) (a.declareAll run)
      (b.declareAll (run.filter (·.2.sharesPieces mode type name))) := by
  induction run generalizing a b with
  | nil => exact agree
  | cons step run inductionHypothesis =>
    by_cases shares : step.2.sharesPieces mode type name = true
    · rw [List.filter_cons, if_pos shares]
      exact inductionHypothesis (agree.declare step.1 step.2)
    · rw [List.filter_cons, if_neg shares]
      have other := mt Statement.sharesPieces_iff.2 shares
      exact inductionHypothesis (agree.declare_left step.1 other)

theorem filter_reports (agree : AgreeAt mode address a b) (role : FileRole) {s : Statement}
    (aimed : s.target? = some (.resource mode address)) :
    (a.reports role s).filter Problem.isAboutEntry =
      (b.reports role s).filter Problem.isAboutEntry := by
  have samePlace : a.place? (.resource mode address) = b.place? (.resource mode address) :=
    congrArg (Option.map Resource.pos) agree
  rw [filter_isAboutEntry_reports, filter_isAboutEntry_reports, aimed]
  simp only [Option.elim, samePlace]

end AgreeAt

section

variable {m : Module} {mode : ResourceMode} {type name : String}

theorem get?_declare_primary (pos : SourcePos) (body : Members) :
    ((m.declare .primary (.resource pos mode type name body)).resourcesOf mode).get?
        (Resource.addressOf mode type name) =
      some ⟨mode, type, name, givenProvider type body, pos⟩ := by
  rw [resourcesOf_declare, Statement.resource?, if_pos rfl]
  have brought := (EntryKind.resource mode).get?_bring_primary (m.resourcesOf mode)
    ⟨pos, type, name, body⟩
  rwa [EntryKind.resource_fresh] at brought

variable {previous : Resource}
  (held : (m.resourcesOf mode).get? (Resource.addressOf mode type name) = some previous)

include held

theorem get?_declare_override (pos : SourcePos) (body : Members) :
    ((m.declare .override (.resource pos mode type name body)).resourcesOf mode).get?
        (Resource.addressOf mode type name) =
      some { previous with
        provider :=
          if body.has "provider" then givenProvider type body else previous.provider } := by
  rw [resourcesOf_declare, Statement.resource?, if_pos rfl]
  have brought := (EntryKind.resource mode).get?_bring_override (m.resourcesOf mode)
    ⟨pos, type, name, body⟩
  rwa [show (EntryKind.resource mode).key ⟨pos, type, name, body⟩ =
      Resource.addressOf mode type name from rfl, held, Option.map_some, Option.getD_some,
    EntryKind.resource_amend] at brought

theorem filter_reports_of_held (role : FileRole) (pos : SourcePos) (body : Members) :
    (m.reports role (.resource pos mode type name body)).filter Problem.isAboutEntry =
      match role with
      | .primary =>
        [.duplicate (resourceKind mode) (Resource.addressOf mode type name) previous.pos]
      | .override => [] := by
  have place : m.place? (.resource mode (Resource.addressOf mode type name)) = some previous.pos :=
    congrArg (Option.map Resource.pos) held
  rw [filter_isAboutEntry_reports]
  simp only [Statement.target?, Option.elim, place]
  cases role <;> rfl

end

end Module

/-! ## Apart or not -/

/-- Two resources of a mode have to do with each other if and only if their types and names are the
same pieces when they are cut at their dots. Those are the ones with the same address; so, where the
types have as many dots, only those with the same labels. The resource under an address, and what a
block with this address reports about it, are settled by the blocks with these pieces: all others
can be put in and left out, in whatever role. So the resource that is there has these pieces. But
where the pieces are the same, a block of the one takes the place of the other and reports it as its
duplicate, and an override block of the one amends the other and reports nothing about it. -/
theorem resources_apart_by_pieces (mode : ResourceMode) (type name : String) :
    let address := Resource.addressOf mode type name
    let resource? (m : Module) := (m.resourcesOf mode).get? address
    let about (m : Module) (role : FileRole) (s : Statement) :=
      (m.reports role s).filter Problem.isAboutEntry
    (∀ other otherName,
      (address = Resource.addressOf mode other otherName ↔
        Resource.pieces type name = Resource.pieces other otherName) ∧
      (type.toList.count '.' = other.toList.count '.' →
        (address = Resource.addressOf mode other otherName ↔ type = other ∧ name = otherName))) ∧
    (∀ (m : Module) (run others : List (FileRole × Statement)),
      run.filter (·.2.sharesPieces mode type name) =
        others.filter (·.2.sharesPieces mode type name) →
      resource? (m.declareAll run) = resource? (m.declareAll others) ∧
      ∀ role pos body, about (m.declareAll run) role (.resource pos mode type name body) =
        about (m.declareAll others) role (.resource pos mode type name body)) ∧
    (∀ path files previous, resource? ((Module.new path).decodeAll files) = some previous →
      previous.mode = mode ∧
        Resource.pieces previous.type previous.name = Resource.pieces type name) ∧
    (∀ other otherName, Resource.pieces other otherName = Resource.pieces type name →
      ∀ (m : Module) previous, resource? m = some previous → ∀ pos body,
        let block := Statement.resource pos mode other otherName body
        resource? (m.declare .primary block) =
          some ⟨mode, other, otherName, givenProvider other body, pos⟩ ∧
        about m .primary block = [.duplicate (Module.resourceKind mode) address previous.pos] ∧
        resource? (m.declare .override block) = some { previous with
          provider :=
            if body.has "provider" then givenProvider other body else previous.provider } ∧
        about m .override block = []) := by
  intro address resource? about
  refine ⟨?_, ?_, ?_, ?_⟩
  · intro other otherName
    exact ⟨Resource.addressOf_eq_iff, Resource.addressOf_inj⟩
  · intro m run others sameBlocks
    have itself : Module.AgreeAt mode address m m := rfl
    have related := itself.declareAll_filter run
    have relatedOthers := itself.declareAll_filter others
    rw [sameBlocks] at related
    have agree : Module.AgreeAt mode address (m.declareAll run) (m.declareAll others) :=
      related.trans relatedOthers.symm
    exact ⟨agree, fun role pos body => agree.filter_reports role rfl⟩
  · intro path files previous held
    obtain ⟨rfl, sameAddress⟩ :=
      (coherent_decodeAll path files).resources mode address previous held
    exact ⟨rfl, Resource.addressOf_eq_iff.1 sameAddress⟩
  · intro other otherName together m previous held pos body block
    have sameAddress : address = Resource.addressOf mode other otherName :=
      Resource.addressOf_eq_iff.2 together.symm
    simp only [resource?, sameAddress] at held ⊢
    exact ⟨Module.get?_declare_primary pos body,
      Module.filter_reports_of_held held .primary pos body,
      Module.get?_declare_override held pos body,
      Module.filter_reports_of_held held .override pos body⟩

/-- Two resources of one type, and an override file that amends the one that has a dot in its name,
under another type and name. -/
def dottedResources : List (FileRole × ParsedFile) :=
  [(.primary, ⟨"main.tf.json", .json, "", .object [
      ("resource", .object [("a", .object [("b", .object []), ("b.c", .object [])])])]⟩),
    (.override, ⟨"override.tf.json", .json, "", .object [
      ("resource", .object [("a.b", .object [("c", .object [("provider", .string "x")])])])]⟩)]

theorem dottedResources_settled :
    let m := (Module.new "m").decodeAll dottedResources
    let place : SourcePos := ⟨"main.tf.json", 1⟩
    let amended : Resource := ⟨.managed, "a", "b.c", .plain "x", place⟩
    let others := (runOf dottedResources).filter (·.2.sharesPieces .managed "a" "b")
    others.length = 1 ∧
    m.managedResources.get? "a.b" =
      ((Module.new "m").declareAll others).managedResources.get? "a.b" ∧
    m.managedResources.get? "a.b.c" = some amended ∧
    Resource.pieces "a" "b.c" = Resource.pieces "a.b" "c" ∧
    Resource.addressOf .managed "a" "b" ≠ Resource.addressOf .managed "a" "b.c" ∧
    (m.reports .primary (.resource place .managed "a.b" "c" [])).filter Problem.isAboutEntry =
      [.duplicate "resource" "a.b.c" place] := by
  intro m place amended others
  have held : m.managedResources.get? "a.b.c" = some amended := by decide +kernel
  have sameOthers : (runOf dottedResources).filter (·.2.sharesPieces .managed "a" "b") =
      others.filter (·.2.sharesPieces .managed "a" "b") := by
    simp only [others, List.filter_filter, Bool.and_self]
  obtain ⟨told, settled, -, -⟩ := resources_apart_by_pieces .managed "a" "b"
  obtain ⟨-, -, ofFiles, disturbed⟩ := resources_apart_by_pieces .managed "a.b" "c"
  have together : Resource.pieces "a" "b.c" = Resource.pieces "a.b" "c" :=
    (ofFiles "m" dottedResources amended held).2
  have reported := (disturbed "a.b" "c" rfl m amended held place []).2.1
  refine ⟨by decide +kernel, (settled (Module.new "m") _ _ sameOthers).1, held, together, ?_,
    reported⟩
  intro sameAddress
  exact absurd (((told "a" "b.c").2 rfl).1 sameAddress).2 (by decide)

/-- That an address tells the type and the name is false. A block of another type and name changes
the provider of this resource, and nothing is reported; in a primary file it takes its place. -/
theorem dotted_labels_collide :
    let m := (Module.new "m").decodeAll dottedResources
    let place : SourcePos := ⟨"main.tf.json", 1⟩
    let block := Statement.resource place .managed "a.b" "c" []
    Resource.addressOf .managed "a" "b.c" = Resource.addressOf .managed "a.b" "c" ∧
    m.managedResources.get? "a.b.c" = some ⟨.managed, "a", "b.c", .plain "x", place⟩ ∧
    m.diagnostics = [] ∧
    (m.declare .primary block).managedResources.get? "a.b.c" =
      some ⟨.managed, "a.b", "c", .plain "a.b", place⟩ ∧
    (m.declare .primary block).diagnostics =
      [(Problem.duplicate "resource" "a.b.c" place).diagnostic place] ∧
    ¬ ∀ mode type name other otherName,
      Resource.addressOf mode type name = Resource.addressOf mode other otherName →
        type = other ∧ name = otherName := by
  refine ⟨rfl, by decide +kernel, by decide +kernel, by decide +kernel, by decide +kernel, ?_⟩
  intro unique
  exact absurd (unique .managed "a" "b.c" "a.b" "c" rfl).1 (by decide)

end ModuleSurvey
