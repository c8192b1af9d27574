import ModuleSurvey.Proofs.BlockIndex.Lookups
import ModuleSurvey.Proofs.Module.Reports

/-! # Where entries are

The places of entries come from the statements: an entry is where it was declared first, since a
block that amends it leaves its place alone. And every statement of a body is on a line of the file in
which its blocks are looked up.

* `Statement.ofBody_inText` — the places of the statements of a body.
* `Module.PlacesIn`, `Module.PlacesIn.declare` — the places of the entries.
-/

namespace ModuleSurvey

open Json (Value Members)

/-! ## Indexes of one file -/

namespace BlockIndex

def SameFile (x y : BlockIndex) : Prop := ∃ asked, x = { y with asked := asked }

variable {x y z : BlockIndex} {pos : SourcePos}

theorem SameFile.refl (x : BlockIndex) : x.SameFile x := ⟨x.asked, rfl⟩

theorem SameFile.trans : x.SameFile y → y.SameFile z → x.SameFile z := by
  rintro ⟨asked, rfl⟩ ⟨_, rfl⟩
  exact ⟨asked, rfl⟩

theorem sameFile_locate (x : BlockIndex) (word : String) (labels : List String) :
    (x.locate word labels).2.SameFile x := ⟨_, rfl⟩

theorem SameFile.inText : x.SameFile y → x.InText pos → y.InText pos := by
  rintro ⟨_, rfl⟩ inText
  exact inText

theorem SameFile.headersInText : x.SameFile y → y.HeadersInText → x.HeadersInText := by
  rintro ⟨_, rfl⟩ headers
  exact headers

end BlockIndex

/-! ## Statements -/

namespace Statement

variable {x : BlockIndex}

theorem pos_of_ofBlock? {type : BlockType} {pos : SourcePos} {block : Block} {s : Statement}
    (made : ofBlock? type pos block = some s) : s.pos = pos := by
  unfold ofBlock? at made
  split at made <;> cases made <;> rfl

theorem ofBlocks_inText (headers : x.HeadersInText) (type : BlockType) (blocks : List Block) :
    (∀ s ∈ (ofBlocks type blocks x).1, x.InText s.pos) ∧ (ofBlocks type blocks x).2.SameFile x := by
  induction blocks generalizing x with
  | nil => exact ⟨nofun, .refl x⟩
  | cons block blocks inductionHypothesis =>
    have located := BlockIndex.locate_inText headers type.word block.labels
    have sameFile := x.sameFile_locate type.word block.labels
    obtain ⟨inText, sameRest⟩ := inductionHypothesis (sameFile.headersInText headers)
    refine ⟨fun s member => ?_, sameRest.trans sameFile⟩
    rcases List.mem_append.1 member with made | later
    · exact pos_of_ofBlock? (Option.mem_toList.1 made) ▸ located
    · exact sameFile.inText (inText s later)

theorem ofMember_inText (headers : x.HeadersInText) (name : String) (value : Value) :
    (∀ s ∈ (ofMember name value x).1, x.InText s.pos) ∧ (ofMember name value x).2.SameFile x := by
  unfold ofMember
  split
  case h_1 => exact ⟨nofun, .refl x⟩
  case h_2 type _ =>
    split
    case h_1 blocks _ => exact ofBlocks_inText headers type blocks
    case h_2 fault _ =>
      refine ⟨fun s member => ?_, x.sameFile_locate type.word []⟩
      obtain rfl := List.mem_singleton.1 member
      exact BlockIndex.locate_inText headers type.word []

theorem ofMembers_inText (headers : x.HeadersInText) (ms : Members) :
    ∀ s ∈ (ofMembers ms x).1, x.InText s.pos := by
  induction ms generalizing x with
  | nil => exact nofun
  | cons e ms inductionHypothesis =>
    obtain ⟨inText, sameFile⟩ := ofMember_inText headers e.1 e.2
    intro s member
    rcases List.mem_append.1 member with first | later
    · exact inText s first
    · exact sameFile.inText (inductionHypothesis (sameFile.headersInText headers) s later)

theorem ofBody_inText (headers : x.HeadersInText) (body : Value) :
    ∀ s ∈ (ofBody body x).1, x.InText s.pos := by
  cases body with
  | object ms => exact ofMembers_inText headers ms
  | null | bool | number | string | array =>
    intro s member
    obtain rfl := List.mem_singleton.1 member
    exact x.inText_filePos

end Statement

/-! ## Entries -/

namespace Module

def PlacesIn (Good : SourcePos → Prop) (m : Module) : Prop :=
  ∀ target pos, m.place? target = some pos → Good pos

variable {Good : SourcePos → Prop} {m : Module}

theorem placesIn_new (Good : SourcePos → Prop) (path : String) : (new path).PlacesIn Good := by
  intro target pos found
  cases target with
  | resource mode address => cases mode <;> cases found
  | inputVariable | output | moduleCall => cases found

theorem place_of_step {β α : Type} {kind : EntryKind β α} {block? : Option β} {place : α → SourcePos}
    {role : FileRole} {before after : SortedMap α} {here : SourcePos}
    (step : after = block?.elim before (kind.bring role before))
    (fresh : ∀ block, block? = some block → place (kind.fresh block) = here)
    (amended : ∀ block entry, place (kind.amend block entry) = place entry)
    (held : ∀ key pos, (before.get? key).map place = some pos → Good pos) (good : Good here)
    (key : String) (pos : SourcePos) (found : (after.get? key).map place = some pos) : Good pos := by
  subst step
  cases is : block? with
  | none =>
    rw [is] at found
    exact held key pos found
  | some block =>
    rw [is] at found
    obtain ⟨entry, isEntry, rfl⟩ := Option.map_eq_some_iff.1 found
    have kept : ∀ key entry, (kind.bring role before block).get? key = some entry →
        Good (place entry) :=
      kind.forall_get?_bring (fun key entry was => held key _ (Option.map_eq_some_iff.2 ⟨entry, was, rfl⟩))
        (fresh block is ▸ good) fun entry goodEntry => (amended block entry).symm ▸ goodEntry
    exact kept key entry isEntry

/-- A statement declares at its own place, and amending leaves places alone. -/
theorem PlacesIn.declare (places : m.PlacesIn Good) (role : FileRole) {s : Statement}
    (good : Good s.pos) : (m.declare role s).PlacesIn Good := by
  intro target
  cases target with
  | inputVariable name =>
    refine place_of_step (inputs_declare role m s) (fun block is => ?_) (fun block v => ?_)
      (fun key => places (.inputVariable key)) good name
    · rw [EntryKind.inputVariable_fresh]
      cases s <;> cases is
      rfl
    · rw [EntryKind.inputVariable_amend]
  | output name =>
    refine place_of_step (outputs_declare role m s) (fun block is => ?_) (fun block o => rfl)
      (fun key => places (.output key)) good name
    cases s <;> cases is
    rfl
  | resource mode address =>
    refine place_of_step (resourcesOf_declare mode role m s) (fun block is => ?_) (fun block r => rfl)
      (fun key => places (.resource mode key)) good address
    cases s with
    | resource pos own type name body =>
      rw [Statement.resource?] at is
      split at is
      · cases is
        rfl
      · cases is
    | terraform | provider | inputVariable | output | moduleCall | malformed | noBody => cases is
  | moduleCall name =>
    refine place_of_step (moduleCalls_declare role m s) (fun block is => ?_) (fun block c => rfl)
      (fun key => places (.moduleCall key)) good name
    cases s <;> cases is
    rfl

theorem PlacesIn.foldl_declare (places : m.PlacesIn Good) (role : FileRole)
    {statements : List Statement} (good : ∀ s ∈ statements, Good s.pos) :
    (statements.foldl (Module.declare role) m).PlacesIn Good :=
  List.foldlRecOn statements (Module.declare role) places fun _ held s member =>
    held.declare role (good s member)

end Module

end ModuleSurvey
