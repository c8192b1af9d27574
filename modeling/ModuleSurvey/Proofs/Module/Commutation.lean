import ModuleSurvey.Proofs.Module.BookOrder
import ModuleSurvey.Proofs.Module.Places

/-! # Primary files commute

Two primary files that declare no entry both, and of which no provider has a source in both, can be
brought into a module in either order. The entries are the same, and so is what the books hold and
what is reported, though it comes in another order. What one statement reports does not depend on
the statements of the other file: it asks where its own target was declared, and which sources were
known of the providers that it gives a source of.

* `Statement.Independent` — the condition for two statements.
* `Module.reports_congr` — what the reports of a statement depend on.
* `Module.SameUpToOrder`, `Module.SameUpToOrder.declare`, `Module.sameUpToOrder_declare_comm` — one
  statement after the other, in either order.
* `primary_files_commute` — the law.
-/

namespace ModuleSurvey

open Json (Value Members)

/-! ## Independent statements -/

namespace Statement

variable {s t : Statement}

def sourced (s : Statement) : List String :=
  s.notes.filterMap fun note => note.address?.map fun _ => note.provider

/-- Two statements that do not declare the same entry, and do not both give the source of a
provider. -/
structure Independent (s t : Statement) : Prop where
  target : ∀ target, s.target? = some target → t.target? ≠ some target
  source : ∀ provider ∈ s.sourced, provider ∉ t.sourced

theorem Independent.symm (independent : s.Independent t) : t.Independent s where
  target target aimed other := independent.target target other aimed
  source provider member other := independent.source provider other member

theorem mem_sourced_iff {provider : String} :
    provider ∈ s.sourced ↔ ¬ Books.Unsourced provider s.notes := by
  simp [sourced, Books.Unsourced, Option.eq_none_iff_forall_ne_some, and_comm]

theorem Independent.notes (independent : s.Independent t) :
    ∀ note ∈ s.notes, ∀ other ∈ t.notes, note.Independent other := by
  intro note member other among same
  by_cases unsourced : note.address? = none
  · exact .inl unsourced
  · have sourcedHere : note.provider ∈ s.sourced :=
      mem_sourced_iff.2 fun none => unsourced (none note member rfl)
    have unsourcedThere : Books.Unsourced note.provider t.notes :=
      Classical.not_not.1 fun given =>
        independent.source _ sourcedHere (mem_sourced_iff.2 given)
    exact .inr (unsourcedThere other among same.symm)

end Statement

/-! ## Entries -/

namespace EntryKind

variable {β α : Type} (kind : EntryKind β α)

variable (aim : String → Target) {block? : Statement → Option β}
  (aimed : ∀ {s block}, block? s = some block → s.target? = some (aim (kind.key block)))
  {s t : Statement}

include aimed

theorem elim_bring_comm (independent : s.Independent t) (map : SortedMap α) :
    (block? t).elim ((block? s).elim map (kind.bring .primary map))
        (kind.bring .primary ((block? s).elim map (kind.bring .primary map))) =
      (block? s).elim ((block? t).elim map (kind.bring .primary map))
        (kind.bring .primary ((block? t).elim map (kind.bring .primary map))) := by
  cases isFirst : block? s with
  | none => rfl
  | some first =>
    cases isSecond : block? t with
    | none => rfl
    | some second =>
      have different : kind.key first ≠ kind.key second := by
        intro same
        exact independent.target _ (aimed isFirst) (same ▸ aimed isSecond)
      simp only [Option.elim, bring_primary]
      exact map.insert_comm different _ _

end EntryKind

/-! ## Reports -/

namespace Module

variable {a b c m : Module} {s t : Statement}

/-- The reports of a statement depend on the place of its target, and on the sources of those
providers of which it gives a source. -/
theorem reports_congr
    (samePlace : ∀ target, s.target? = some target → a.place? target = b.place? target)
    (sameSource : ∀ provider ∈ s.sourced, a.books.source provider = b.books.source provider) :
    a.reports .primary s = b.reports .primary s := by
  have sameProblems : a.books.problems .primary (s.remarks .primary) =
      b.books.problems .primary (s.remarks .primary) := by
    apply Books.problems_congr
    intro provider sourced
    rw [notesOf_remarks] at sourced
    exact sameSource provider (Statement.mem_sourced_iff.2 sourced)
  unfold reports
  rw [sameProblems]
  cases aimed : s.target? with
  | none => rfl
  | some target => simp only [Option.elim, samePlace target aimed]

theorem reports_declare_of_independent (independent : s.Independent t) (m : Module) :
    (m.declare .primary s).reports .primary t = m.reports .primary t := by
  apply reports_congr
  case samePlace =>
    intro target aimed
    exact place?_declare_of_ne fun aimedToo => independent.target target aimedToo aimed
  case sameSource =>
    intro provider sourced
    rw [books_declare]
    apply Books.source_writeAll_of_unsourced
    by_cases unsourced : Books.Unsourced provider s.notes
    · exact unsourced
    · exact absurd sourced (independent.source provider (Statement.mem_sourced_iff.2 unsourced))

/-! ## Modules up to order -/

/-- Modules with the same entries that know and report the same, in whatever order. -/
structure SameUpToOrder (a b : Module) : Prop where
  entries : a.entries = b.entries
  requiredCore : a.requiredCore.Perm b.requiredCore
  books : a.books.SameUpToOrder b.books
  diagnostics : a.diagnostics.Perm b.diagnostics

namespace SameUpToOrder

theorem refl (a : Module) : a.SameUpToOrder a := ⟨rfl, .refl _, .refl _, .refl _⟩

theorem trans (first : a.SameUpToOrder b) (second : b.SameUpToOrder c) : a.SameUpToOrder c where
  entries := first.entries.trans second.entries
  requiredCore := first.requiredCore.trans second.requiredCore
  books := first.books.trans second.books
  diagnostics := first.diagnostics.trans second.diagnostics

theorem reports (same : a.SameUpToOrder b) (s : Statement) :
    a.reports .primary s = b.reports .primary s := by
  apply reports_congr
  case samePlace =>
    intro target _
    cases target with
    | inputVariable name =>
      exact congrArg (fun e : Entries => (e.inputs.get? name).map Variable.pos) same.entries
    | output name =>
      exact congrArg (fun e : Entries => (e.outputs.get? name).map Output.pos) same.entries
    | resource mode address =>
      cases mode with
      | managed =>
        exact congrArg (fun e : Entries => (e.managedResources.get? address).map Resource.pos)
          same.entries
      | data =>
        exact congrArg (fun e : Entries => (e.dataResources.get? address).map Resource.pos)
          same.entries
    | moduleCall name =>
      exact congrArg (fun e : Entries => (e.moduleCalls.get? name).map ModuleCall.pos) same.entries
  case sameSource =>
    intro provider _
    exact (same.books.requirement provider).source

theorem declare (same : a.SameUpToOrder b) (s : Statement) :
    (a.declare .primary s).SameUpToOrder (b.declare .primary s) where
  entries := by
    have sameInputs : a.inputs = b.inputs := congrArg Entries.inputs same.entries
    have sameOutputs : a.outputs = b.outputs := congrArg Entries.outputs same.entries
    have sameManaged : a.managedResources = b.managedResources :=
      congrArg Entries.managedResources same.entries
    have sameData : a.dataResources = b.dataResources := congrArg Entries.dataResources same.entries
    have sameCalls : a.moduleCalls = b.moduleCalls := congrArg Entries.moduleCalls same.entries
    rw [entries_declare, entries_declare, same.entries, sameInputs, sameOutputs, sameManaged,
      sameData, sameCalls]
  requiredCore := by
    rw [requiredCore_declare_primary, requiredCore_declare_primary]
    exact same.requiredCore.append_right _
  books := by
    rw [books_declare, books_declare]
    exact same.books.writeAll s.notes
  diagnostics := by
    rw [diagnostics_declare, diagnostics_declare, same.reports s]
    exact same.diagnostics.append_right _

end SameUpToOrder

theorem resourcesOf_declare_comm (independent : s.Independent t) (mode : ResourceMode) (m : Module) :
    ((m.declare .primary s).declare .primary t).resourcesOf mode =
      ((m.declare .primary t).declare .primary s).resourcesOf mode := by
  simp only [resourcesOf_declare]
  exact EntryKind.elim_bring_comm _ (.resource mode) Statement.target?_of_resource? independent _

theorem entries_declare_comm (independent : s.Independent t) (m : Module) :
    ((m.declare .primary s).declare .primary t).entries =
      ((m.declare .primary t).declare .primary s).entries := by
  simp only [entries, Entries.mk.injEq]
  refine ⟨?path, ?inputs, ?outputs, ?managed, ?data, ?calls⟩
  case path => simp only [path_declare]
  case inputs =>
    simp only [inputs_declare]
    exact EntryKind.elim_bring_comm _ .inputVariable Statement.target?_of_inputVariable? independent _
  case outputs =>
    simp only [outputs_declare]
    exact EntryKind.elim_bring_comm _ .output Statement.target?_of_output? independent _
  case managed => exact resourcesOf_declare_comm independent .managed m
  case data => exact resourcesOf_declare_comm independent .data m
  case calls =>
    simp only [moduleCalls_declare]
    exact EntryKind.elim_bring_comm _ .moduleCall Statement.target?_of_moduleCall? independent _

/-- Independent statements can be brought into a module in either order. -/
theorem sameUpToOrder_declare_comm (independent : s.Independent t) (m : Module) :
    ((m.declare .primary s).declare .primary t).SameUpToOrder
      ((m.declare .primary t).declare .primary s) where
  entries := entries_declare_comm independent m
  requiredCore := by
    simp only [requiredCore_declare_primary, List.append_assoc]
    exact List.perm_append_comm.append_left _
  books := by
    simp only [books_declare]
    exact Books.sameUpToOrder_writeAll_comm independent.notes m.books
  diagnostics := by
    -- Each of the two reports what it reports without the other.
    simp only [diagnostics_declare, reports_declare_of_independent independent,
      reports_declare_of_independent independent.symm, List.append_assoc]
    exact List.perm_append_comm.append_left _

end Module

/-! ## Files -/

/-- Two primary files that do not declare the same entry, and do not both give the source of a
provider, can be decoded into any module in either order. -/
theorem primary_files_commute (m : Module) (firstIndex secondIndex : BlockIndex)
    (first second : Value)
    (independent : ∀ s ∈ (Statement.ofBody first firstIndex).1,
      ∀ t ∈ (Statement.ofBody second secondIndex).1, s.Independent t) :
    ((m.decode .primary firstIndex first).decode .primary secondIndex second).SameUpToOrder
      ((m.decode .primary secondIndex second).decode .primary firstIndex first) :=
  foldl_comm Module.SameUpToOrder.refl Module.SameUpToOrder.trans (fun s same => same.declare s)
    (fun m s member t among => Module.sameUpToOrder_declare_comm (independent s member t among) m) m

def eastFile : Value :=
  .object [
    ("terraform", .object [
      ("required_version", .string ">= 1.5"),
      ("required_providers", .object [("aws", .object [
        ("source", .string "hashicorp/aws"), ("version", .string "~> 5.0"),
        ("configuration_aliases", .array [.string "aws.east", .string "aws.west"])])])]),
    ("variable", .object [("region", .object [("type", .array [])])])]

def westFile : Value :=
  .object [
    ("provider", .object [("aws", .object [("alias", .string "west"), ("version", .string "!= 5.3")])]),
    ("terraform", .object [("required_version", .string "< 2.0")]),
    ("variable", .object [("zone", .object [("type", .object [])])])]

def emptyIndex (filename : String) : BlockIndex := .scan filename .json ""

theorem independent_eastFile_westFile :
    ∀ s ∈ (Statement.ofBody eastFile (emptyIndex "east.tf.json")).1,
      ∀ t ∈ (Statement.ofBody westFile (emptyIndex "west.tf.json")).1, s.Independent t := by
  have unsourced : ∀ t ∈ (Statement.ofBody westFile (emptyIndex "west.tf.json")).1,
      t.sourced = [] := by decide
  have ofEast : (Statement.ofBody eastFile (emptyIndex "east.tf.json")).1.filterMap
      Statement.target? = [.inputVariable "region"] := rfl
  have ofWest : (Statement.ofBody westFile (emptyIndex "west.tf.json")).1.filterMap
      Statement.target? = [.inputVariable "zone"] := rfl
  intro s member t among
  refine ⟨fun target aimed aimedToo => ?_, fun provider _ => ?_⟩
  · have isRegion := ofEast ▸ List.mem_filterMap.2 ⟨s, member, aimed⟩
    have isZone := ofWest ▸ List.mem_filterMap.2 ⟨t, among, aimedToo⟩
    simp_all
  · rw [unsourced t among]
    exact List.not_mem_nil

theorem eastFile_westFile_commute :
    (∀ s ∈ (Statement.ofBody eastFile (emptyIndex "east.tf.json")).1,
      ∀ t ∈ (Statement.ofBody westFile (emptyIndex "west.tf.json")).1, s.Independent t) ∧
    let east := fun m : Module => m.decode .primary (emptyIndex "east.tf.json") eastFile
    let west := fun m : Module => m.decode .primary (emptyIndex "west.tf.json") westFile
    (west (east (Module.new "m"))).SameUpToOrder (east (west (Module.new "m"))) ∧
    west (east (Module.new "m")) ≠ east (west (Module.new "m")) ∧
    (west (east (Module.new "m"))).diagnostics.length = 2 := by
  refine ⟨independent_eastFile_westFile, primary_files_commute (Module.new "m") _ _ _ _
    independent_eastFile_westFile, ?_, rfl⟩
  intro same
  have sameCore : [">= 1.5", "< 2.0"] = ["< 2.0", ">= 1.5"] := congrArg Module.requiredCore same
  exact absurd sameCore (by decide)

end ModuleSurvey
