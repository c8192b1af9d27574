import ModuleSurvey.Proofs.Block
import ModuleSurvey.Proofs.Statement
import ModuleSurvey.Proofs.Module.Reports

/-! # Malformed blocks

The blocks of a type are declared all together or not at all. Where the value of a type does not
consist of blocks, nothing of it is declared, however many of its blocks are in order: the module is
the one that the file gives without this value, with one more problem. The look-up that the problem
makes in the index is of no concern to the look-ups after it, since no block of another type is
sought by the same words; and a problem that was reported changes nothing that is reported later.

* `Module.decode_eq_of_malformed` — the statements of such a file, and what they report.
* `blocks_all_or_nothing` — the law.
-/

namespace ModuleSurvey

open Json (Value Members)

namespace Module

variable {role : FileRole}

theorem foldl_declare_complain (m : Module) (pos : SourcePos) (problem : Problem)
    (statements : List Statement) :
    statements.foldl (declare role) (m.complain pos problem) =
      (statements.foldl (declare role) m).withDiagnostics
        (m.diagnostics ++ problem.diagnostic pos :: m.reportsAll role statements) := by
  have complained : m.complain pos problem =
      m.withDiagnostics (m.diagnostics ++ [problem.diagnostic pos]) := rfl
  rw [complained, foldl_declare_withDiagnostics, List.append_assoc]
  rfl

theorem decode_eq_of_malformed {type : BlockType} {value : Value} {fault : BlockFault}
    {before after : Members} (refused : Block.collect [] type.labelCount value = .error fault)
    (otherTypes : ∀ e ∈ after, e.1 ≠ type.word) (m : Module) (index : BlockIndex) :
    let earlier := m.decode role index (.object before)
    let without := m.decode role index (.object (before ++ after))
    let place := ((Statement.ofMembers before index).2.locate type.word []).1
    ∃ later, without.diagnostics = earlier.diagnostics ++ later ∧
      m.decode role index (.object (before ++ (type.word, value) :: after)) =
        without.withDiagnostics (earlier.diagnostics
          ++ (Problem.malformedBlock type.word fault.message).diagnostic place :: later) := by
  intro earlier without place
  let reached := (Statement.ofMembers before index).2
  let rest := (Statement.ofMembers after reached).1
  -- The look-up of the malformed value leaves the places of the members behind it as they are.
  have sameRest : (Statement.ofMembers after (reached.locate type.word []).2).1 = rest := by
    have agree := reached.agreeApart_locate type.word []
    rw [show (Header.mk type.word []).key = type.word by simp [Header.key]] at agree
    exact Statement.ofMembers_agreeApart agree otherTypes
  have whole : (Statement.ofMembers (before ++ (type.word, value) :: after) index).1 =
      (Statement.ofMembers before index).1 ++ .malformed place type fault :: rest := by
    rw [Statement.ofMembers_append, Statement.ofMembers, Statement.ofMember_of_fault refused]
    simp only [reached] at sameRest
    simp only [sameRest]
    rfl
  have withoutRest : without = rest.foldl (declare role) earlier := by
    simp only [without, decode, Statement.ofBody, Statement.ofMembers_append, List.foldl_append]
    rfl
  refine ⟨earlier.reportsAll role rest, ?_, ?_⟩
  · rw [withoutRest, diagnostics_foldl_declare]
  · rw [withoutRest, ← foldl_declare_complain]
    simp only [decode, Statement.ofBody, whole, List.foldl_append, List.foldl_cons]
    rfl

end Module

/-- A value has its blocks collected iff it belongs to the grammar, and then they are its leaves. And
a file in which the value of a type does not belong to the grammar gives the module that it gives
without this value, with one more problem, reported between those of the types before it and those
of the types behind it. -/
theorem blocks_all_or_nothing :
    (∀ (labels : List String) (count : Nat) (value : Value) (blocks : List Block),
      Block.collect labels count value = .ok blocks ↔
        Block.Shaped count value ∧ blocks = (Block.leaves count value).map (.behind labels)) ∧
    ∀ (m : Module) (role : FileRole) (index : BlockIndex) (root : SortedMap Value)
      (type : BlockType) (value : Value),
      root.get? type.word = some value → ¬ Block.Shaped type.labelCount value →
      let before := m.decode role index (.object (root.below type.word).entries)
      let without := m.decode role index (.object (root.erase type.word).entries)
      let reached := (Statement.ofBody (.object (root.below type.word).entries) index).2
      let place := (reached.locate type.word []).1
      ∃ fault later, Block.collect [] type.labelCount value = .error fault ∧
        without.diagnostics = before.diagnostics ++ later ∧
        m.decode role index (.object root.entries) =
          { without with
            diagnostics := before.diagnostics ++
              (Problem.malformedBlock type.word fault.message).diagnostic place :: later } := by
  refine ⟨Block.collect_eq_ok_iff, ?_⟩
  intro m role index root type value found malformed before without reached place
  obtain ⟨fault, refused⟩ := (Block.exists_fault_iff [] type.labelCount value).2 malformed
  obtain ⟨above, entries, erased, greater⟩ := SortedMap.exists_entries_eq found
  have otherTypes : ∀ e ∈ above, e.1 ≠ type.word :=
    fun e member same => String.lt_irrefl type.word (same ▸ greater e member)
  obtain ⟨later, reported, decoded⟩ :=
    Module.decode_eq_of_malformed refused otherTypes m index
  refine ⟨fault, later, refused, ?_, ?_⟩
  · simp only [without, erased]
    exact reported
  · simp only [without, erased, entries]
    exact decoded

def strayResources : Value :=
  .object [
    ("aws_instance", .object [("db", .object []), ("web", .object [])]),
    ("aws_vpc", .object [("main", .string "10.0.0.0/16")])]

def strayFile : SortedMap Value :=
  .ofList [
    ("output", .object [("id", .object [])]),
    ("resource", strayResources),
    ("variable", .object [("region", .object [])])]

theorem not_shaped_strayResources : ¬ Block.Shaped 2 strayResources :=
  (Block.exists_fault_iff [] 2 strayResources).1 ⟨_, rfl⟩

theorem strayFile_declares_no_resource :
    let index := BlockIndex.scan "main.tf.json" .json ""
    let m := (Module.new "m").decode .primary index (.object strayFile.entries)
    let without := (Module.new "m").decode .primary index (.object (strayFile.erase "resource").entries)
    strayFile.get? "resource" = some strayResources ∧ ¬ Block.Shaped 2 strayResources ∧
    m = { without with
      diagnostics := [(Problem.malformedBlock "resource"
        "expected an object for \"aws_vpc.main\", found a string").diagnostic ⟨"main.tf.json", 1⟩] } ∧
    m.managedResources = ∅ ∧ m.outputs.keys = ["id"] ∧ m.inputs.keys = ["region"] := by
  intro index m without
  obtain ⟨fault, later, refused, reported, decoded⟩ :=
    blocks_all_or_nothing.2 (Module.new "m") .primary index strayFile (.resource .managed)
      strayResources rfl not_shaped_strayResources
  have message : fault = ⟨["aws_vpc", "main"], "a string"⟩ := by
    cases refused
    rfl
  -- The file without the resources has no problem, so nothing is reported behind this one.
  have noneReported : [] = [] ++ later := reported
  obtain rfl : later = [] := noneReported.symm
  subst message
  exact ⟨rfl, not_shaped_strayResources, decoded, rfl, rfl, rfl⟩

end ModuleSurvey
