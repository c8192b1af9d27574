import ModuleSurvey.Proofs.Module.Books

/-! # What a statement says

What a statement says of its own can be listed without knowing the module: notes for the books on
providers, and problems that it has in any module. Going through the list gives the books after the
statement, and the problems that are reported on the way. Only a source that contradicts the books
is a problem of the statement and the books together.

* `Remark`, `Statement.remarks` — what a statement says, in its order.
* `Books.problems` — the problems that remarks lead to.
* `Module.Hears` — a module after remarks, and how it is put together from parts of them.
* `hears_declareTerraform`, `hears_declareProvider` — what these statements do is what they say.
* `books_declare` — a statement writes its notes and nothing else.
-/

namespace ModuleSurvey

open Json (Value Members)

/-- One thing that a statement says: a note, or a problem that it has whatever the books hold. -/
inductive Remark where
  | note (note : Note)
  | problem (problem : Problem)

def Remark.note? : Remark → Option Note
  | note noted => some noted
  | problem _ => none

def notesOf (remarks : List Remark) : List Note := remarks.filterMap Remark.note?

@[simp] theorem notesOf_nil : notesOf [] = [] := rfl

@[simp] theorem notesOf_append (first more : List Remark) :
    notesOf (first ++ more) = notesOf first ++ notesOf more :=
  List.filterMap_append

@[simp] theorem notesOf_cons_note (note : Note) (more : List Remark) :
    notesOf (.note note :: more) = note :: notesOf more := rfl

@[simp] theorem notesOf_cons_problem (problem : Problem) (more : List Remark) :
    notesOf (.problem problem :: more) = notesOf more := rfl

@[simp] theorem notesOf_map_note (notes : List Note) : notesOf (notes.map .note) = notes := by
  simp [notesOf, List.filterMap_map, Function.comp_def, Remark.note?]

@[simp] theorem notesOf_map_problem (problems : List Problem) :
    notesOf (problems.map .problem) = [] := by
  simp [notesOf, List.filterMap_map, Function.comp_def, Remark.note?]

theorem notesOf_flatMap {γ : Type} (remarks : γ → List Remark) (cs : List γ) :
    notesOf (cs.flatMap remarks) = cs.flatMap fun c => notesOf (remarks c) := by
  simp [notesOf, List.filterMap_flatMap]

/-! ## What statements say -/

/-- What a body says with an attribute: the notes for a value, and the problem of one that does not
do. -/
def Attribute.remarks {α : Type} (a : Attribute α) (context name : String) (notes : α → List Note) :
    List Remark :=
  match a with
  | given value => (notes value).map .note
  | rejected fault => [.problem (.invalidAttribute context name fault)]
  | missing | null => []

def requirementRemarks (provider : String) : Value → List Remark
  | .string constraint => [.note (.version provider constraint)]
  | .object attrs =>
    let context := "required_providers." ++ provider
    (match Attribute.string attrs "source" with
      | .given source => [.note (.source provider source)]
      | .rejected fault => [.problem (.invalidAttribute context "source" fault)]
      | .missing | .null => [.note (.named provider)])
    ++ (Attribute.string attrs "version").remarks context "version"
      (fun constraint => [.version provider constraint])
    ++ (Attribute.strings attrs "configuration_aliases").remarks context "configuration_aliases"
      fun aliases => aliases.map fun aliasName =>
        .configuration provider (.parse (unwrapTemplate aliasName))
  | _ => [.problem (.malformedRequirement provider)]

def requirementsRemarks (required : Value) : List Remark :=
  match Block.collect [] 0 required with
  | .error fault => [.problem (.malformedBlock "required_providers" fault.message)]
  | .ok blocks =>
    blocks.flatMap fun block => block.body.flatMap fun e => requirementRemarks e.1 e.2

def Statement.remarks (role : FileRole) : Statement → List Remark
  | .terraform _ body =>
    (Attribute.string body "required_version").remarks "terraform" "required_version" (fun _ => [])
      ++ (body.get? "required_providers").elim [] requirementsRemarks
  | .provider _ name body =>
    let context := "provider \"" ++ name ++ "\""
    .note (.named name)
      :: (Attribute.string body "version").remarks context "version"
        (fun constraint => [.version name constraint])
      ++ (Attribute.string body "alias").remarks context "alias"
        fun aliasName => [.aliased name (unwrapTemplate aliasName)]
  | .inputVariable _ name body => ((VariableBody.read body).problems name).map .problem
  | .output _ name body => ((OutputBody.read body).problems name).map .problem
  | .resource _ mode type name body =>
    .note (givenProvider type body).note
      :: ((ResourceBody.read body).problems mode type name).map .problem
  | .moduleCall _ name body => ((CallBody.read body).problems role name).map .problem
  | .malformed _ type fault => [.problem (.malformedBlock type.word fault.message)]
  | .noBody _ => [.problem .noBody]

theorem notesOf_attribute_remarks {α : Type} (a : Attribute α) (context name : String)
    (notes : α → List Note) :
    notesOf (a.remarks context name notes) = (a.value?.map notes).getD [] := by
  cases a <;> simp [Attribute.remarks, Attribute.value?]

theorem notesOf_requirementRemarks (provider : String) (value : Value) :
    notesOf (requirementRemarks provider value) = requirementNotes provider value := by
  cases value with
  | object attrs =>
    simp only [requirementRemarks, requirementNotes, notesOf_append, notesOf_attribute_remarks]
    congr 1
    · congr 1
      · cases Attribute.string attrs "source" <;> rfl
      · cases Attribute.string attrs "version" <;> rfl
    · cases Attribute.strings attrs "configuration_aliases" <;> rfl
  | null | bool | number | string | array => rfl

theorem notesOf_remarks (role : FileRole) (statement : Statement) :
    notesOf (statement.remarks role) = statement.notes := by
  cases statement with
  | terraform pos body =>
    simp only [Statement.remarks, Statement.notes, notesOf_append, notesOf_attribute_remarks]
    have versionless :
        ((Attribute.string body "required_version").value?.map fun _ => ([] : List Note)).getD [] =
          [] := by
      cases (Attribute.string body "required_version").value? <;> rfl
    rw [versionless, List.nil_append]
    cases body.get? "required_providers" with
    | none => rfl
    | some required =>
      simp only [Option.elim, requirementsRemarks, requirementsNotes]
      cases Block.collect [] 0 required with
      | error fault => rfl
      | ok blocks => simp only [notesOf_flatMap, notesOf_requirementRemarks]
  | provider pos name body =>
    simp only [Statement.remarks, Statement.notes, List.cons_append, notesOf_cons_note,
      notesOf_append, notesOf_attribute_remarks]
    cases (Attribute.string body "version").value? <;>
      cases (Attribute.string body "alias").value? <;> rfl
  | resource pos mode type name body => simp [Statement.remarks, Statement.notes]
  | inputVariable | output | moduleCall => simp [Statement.remarks, Statement.notes]
  | malformed | noBody => rfl

/-! ## What remarks lead to -/

namespace Books

def source (b : Books) (provider : String) : String := (b.requirement provider).source

def conflict? (role : FileRole) (b : Books) : Note → Option Problem
  | .source provider address =>
    let known := b.source provider
    -- Only in a primary file another source than the known one is a problem.
    if known = "" ∨ role = .override ∨ known = address then none
    else some (.severalSources provider known address)
  | _ => none

/-- The problems that remarks lead to, each remark heard with the books after those before it. -/
def problems (role : FileRole) (b : Books) : List Remark → List Problem
  | [] => []
  | .note note :: more => (b.conflict? role note).toList ++ (b.write role note).problems role more
  | .problem problem :: more => problem :: b.problems role more

theorem problems_append (role : FileRole) (b : Books) (first more : List Remark) :
    b.problems role (first ++ more) =
      b.problems role first ++ (b.writeAll role (notesOf first)).problems role more := by
  induction first generalizing b with
  | nil => rfl
  | cons remark first inductionHypothesis =>
    cases remark with
    | note note =>
      simp only [List.cons_append, problems, notesOf_cons_note, writeAll_cons, inductionHypothesis,
        List.append_assoc]
    | problem problem =>
      simp only [List.cons_append, problems, notesOf_cons_problem, inductionHypothesis]

@[simp] theorem problems_map_problem (role : FileRole) (b : Books) (problems : List Problem) :
    b.problems role (problems.map .problem) = problems := by
  induction problems with
  | nil => rfl
  | cons problem problems inductionHypothesis =>
    simp only [List.map_cons, Books.problems, inductionHypothesis]

end Books

def constrainCore (role : FileRole) (body : Members) (core : List String) : List String :=
  match (Attribute.string body "required_version").value?, role with
  | some constraint, .primary => core ++ [constraint]
  | some constraint, .override => [constraint]
  | none, _ => core

namespace Module

/-- A module after remarks at a place: their notes are in the books, and their problems reported. -/
structure Hears (m : Module) (role : FileRole) (pos : SourcePos) (remarks : List Remark)
    (after : Module) : Prop where
  requiredCore : after.requiredCore = m.requiredCore
  books : after.books = m.books.writeAll role (notesOf remarks)
  diagnostics : after.diagnostics =
    m.diagnostics ++ (m.books.problems role remarks).map (·.diagnostic pos)

namespace Hears

variable {m middle after : Module} {role : FileRole} {pos : SourcePos}
  {remarks first more : List Remark}

theorem nothing (m : Module) : m.Hears role pos [] m where
  requiredCore := rfl
  books := rfl
  diagnostics := by simp [Books.problems]

theorem append (heard : m.Hears role pos first middle) (later : middle.Hears role pos more after) :
    m.Hears role pos (first ++ more) after where
  requiredCore := later.requiredCore.trans heard.requiredCore
  books := by rw [later.books, heard.books, notesOf_append, Books.writeAll_append]
  diagnostics := by
    rw [later.diagnostics, heard.diagnostics, heard.books, Books.problems_append, List.map_append,
      List.append_assoc]

theorem foldl {γ : Type} {f : Module → γ → Module} {remarks : γ → List Remark}
    (step : ∀ (m : Module) c, m.Hears role pos (remarks c) (f m c)) (cs : List γ) (m : Module) :
    m.Hears role pos (cs.flatMap remarks) (cs.foldl f m) := by
  induction cs generalizing m with
  | nil => exact nothing m
  | cons c cs inductionHypothesis => exact (step m c).append (inductionHypothesis (f m c))

end Hears

/-! ## Single remarks -/

section

variable (m : Module) (role : FileRole) (pos : SourcePos)

theorem hears_complain (problem : Problem) :
    m.Hears role pos [.problem problem] (m.complain pos problem) where
  requiredCore := rfl
  books := rfl
  diagnostics := rfl

theorem hears_requireProvider (provider : String) :
    m.Hears role pos [.note (.named provider)] (m.requireProvider provider) where
  requiredCore := rfl
  books := rfl
  diagnostics := by simp [requireProvider, updateRequirement, Books.problems, Books.conflict?]

theorem hears_addVersion (provider constraint : String) :
    m.Hears role pos [.note (.version provider constraint)]
      (m.addVersion role provider constraint) where
  requiredCore := rfl
  books := books_addVersion m role provider constraint
  diagnostics := by simp [addVersion, updateRequirement, Books.problems, Books.conflict?]

theorem hears_setSource (provider source : String) :
    m.Hears role pos [.note (.source provider source)] (m.setSource role pos provider source) where
  requiredCore := by
    simp only [setSource]
    split
    · rfl
    · split <;> rfl
  books := books_setSource m role pos provider source
  diagnostics := by
    have known : m.books.source provider = (m.requirement provider).source := rfl
    simp only [setSource, Books.problems, Books.conflict?, known, List.append_nil]
    -- The source is written where none is known or the file overrides, and otherwise compared.
    by_cases written : (m.requirement provider).source = "" ∨ role = .override
    · have silent : (m.requirement provider).source = "" ∨ role = .override ∨
          (m.requirement provider).source = source := written.imp_right .inl
      simp [if_pos written, if_pos silent, updateRequirement]
    · obtain ⟨given, primary⟩ := not_or.1 written
      rw [if_neg written]
      by_cases same : (m.requirement provider).source = source
      · simp [same, requireProvider, updateRequirement]
      · simp only [given, primary, same, or_self, if_false]
        rfl

theorem hears_addConfigurationAlias (provider aliasName : String) :
    m.Hears role pos
      [.note (.configuration provider (.parse (unwrapTemplate aliasName)))]
      (m.addConfigurationAlias provider aliasName) where
  requiredCore := by
    simp only [addConfigurationAlias]
    split <;> rfl
  books := books_addConfigurationAlias role m provider aliasName
  diagnostics := by
    simp only [addConfigurationAlias, Books.problems, Books.conflict?]
    split <;> simp [addAlias, updateRequirement]

/-! ## Statements about providers -/

theorem hears_declareRequirement (provider : String) (value : Value) :
    m.Hears role pos (requirementRemarks provider value)
      (m.declareRequirement role pos provider value) := by
  cases value with
  | string constraint => exact hears_addVersion m role pos provider constraint
  | object attrs =>
    simp -zeta only [declareRequirement, requirementRemarks]
    extract_lets context sourced constrained
    -- The source, the constraint and the aliases are heard one after the other.
    have source : m.Hears role pos
        (match Attribute.string attrs "source" with
          | .given source => [.note (.source provider source)]
          | .rejected fault => [.problem (.invalidAttribute context "source" fault)]
          | .missing | .null => [.note (.named provider)]) sourced := by
      unfold sourced
      cases Attribute.string attrs "source" with
      | given source => exact hears_setSource m role pos provider source
      | rejected fault => exact hears_complain m role pos _
      | missing | null => exact hears_requireProvider m role pos provider
    have constraint : sourced.Hears role pos
        ((Attribute.string attrs "version").remarks context "version"
          fun constraint => [.version provider constraint]) constrained := by
      unfold constrained
      cases Attribute.string attrs "version" with
      | given constraint => exact hears_addVersion sourced role pos provider constraint
      | rejected fault => exact hears_complain sourced role pos _
      | missing | null => exact .nothing _
    refine (source.append constraint).append ?_
    cases Attribute.strings attrs "configuration_aliases" with
    | given aliases =>
      rw [Attribute.remarks, List.map_map, List.map_eq_flatMap]
      exact Hears.foldl (fun m aliasName => hears_addConfigurationAlias m role pos provider aliasName)
        aliases constrained
    | rejected fault => exact hears_complain constrained role pos _
    | missing | null => exact .nothing _
  | null | bool | number | array => exact hears_complain m role pos _

theorem hears_declareRequirements (required : Value) :
    m.Hears role pos (requirementsRemarks required) (m.declareRequirements role pos required) := by
  unfold declareRequirements requirementsRemarks
  cases Block.collect [] 0 required with
  | error fault => exact hears_complain m role pos _
  | ok blocks =>
    apply Hears.foldl
    intro m block
    apply Hears.foldl
    intro m entry
    exact hears_declareRequirement m role pos entry.1 entry.2

/-- A `terraform` block constrains the program, and then says the rest. -/
theorem hears_declareTerraform (body : Members) :
    ({ m with requiredCore := constrainCore role body m.requiredCore } : Module).Hears role pos
      ((Statement.terraform pos body).remarks role) (m.declareTerraform role pos body) := by
  unfold declareTerraform
  extract_lets constrained
  have version :
      ({ m with requiredCore := constrainCore role body m.requiredCore } : Module).Hears role pos
        ((Attribute.string body "required_version").remarks "terraform" "required_version"
          fun _ => []) constrained := by
    unfold constrained constrainCore
    cases Attribute.string body "required_version" with
    | given constraint => cases role <;> exact .nothing _
    | rejected fault => exact hears_complain m role pos _
    | missing | null => exact .nothing _
  refine version.append ?_
  cases body.get? "required_providers" with
  | none => exact .nothing _
  | some required => exact hears_declareRequirements constrained role pos required

theorem hears_declareProvider (name : String) (body : Members) :
    m.Hears role pos ((Statement.provider pos name body).remarks role)
      (m.declareProvider role pos name body) := by
  unfold declareProvider
  extract_lets context named constrained
  have version : named.Hears role pos
      ((Attribute.string body "version").remarks context "version"
        fun constraint => [.version name constraint]) constrained := by
    unfold constrained
    cases Attribute.string body "version" with
    | given constraint => exact hears_addVersion named role pos name constraint
    | rejected fault => exact hears_complain named role pos _
    | missing | null => exact .nothing _
  have heard := (hears_requireProvider m role pos name).append version
  refine heard.append ?_
  cases Attribute.string body "alias" with
  | given aliasName =>
    -- The alias finds a requirement in the books, because the block has named its provider.
    have required : constrained.books.Requires name := by
      rw [heard.books]
      exact Books.requires_writeAll.2 (.inl ⟨.named name, by simp, rfl⟩)
    exact ⟨rfl, books_addAlias role required (unwrapTemplate aliasName), by
      simp [addAlias, Attribute.remarks, Books.problems, Books.conflict?]⟩
  | rejected fault => exact hears_complain constrained role pos _
  | missing | null => exact .nothing _

end

/-- A statement writes its notes in the books, whatever it finds there, and nothing else. -/
theorem books_declare (role : FileRole) (m : Module) (statement : Statement) :
    (m.declare role statement).books = m.books.writeAll role statement.notes := by
  cases statement with
  | terraform pos body =>
    rw [← notesOf_remarks role]
    exact (hears_declareTerraform m role pos body).books
  | provider pos name body =>
    rw [← notesOf_remarks role]
    exact (hears_declareProvider m role pos name body).books
  | resource pos mode type name body => exact books_declareResource role m pos mode type name body
  | inputVariable | output | moduleCall | malformed | noBody => rfl

end Module

end ModuleSurvey
