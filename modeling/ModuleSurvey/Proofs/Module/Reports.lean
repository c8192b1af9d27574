import ModuleSurvey.Proofs.Module.Targets

/-! # What a statement reports

A statement reports the problems that its remarks lead to, and then whether its target is there
although it declares it, or missing although it amends it. That depends on the books and on where
the target was declared, and on no problem reported before: problems are written and never read.

* `Module.reports` — the problems that a statement reports in a module.
* `diagnostics_declare` — they are put behind those that were there.
* `requiredCore_declare` — the constraints of a module after a statement.
* `declare_withDiagnostics`, `foldl_declare_withDiagnostics` — problems reported before change
  nothing but themselves.
-/

namespace ModuleSurvey

open Json (Value Members)

def Module.place? (m : Module) : Target → Option SourcePos
  | .inputVariable name => (m.inputs.get? name).map Variable.pos
  | .output name => (m.outputs.get? name).map Output.pos
  | .resource mode address => ((m.resourcesOf mode).get? address).map Resource.pos
  | .moduleCall name => (m.moduleCalls.get? name).map ModuleCall.pos

def entryProblems (role : FileRole) (kind name : String) (place? : Option SourcePos) :
    List Problem :=
  match role, place? with
  | .primary, some place => [.duplicate kind name place]
  | .override, none => [.missingBase kind name]
  | .primary, none | .override, some _ => []

/-- A call without source is a problem also of an override block that has no call to amend. -/
def Statement.orphanProblems (role : FileRole) (place? : Option SourcePos) :
    Statement → List Problem
  | .moduleCall _ name body =>
    if role = .override ∧ place? = none ∧ givenText body "source" = "" then [.missingSource name]
    else []
  | _ => []

namespace Module

def reports (role : FileRole) (m : Module) (statement : Statement) : List Problem :=
  m.books.problems role (statement.remarks role) ++
    statement.target?.elim [] fun target =>
      statement.orphanProblems role (m.place? target)
        ++ entryProblems role target.kind target.name (m.place? target)

variable {m : Module} {role : FileRole}

@[simp] theorem diagnostics_setResourcesOf (m : Module) (mode : ResourceMode)
    (rs : SortedMap Resource) : (m.setResourcesOf mode rs).diagnostics = m.diagnostics := by
  cases mode <;> rfl

@[simp] theorem diagnostics_useProvider (m : Module) (r : ProviderRef) :
    (m.useProvider r).diagnostics = m.diagnostics := by
  unfold useProvider
  split <;> rfl

theorem outcome_problems {α : Type} (map : SortedMap α) (role : FileRole) (key : String) (fresh : α)
    (amend : α → α) (kind name : String) (place : α → SourcePos) :
    (map.declare role key fresh amend).2.problems kind name place =
      entryProblems role kind name ((map.get? key).map place) := by
  unfold SortedMap.declare
  cases role <;> cases map.get? key <;> rfl

theorem problems_note (b : Books) (r : ProviderRef) (more : List Remark) :
    b.problems role (.note r.note :: more) = (b.write role r.note).problems role more := by
  unfold ProviderRef.note
  split <;> rfl

/-- What a statement reports is put behind what was reported before. -/
theorem diagnostics_declare (role : FileRole) (m : Module) (statement : Statement) :
    (m.declare role statement).diagnostics =
      m.diagnostics ++ (m.reports role statement).map (·.diagnostic statement.pos) := by
  cases statement with
  | terraform pos body =>
    have reported : m.reports role (.terraform pos body) =
        m.books.problems role ((Statement.terraform pos body).remarks role) := List.append_nil _
    rw [reported]
    exact (hears_declareTerraform m role pos body).diagnostics
  | provider pos name body =>
    have reported : m.reports role (.provider pos name body) =
        m.books.problems role ((Statement.provider pos name body).remarks role) := List.append_nil _
    rw [reported]
    exact (hears_declareProvider m role pos name body).diagnostics
  | inputVariable pos name body =>
    simp only [declare, declareVariable, diagnostics_complainAll, outcome_problems, reports,
      Statement.remarks, Books.problems_map_problem]
    rfl
  | output pos name body =>
    simp only [declare, declareOutput, diagnostics_complainAll, outcome_problems, reports,
      Statement.remarks, Books.problems_map_problem]
    rfl
  | resource pos mode type name body =>
    simp only [declare, declareResource_eq, diagnostics_complainAll, outcome_problems, reports,
      Statement.remarks, problems_note, Books.problems_map_problem, diagnostics_setResourcesOf,
      diagnostics_useProvider]
    rfl
  | moduleCall pos name body =>
    simp only [declare, declareCall, diagnostics_complainAll, outcome_problems, reports,
      Statement.remarks, Books.problems_map_problem, Statement.target?, Option.elim,
      Statement.orphanProblems, place?, Option.map_eq_none_iff]
    -- Only an override block without target asks once more whether the call has a source.
    unfold SortedMap.declare
    cases role <;> cases m.moduleCalls.get? name <;>
      simp [CallBody.declare, givenText, CallBody.read] <;> rfl
  | malformed | noBody => rfl

/-! ## The constraints on the program -/

theorem requiredCore_complainAll (m : Module) (pos : SourcePos) (problems : List Problem) :
    (m.complainAll pos problems).requiredCore = m.requiredCore := rfl

@[simp] theorem requiredCore_setResourcesOf (m : Module) (mode : ResourceMode)
    (rs : SortedMap Resource) : (m.setResourcesOf mode rs).requiredCore = m.requiredCore := by
  cases mode <;> rfl

@[simp] theorem requiredCore_useProvider (m : Module) (r : ProviderRef) :
    (m.useProvider r).requiredCore = m.requiredCore := by
  unfold useProvider
  split <;> rfl

theorem requiredCore_declare (role : FileRole) (m : Module) (statement : Statement) :
    (m.declare role statement).requiredCore =
      match statement with
      | .terraform _ body => constrainCore role body m.requiredCore
      | _ => m.requiredCore := by
  cases statement with
  | terraform pos body => exact (hears_declareTerraform m role pos body).requiredCore
  | provider pos name body => exact (hears_declareProvider m role pos name body).requiredCore
  | resource pos mode type name body =>
    simp only [declare, declareResource_eq, requiredCore_complainAll, requiredCore_setResourcesOf,
      requiredCore_useProvider]
  | inputVariable | output | moduleCall | malformed | noBody => rfl

def coreConstraint? : Statement → Option String
  | .terraform _ body => (Attribute.string body "required_version").value?
  | _ => none

theorem requiredCore_declare_primary (m : Module) (s : Statement) :
    (m.declare .primary s).requiredCore = m.requiredCore ++ (coreConstraint? s).toList := by
  rw [requiredCore_declare]
  cases s with
  | terraform pos body =>
    simp only [constrainCore, coreConstraint?]
    cases (Attribute.string body "required_version").value? <;> simp
  | provider | inputVariable | output | resource | moduleCall | malformed | noBody =>
    exact (List.append_nil _).symm

/-! ## Problems reported before -/

theorem ext_parts {a b : Module} (entries : a.entries = b.entries)
    (requiredCore : a.requiredCore = b.requiredCore) (books : a.books = b.books)
    (diagnostics : a.diagnostics = b.diagnostics) : a = b := by
  cases a
  cases b
  simp only [Module.entries, Entries.mk.injEq] at entries
  simp only [Module.books, Books.mk.injEq] at books
  simp_all

def withDiagnostics (m : Module) (ds : Diagnostics) : Module := { m with diagnostics := ds }

theorem declare_withDiagnostics (role : FileRole) (m : Module) (statement : Statement)
    (ds : Diagnostics) :
    (m.withDiagnostics ds).declare role statement =
      (m.declare role statement).withDiagnostics
        (ds ++ (m.reports role statement).map (·.diagnostic statement.pos)) := by
  apply ext_parts
  case entries => exact (entries_declare role _ statement).trans (entries_declare role m statement).symm
  case requiredCore =>
    exact (requiredCore_declare role _ statement).trans (requiredCore_declare role m statement).symm
  case books => exact (books_declare role _ statement).trans (books_declare role m statement).symm
  case diagnostics =>
    rw [diagnostics_declare]
    rfl

def reportsAll (role : FileRole) (m : Module) : List Statement → Diagnostics
  | [] => []
  | statement :: more =>
    (m.reports role statement).map (·.diagnostic statement.pos)
      ++ (m.declare role statement).reportsAll role more

theorem exists_problem_of_mem_reportsAll {statements : List Statement} {d : Diagnostic}
    (reported : d ∈ m.reportsAll role statements) :
    ∃ s ∈ statements, ∃ problem : Problem, d = problem.diagnostic s.pos := by
  induction statements generalizing m with
  | nil => cases reported
  | cons s statements inductionHypothesis =>
    rcases List.mem_append.1 reported with own | later
    · obtain ⟨problem, -, rfl⟩ := List.mem_map.1 own
      exact ⟨s, List.mem_cons_self, problem, rfl⟩
    · obtain ⟨other, member, found⟩ := inductionHypothesis later
      exact ⟨other, List.mem_cons_of_mem s member, found⟩

theorem foldl_declare_withDiagnostics (role : FileRole) (statements : List Statement) (m : Module)
    (ds : Diagnostics) :
    statements.foldl (declare role) (m.withDiagnostics ds) =
      (statements.foldl (declare role) m).withDiagnostics (ds ++ m.reportsAll role statements) := by
  induction statements generalizing m ds with
  | nil => simp [reportsAll]
  | cons statement statements inductionHypothesis =>
    rw [List.foldl_cons, declare_withDiagnostics, inductionHypothesis, List.foldl_cons, reportsAll,
      List.append_assoc]

theorem diagnostics_foldl_declare (role : FileRole) (statements : List Statement) (m : Module) :
    (statements.foldl (declare role) m).diagnostics =
      m.diagnostics ++ m.reportsAll role statements :=
  congrArg Module.diagnostics (foldl_declare_withDiagnostics role statements m m.diagnostics)

end Module

end ModuleSurvey
