import ModuleSurvey.Proofs.Json.Spacing
import ModuleSurvey.Proofs.Module.BookOrder
import ModuleSurvey.Proofs.Module.Duplicates
import ModuleSurvey.Proofs.Module.Positions
import ModuleSurvey.Proofs.Report.LineBreaks

/-! # The words of problems

Besides fixed words a problem holds texts of the file that it is about: labels, values of attributes,
and places. Where no name and no string of a body holds a line feed, no problem of its statements
does, but for what these quote of earlier files: the source of a provider, and where a target was
declared.

* `Json.Value.Unbroken`, `Block.Unbroken`, `Statement.Unbroken` — no line feed is in the texts.
* `Block.finds_collect`, `Statement.unbroken_of_mem_ofBody` — the blocks and statements of a body.
* `Problem.quotes`, `Problem.unbroken_of_quotes` — the texts that a problem quotes.
* `Statement.unbroken_of_mem_remarks` — the problems that a statement has of its own.
* `Module.Unbroken`, `Module.Unbroken.declare` — what is reported so far, and what can be quoted of it.
-/

namespace ModuleSurvey

open Json (Value Members Number)

/-! ## Values -/

namespace Json

/-- The values in which no name and no string holds a line feed. -/
inductive Value.Unbroken : Value → Prop
  | null : Unbroken null
  | bool (b : Bool) : Unbroken (bool b)
  | number (n : Number) : Unbroken (number n)
  | string {s : String} (text : ModuleSurvey.Unbroken s) : Unbroken (string s)
  | array {vs : List Value} (items : ∀ v ∈ vs, Unbroken v) : Unbroken (array vs)
  | object {ms : Members} (names : ∀ e ∈ ms, ModuleSurvey.Unbroken e.1)
      (members : ∀ e ∈ ms, Unbroken e.2) : Unbroken (object ms)

theorem Value.Unbroken.get? {ms : Members} (unbroken : (Value.object ms).Unbroken) {name : String}
    {v : Value} (found : ms.get? name = some v) : v.Unbroken := by
  cases unbroken with
  | object names within => exact within (name, v) (SortedMap.mem_of_lookupEntry found)

theorem Value.unbroken_kind (v : Value) : ModuleSurvey.Unbroken v.kind := by
  have words : ∀ word ∈ ["null", "a bool", "a number", "a string", "an array", "an object"],
      ModuleSurvey.Unbroken word := by decide +kernel
  cases v <;> exact words _ (by simp [kind])

theorem Number.unbroken_text (n : Number) : ModuleSurvey.Unbroken n.text := by
  intro member
  rw [Number.text, String.toList_ofList] at member
  exact absurd (solid_of_mem_number _ member).1 (by decide)

end Json

/-! ## Attributes -/

namespace Attribute

/-- If the value of an attribute is refused, the message holds no line feed. -/
def FaultUnbroken {α : Type} (a : Attribute α) : Prop :=
  ∀ fault, a = .rejected fault → Unbroken fault.message

variable {α β : Type} {a : Attribute α} {body : Members}

theorem FaultUnbroken.map (unbroken : a.FaultUnbroken) (f : α → β) : (a.map f).FaultUnbroken := by
  intro fault refused
  cases a with
  | rejected own =>
    obtain rfl : own = fault := by simpa [Attribute.map] using refused
    exact unbroken _ rfl
  | missing | null | given => cases refused

theorem unbroken_message (v : Value) :
    Unbroken (AttributeFault.notString v.kind).message ∧
    Unbroken (AttributeFault.notBool v.kind).message ∧
    Unbroken (AttributeFault.notStrings v.kind).message ∧
    Unbroken (AttributeFault.notStringItem v.kind).message := by
  have words : Unbroken "must be a string, found " ∧ Unbroken "must be a bool, found " ∧
      Unbroken "must be a list of strings, found " ∧ Unbroken " element" := by decide +kernel
  obtain ⟨notString, notBool, notStrings, element⟩ := words
  exact ⟨notString.append v.unbroken_kind, notBool.append v.unbroken_kind,
    notStrings.append v.unbroken_kind, (notStrings.append v.unbroken_kind).append element⟩

theorem faultUnbroken_string (body : Members) (name : String) :
    (Attribute.string body name).FaultUnbroken := by
  intro fault refused
  unfold Attribute.string at refused
  split at refused <;> cases refused
  exact (unbroken_message _).1

theorem unbroken_of_string (unbroken : (Value.object body).Unbroken) {name s : String}
    (given : (Attribute.string body name).value? = some s) : Unbroken s := by
  unfold Attribute.string at given
  split at given
  case h_3 text found =>
    cases given
    cases unbroken.get? found
    assumption
  case h_4 n found =>
    cases given
    exact n.unbroken_text
  case h_5 b found =>
    cases given
    cases b <;> decide
  all_goals cases given

theorem faultUnbroken_bool (unbroken : (Value.object body).Unbroken) (name : String) :
    (Attribute.bool body name).FaultUnbroken := by
  intro fault refused
  unfold Attribute.bool at refused
  split at refused
  case h_4 s found =>
    split at refused
    · cases refused
    · split at refused
      · cases refused
      · cases refused
        cases unbroken.get? found with
        | string text =>
          have words : Unbroken "must be a bool, found \"" ∧ Unbroken "\"" := by decide +kernel
          exact (words.1.append text).append words.2
  case h_5 v _ _ _ _ =>
    cases refused
    exact (unbroken_message v).2.1
  all_goals cases refused

theorem faultUnbroken_strings (body : Members) (name : String) :
    (Attribute.strings body name).FaultUnbroken := by
  have ofItems : ∀ vs fault, itemStrings vs = .error fault → Unbroken fault.message := by
    intro vs fault refused
    induction vs with
    | nil => cases refused
    | cons v vs inductionHypothesis =>
      cases v with
      | string s =>
        rw [itemStrings] at refused
        cases later : itemStrings vs with
        | ok items => simp [later, bind, Except.bind, pure, Except.pure] at refused
        | error own =>
          rw [later] at refused
          cases refused
          exact inductionHypothesis later
      | null | bool | number | array | object =>
        cases refused
        exact (unbroken_message _).2.2.2
  intro fault refused
  unfold Attribute.strings at refused
  split at refused
  case h_3 vs found =>
    split at refused
    case h_1 => cases refused
    case h_2 own ofList =>
      cases refused
      exact ofItems vs _ ofList
  case h_4 v _ _ _ =>
    cases refused
    exact (unbroken_message v).2.2.1
  all_goals cases refused

end Attribute

/-! ## Blocks -/

structure Block.Unbroken (block : Block) : Prop where
  labels : ∀ label ∈ block.labels, ModuleSurvey.Unbroken label
  body : (Value.object block.body).Unbroken

theorem BlockFault.unbroken_message {fault : BlockFault}
    (labels : ∀ label ∈ fault.labels, Unbroken label) (found : Unbroken fault.found) :
    Unbroken fault.message := by
  have words : Unbroken "expected an object" ∧ Unbroken " for \"" ∧ Unbroken "\"" ∧
      Unbroken ", found " ∧ Unbroken "" ∧ Unbroken "." := by decide +kernel
  obtain ⟨expected, opening, close, joint, empty, dot⟩ := words
  have place : Unbroken (if fault.labels.isEmpty then ""
      else " for \"" ++ ".".intercalate fault.labels ++ "\"") := by
    split
    case isTrue => exact empty
    case isFalse => exact (opening.append (lacks_intercalate dot labels)).append close
  exact ((expected.append place).append joint).append found

namespace Block

/-- What is found satisfies one condition, and a fault another one. -/
def Finds {ε β : Type} (Good : β → Prop) (Fault : ε → Prop) : Except ε (List β) → Prop
  | .ok found => ∀ b ∈ found, Good b
  | .error fault => Fault fault

theorem finds_gather {ε β γ : Type} {Good : β → Prop} {Fault : ε → Prop}
    {read : γ → Except ε (List β)} {cs : List γ}
    (single : ∀ c ∈ cs, Finds Good Fault (read c)) : Finds Good Fault (gather read cs) := by
  induction cs with
  | nil => exact nofun
  | cons c cs inductionHypothesis =>
    obtain ⟨first, more⟩ := List.forall_mem_cons.1 single
    have later := inductionHypothesis more
    rw [gather_cons]
    cases ofFirst : read c with
    | error fault =>
      rw [ofFirst] at first
      exact first
    | ok found =>
      rw [ofFirst] at first
      cases ofMore : gather read cs with
      | error fault =>
        rw [ofMore] at later
        exact later
      | ok foundMore =>
        rw [ofMore] at later
        exact List.forall_mem_append.2 ⟨first, later⟩

theorem finds_collect {v : Value} (unbroken : v.Unbroken) (labels : List String)
    (labelled : ∀ label ∈ labels, ModuleSurvey.Unbroken label) (count : Nat) :
    Finds Block.Unbroken (fun fault => ModuleSurvey.Unbroken fault.message)
      (collect labels count v) := by
  induction v using Value.itemInduction generalizing labels count with
  | array vs inductionHypothesis =>
    cases unbroken with
    | array items =>
      rw [collect_array]
      exact finds_gather fun v member =>
        inductionHypothesis v member (items v member) labels labelled count
  | object ms inductionHypothesis =>
    cases unbroken with
    | object names members =>
      cases count with
      | zero =>
        rw [collect_object_zero]
        exact List.forall_mem_singleton.2 ⟨labelled, .object names members⟩
      | succ count =>
        rw [collect_object_succ]
        refine finds_gather fun e member => inductionHypothesis e member (members e member) _ ?_ count
        exact List.forall_mem_append.2 ⟨labelled, List.forall_mem_singleton.2 (names e member)⟩
  | null | bool | number | string =>
    simp only [collect]
    exact BlockFault.unbroken_message labelled (Value.unbroken_kind _)

end Block

/-! ## Statements -/

structure Statement.Unbroken (s : Statement) : Prop where
  block : ∀ type block, s.block? = some (type, block) → block.Unbroken
  fault : ∀ pos type fault, s = .malformed pos type fault → ModuleSurvey.Unbroken fault.message

namespace Statement

theorem unbroken_of_ofBlock? {type : BlockType} {pos : SourcePos} {block : Block} {s : Statement}
    (unbroken : block.Unbroken) (made : ofBlock? type pos block = some s) : s.Unbroken := by
  obtain ⟨labels, body⟩ := block
  unfold ofBlock? at made
  split at made <;> cases made <;>
    refine ⟨fun _ _ is => ?_, nofun⟩ <;> cases is <;> simp_all

theorem unbroken_of_mem_ofBlocks {type : BlockType} {blocks : List Block}
    (unbroken : ∀ block ∈ blocks, block.Unbroken) (x : BlockIndex) :
    ∀ s ∈ (ofBlocks type blocks x).1, s.Unbroken := by
  induction blocks generalizing x with
  | nil => exact nofun
  | cons block blocks inductionHypothesis =>
    obtain ⟨first, more⟩ := List.forall_mem_cons.1 unbroken
    refine List.forall_mem_append.2 ⟨fun s made => ?_, inductionHypothesis more _⟩
    exact unbroken_of_ofBlock? first (Option.mem_toList.1 made)

theorem unbroken_of_mem_ofMember (name : String) {value : Value} (unbroken : value.Unbroken)
    (x : BlockIndex) : ∀ s ∈ (ofMember name value x).1, s.Unbroken := by
  unfold ofMember
  split
  case h_1 => exact nofun
  case h_2 type _ =>
    have finds := Block.finds_collect unbroken [] nofun type.labelCount
    split
    case h_1 blocks collected =>
      rw [collected] at finds
      exact unbroken_of_mem_ofBlocks finds x
    case h_2 fault collected =>
      rw [collected] at finds
      refine List.forall_mem_singleton.2 ⟨nofun, fun _ _ _ is => ?_⟩
      cases is
      exact finds

theorem unbroken_of_mem_ofMembers {ms : Members} (unbroken : ∀ e ∈ ms, e.2.Unbroken)
    (x : BlockIndex) : ∀ s ∈ (ofMembers ms x).1, s.Unbroken := by
  induction ms generalizing x with
  | nil => exact nofun
  | cons e ms inductionHypothesis =>
    obtain ⟨first, more⟩ := List.forall_mem_cons.1 unbroken
    exact List.forall_mem_append.2
      ⟨unbroken_of_mem_ofMember e.1 first x, inductionHypothesis more _⟩

theorem unbroken_of_mem_ofBody {body : Value} (unbroken : body.Unbroken) (x : BlockIndex) :
    ∀ s ∈ (ofBody body x).1, s.Unbroken := by
  cases unbroken with
  | object names members => exact unbroken_of_mem_ofMembers members x
  | null | bool | number | string | array =>
    exact List.forall_mem_singleton.2 ⟨nofun, nofun⟩

end Statement

/-! ## Problems -/

theorem BlockType.unbroken_word (type : BlockType) : Unbroken type.word := by
  rcases type with _ | _ | _ | _ | ⟨_ | _⟩ | _ <;> decide +kernel

namespace Problem

def quotes : Problem → List String
  | noBody => []
  | malformedBlock word detail => [word, detail]
  | invalidAttribute context name fault => [context, name, fault.message]
  | malformedRequirement provider => [provider]
  | severalSources provider existing other => [provider, existing, other]
  | missingSource call => [call]
  | missingBase kind name => [kind, name]
  | duplicate kind name previous => [kind, name, previous.filename]

structure Unbroken (problem : Problem) : Prop where
  summary : ModuleSurvey.Unbroken problem.summary
  detail : ModuleSurvey.Unbroken problem.detail

theorem unbroken_of_quotes {problem : Problem}
    (quoted : ∀ text ∈ problem.quotes, ModuleSurvey.Unbroken text) : problem.Unbroken := by
  have titles : ModuleSurvey.Unbroken "Invalid attribute value" ∧
      ModuleSurvey.Unbroken "Invalid required_providers entry" ∧
      ModuleSurvey.Unbroken "Multiple provider source attributes" ∧
      ModuleSurvey.Unbroken "Missing source for module call" := by decide +kernel
  obtain ⟨invalid, malformed, several, missing⟩ := titles
  cases problem <;> simp only [quotes, List.forall_mem_cons] at quoted
  case noBody => exact ⟨by decide +kernel, by decide +kernel⟩
  case malformedBlock =>
    obtain ⟨word, detail, -⟩ := quoted
    exact ⟨.append (.append (by decide +kernel) word) (by decide +kernel), detail⟩
  case invalidAttribute =>
    obtain ⟨context, name, fault, -⟩ := quoted
    exact ⟨invalid, .append (.append (.append (.append (.append context (by decide +kernel)) name)
      (by decide +kernel)) fault) (by decide +kernel)⟩
  case malformedRequirement =>
    obtain ⟨provider, -⟩ := quoted
    exact ⟨malformed, .append (.append (by decide +kernel) provider) (by decide +kernel)⟩
  case severalSources =>
    obtain ⟨provider, existing, other, -⟩ := quoted
    exact ⟨several, .append (.append (.append (.append (.append (.append (by decide +kernel)
      provider) (by decide +kernel)) existing) (by decide +kernel)) other) (by decide +kernel)⟩
  case missingSource =>
    obtain ⟨call, -⟩ := quoted
    exact ⟨missing, .append (.append (by decide +kernel) call) (by decide +kernel)⟩
  case missingBase =>
    obtain ⟨kind, name, -⟩ := quoted
    exact ⟨.append (.append (by decide +kernel) kind) (by decide +kernel),
      .append (.append (.append (.append (by decide +kernel) kind) (by decide +kernel)) name)
        (by decide +kernel)⟩
  case duplicate previous =>
    obtain ⟨kind, name, filename, -⟩ := quoted
    have place : ModuleSurvey.Unbroken previous.text :=
      .append (.append filename (by decide +kernel)) (unbroken_toString _)
    exact ⟨.append (.append (by decide +kernel) kind) (by decide +kernel),
      .append (.append (.append (.append (.append (.append (by decide +kernel) kind)
        (by decide +kernel)) name) (by decide +kernel)) place) (by decide +kernel)⟩

theorem unbroken_missingSource {call : String} (named : ModuleSurvey.Unbroken call) :
    (missingSource call).Unbroken :=
  unbroken_of_quotes (List.forall_mem_singleton.2 named)

theorem Unbroken.diagnostic {problem : Problem} (unbroken : problem.Unbroken) {pos : SourcePos}
    (filename : ModuleSurvey.Unbroken pos.filename) : (problem.diagnostic pos).Unbroken where
  summary := unbroken.summary
  detail := unbroken.detail
  filename := by
    rintro _ ⟨rfl⟩
    exact filename

end Problem

/-! ## What statements report -/

def Remark.Unbroken : Remark → Prop
  | .problem found => found.Unbroken
  | .note (.source provider address) => ModuleSurvey.Unbroken provider ∧ ModuleSurvey.Unbroken address
  | .note (.named _) | .note (.version ..) | .note (.configuration ..) | .note (.aliased ..) => True

section

variable {α : Type} {a : Attribute α} {context name provider : String} {role : FileRole}

theorem Attribute.FaultUnbroken.problems (refusal : a.FaultUnbroken) (within : Unbroken context)
    (named : Unbroken name) : ∀ problem ∈ a.problems context name, problem.Unbroken := by
  cases a with
  | rejected fault =>
    refine List.forall_mem_singleton.2 (Problem.unbroken_of_quotes ?_)
    simp only [Problem.quotes, List.forall_mem_cons]
    exact ⟨within, named, refusal fault rfl, nofun⟩
  | missing | null | given => exact nofun

theorem Attribute.FaultUnbroken.remarks (refusal : a.FaultUnbroken) (within : Unbroken context)
    (named : Unbroken name) {notes : α → List Note}
    (noted : ∀ value, ∀ note ∈ notes value, (Remark.note note).Unbroken) :
    ∀ remark ∈ a.remarks context name notes, remark.Unbroken := by
  cases a with
  | given value => exact List.forall_mem_map.2 (noted value)
  | rejected fault =>
    exact List.forall_mem_singleton.2 (refusal.problems within named _ (List.mem_singleton.2 rfl))
  | missing | null => exact nofun

theorem unbroken_of_mem_requirementRemarks (named : Unbroken provider) {value : Value}
    (unbroken : value.Unbroken) :
    ∀ remark ∈ requirementRemarks provider value, remark.Unbroken := by
  cases value with
  | string => exact List.forall_mem_singleton.2 trivial
  | object attrs =>
    have words : Unbroken "required_providers." ∧ Unbroken "source" ∧ Unbroken "version" ∧
        Unbroken "configuration_aliases" := by decide +kernel
    obtain ⟨opening, source, version, configurations⟩ := words
    have within := opening.append named
    -- The source, the constraint and the aliases; of a value only a source is ever quoted later.
    refine List.forall_mem_append.2 ⟨List.forall_mem_append.2 ⟨?_, ?_⟩, ?_⟩
    · cases sourced : Attribute.string attrs "source" with
      | given address =>
        have given : (Attribute.string attrs "source").value? = some address := by rw [sourced]; rfl
        exact List.forall_mem_singleton.2 ⟨named, Attribute.unbroken_of_string unbroken given⟩
      | rejected fault =>
        have refusal : (Attribute.rejected fault : Attribute String).FaultUnbroken :=
          sourced ▸ Attribute.faultUnbroken_string attrs "source"
        exact List.forall_mem_singleton.2
          (refusal.problems within source _ (List.mem_singleton.2 rfl))
      | missing | null => exact List.forall_mem_singleton.2 trivial
    · exact (Attribute.faultUnbroken_string attrs _).remarks within version
        fun _ => List.forall_mem_singleton.2 trivial
    · exact (Attribute.faultUnbroken_strings attrs _).remarks within configurations
        fun _ => List.forall_mem_map.2 fun _ _ => trivial
  | null | bool | number | array =>
    refine List.forall_mem_singleton.2 (Problem.unbroken_of_quotes ?_)
    exact List.forall_mem_singleton.2 named

theorem unbroken_of_mem_requirementsRemarks {required : Value} (unbroken : required.Unbroken) :
    ∀ remark ∈ requirementsRemarks required, remark.Unbroken := by
  have finds := Block.finds_collect unbroken [] nofun 0
  unfold requirementsRemarks
  cases collected : Block.collect [] 0 required with
  | error fault =>
    rw [collected] at finds
    refine List.forall_mem_singleton.2 (Problem.unbroken_of_quotes ?_)
    simp only [Problem.quotes, List.forall_mem_cons]
    exact ⟨by decide +kernel, finds, nofun⟩
  | ok blocks =>
    rw [collected] at finds
    refine List.forall_mem_flatMap.2 fun block member => List.forall_mem_flatMap.2 fun e entry => ?_
    cases (finds block member).body with
    | object names members =>
      exact unbroken_of_mem_requirementRemarks (names e entry) (members e entry)

namespace Statement

variable {s : Statement}

theorem unbroken_of_mem_remarks (unbroken : s.Unbroken) :
    ∀ remark ∈ s.remarks role, remark.Unbroken := by
  have names : ModuleSurvey.Unbroken "source" ∧ ModuleSurvey.Unbroken "version" ∧
      ModuleSurvey.Unbroken "alias" ∧ ModuleSurvey.Unbroken "type" ∧
      ModuleSurvey.Unbroken "description" ∧ ModuleSurvey.Unbroken "sensitive" ∧
      ModuleSurvey.Unbroken "provider" := by decide +kernel
  obtain ⟨source, version, aliasName, type, description, sensitive, provider⟩ := names
  -- A label stands between quotation marks behind the word of its block.
  have quoted {name : String} (label : ModuleSurvey.Unbroken name) (word : String)
      (opening : ModuleSurvey.Unbroken word) : ModuleSurvey.Unbroken (word ++ name ++ "\"") :=
    .append (.append opening label) (by decide +kernel)
  cases s with
  | terraform pos body =>
    obtain ⟨-, ofBody⟩ := unbroken.block _ _ rfl
    refine List.forall_mem_append.2 ⟨?_, ?_⟩
    · exact (Attribute.faultUnbroken_string body _).remarks (by decide +kernel) (by decide +kernel)
        fun _ => nofun
    · cases given : body.get? "required_providers" with
      | none => exact nofun
      | some required => exact unbroken_of_mem_requirementsRemarks (ofBody.get? given)
  | provider pos name body =>
    obtain ⟨labels, -⟩ := unbroken.block _ _ rfl
    have within := quoted (labels name List.mem_cons_self) "provider \"" (by decide +kernel)
    refine List.forall_mem_cons.2 ⟨trivial, List.forall_mem_append.2 ⟨?_, ?_⟩⟩
    · exact (Attribute.faultUnbroken_string body _).remarks within version
        fun _ => List.forall_mem_singleton.2 trivial
    · exact (Attribute.faultUnbroken_string body _).remarks within aliasName
        fun _ => List.forall_mem_singleton.2 trivial
  | inputVariable pos name body =>
    obtain ⟨labels, ofBody⟩ := unbroken.block _ _ rfl
    have within := quoted (labels name List.mem_cons_self) "variable \"" (by decide +kernel)
    refine List.forall_mem_map.2
      (List.forall_mem_append.2 ⟨List.forall_mem_append.2 ⟨?_, ?_⟩, ?_⟩)
    · exact ((Attribute.faultUnbroken_string body "type").map unwrapTemplate).problems within type
    · exact (Attribute.faultUnbroken_string body _).problems within description
    · exact (Attribute.faultUnbroken_bool ofBody _).problems within sensitive
  | output pos name body =>
    obtain ⟨labels, ofBody⟩ := unbroken.block _ _ rfl
    have within := quoted (labels name List.mem_cons_self) "output \"" (by decide +kernel)
    refine List.forall_mem_map.2 (List.forall_mem_append.2 ⟨?_, ?_⟩)
    · exact (Attribute.faultUnbroken_string body _).problems within description
    · exact (Attribute.faultUnbroken_bool ofBody _).problems within sensitive
  | resource pos mode resourceType name body =>
    obtain ⟨labels, -⟩ := unbroken.block _ _ rfl
    simp only [List.forall_mem_cons] at labels
    obtain ⟨typed, named, -⟩ := labels
    have opening : ModuleSurvey.Unbroken ((BlockType.resource mode).word ++ " \"") :=
      .append (BlockType.unbroken_word _) (by decide +kernel)
    have joined : ModuleSurvey.Unbroken
        ((BlockType.resource mode).word ++ " \"" ++ resourceType ++ "\" \"") :=
      .append (.append opening typed) (by decide +kernel)
    refine List.forall_mem_cons.2 ⟨?_, List.forall_mem_map.2 ?_⟩
    · unfold ProviderRef.note
      split <;> trivial
    · exact ((Attribute.faultUnbroken_string body "provider").map _).problems
        (quoted named _ joined) provider
  | moduleCall pos name body =>
    obtain ⟨labels, -⟩ := unbroken.block _ _ rfl
    have named := labels name List.mem_cons_self
    have within := quoted named "module \"" (by decide +kernel)
    refine List.forall_mem_map.2 (List.forall_mem_append.2 ⟨?_, ?_⟩)
    · -- A call without source is a problem of its own, and any other source is like an attribute.
      have ofSource := (Attribute.faultUnbroken_string body "source").problems within source
      split
      case h_1 | h_2 => exact List.forall_mem_singleton.2 (Problem.unbroken_missingSource named)
      case h_3 => exact ofSource
    · exact (Attribute.faultUnbroken_string body _).problems within version
  | malformed pos type fault =>
    refine List.forall_mem_singleton.2 (Problem.unbroken_of_quotes ?_)
    simp only [Problem.quotes, List.forall_mem_cons]
    exact ⟨type.unbroken_word, unbroken.fault _ _ _ rfl, nofun⟩
  | noBody pos =>
    exact List.forall_mem_singleton.2 (Problem.unbroken_of_quotes (List.forall_mem_nil _))

theorem unbroken_of_mem_orphanProblems (unbroken : s.Unbroken) {place? : Option SourcePos} :
    ∀ problem ∈ s.orphanProblems role place?, problem.Unbroken := by
  cases s with
  | moduleCall pos name body =>
    have named := (unbroken.block _ _ rfl).labels name List.mem_cons_self
    simp only [orphanProblems]
    split
    · exact List.forall_mem_singleton.2 (Problem.unbroken_missingSource named)
    · exact List.forall_mem_nil _
  | terraform | provider | inputVariable | output | resource | malformed | noBody =>
    exact List.forall_mem_nil _

theorem unbroken_of_target? (unbroken : s.Unbroken) {target : Target}
    (aimed : s.target? = some target) :
    ModuleSurvey.Unbroken target.kind ∧ ModuleSurvey.Unbroken target.name := by
  have kinds : ModuleSurvey.Unbroken "variable" ∧ ModuleSurvey.Unbroken "output" ∧
      ModuleSurvey.Unbroken "resource" ∧ ModuleSurvey.Unbroken "data resource" ∧
      ModuleSurvey.Unbroken "module call" := by decide +kernel
  obtain ⟨inputVariable, output, resource, data, moduleCall⟩ := kinds
  cases s with
  | inputVariable pos name body =>
    cases aimed
    exact ⟨inputVariable, (unbroken.block _ _ rfl).labels name List.mem_cons_self⟩
  | output pos name body =>
    cases aimed
    exact ⟨output, (unbroken.block _ _ rfl).labels name List.mem_cons_self⟩
  | resource pos mode type name body =>
    cases aimed
    have labels := (unbroken.block _ _ rfl).labels
    simp only [List.forall_mem_cons] at labels
    obtain ⟨typed, named, -⟩ := labels
    have dot : ModuleSurvey.Unbroken "." ∧ ModuleSurvey.Unbroken "data." := by decide +kernel
    cases mode with
    | managed => exact ⟨resource, (typed.append dot.1).append named⟩
    | data => exact ⟨data, ((dot.2.append typed).append dot.1).append named⟩
  | moduleCall pos name body =>
    cases aimed
    exact ⟨moduleCall, (unbroken.block _ _ rfl).labels name List.mem_cons_self⟩
  | terraform | provider | malformed | noBody => cases aimed

end Statement

theorem unbroken_of_mem_entryProblems {target : Target}
    (words : Unbroken target.kind ∧ Unbroken target.name) {place? : Option SourcePos}
    (place : ∀ pos, place? = some pos → Unbroken pos.filename) :
    ∀ problem ∈ entryProblems role target.kind target.name place?, problem.Unbroken := by
  unfold entryProblems
  split
  case h_1 previous =>
    refine List.forall_mem_singleton.2 (Problem.unbroken_of_quotes ?_)
    simp only [Problem.quotes, List.forall_mem_cons]
    exact ⟨words.1, words.2, place previous rfl, nofun⟩
  case h_2 =>
    refine List.forall_mem_singleton.2 (Problem.unbroken_of_quotes ?_)
    simp only [Problem.quotes, List.forall_mem_cons]
    exact ⟨words.1, words.2, nofun⟩
  case h_3 | h_4 => exact nofun

/-! ## The books -/

theorem Note.source_amend (role : FileRole) (note : Note) (r : ProviderRequirement) :
    (note.amend role r).source = r.source ∨ note.address? = some (note.amend role r).source := by
  cases note with
  | source =>
    simp only [Note.amend]
    split
    · exact .inr rfl
    · exact .inl rfl
  | version => cases role <;> exact .inl rfl
  | configuration =>
    simp only [Note.amend]
    split <;> exact .inl rfl
  | named | aliased => exact .inl rfl

namespace Books

def SourcesUnbroken (b : Books) : Prop := ∀ provider, Unbroken (b.source provider)

variable {b : Books}

theorem SourcesUnbroken.write (sources : b.SourcesUnbroken) {note : Note}
    (noted : (Remark.note note).Unbroken) : (b.write role note).SourcesUnbroken := by
  intro provider
  unfold source
  rw [requirement_write]
  split
  case isFalse => exact sources provider
  case isTrue =>
    rcases note.source_amend role (b.requirement provider) with kept | given
    · exact kept.symm ▸ sources provider
    · cases note with
      | source => exact Option.some.inj given ▸ noted.2
      | named | version | configuration | aliased => cases given

theorem SourcesUnbroken.writeAll (sources : b.SourcesUnbroken) {remarks : List Remark}
    (unbroken : ∀ remark ∈ remarks, remark.Unbroken) :
    (b.writeAll role (notesOf remarks)).SourcesUnbroken := by
  refine List.foldlRecOn _ _ sources fun _ held note member => held.write ?_
  obtain ⟨remark, isRemark, noted⟩ := List.mem_filterMap.1 member
  cases remark with
  | note =>
    cases noted
    exact unbroken _ isRemark
  | problem => cases noted

theorem unbroken_of_conflict? (sources : b.SourcesUnbroken) {note : Note}
    (noted : (Remark.note note).Unbroken) :
    ∀ problem ∈ (b.conflict? role note).toList, problem.Unbroken := by
  cases note with
  | source provider address =>
    unfold conflict?
    dsimp only
    split
    · exact nofun
    · refine List.forall_mem_singleton.2 (Problem.unbroken_of_quotes ?_)
      simp only [Problem.quotes, List.forall_mem_cons]
      exact ⟨noted.1, sources provider, noted.2, nofun⟩
  | named | version | configuration | aliased => exact nofun

theorem unbroken_of_mem_problems (sources : b.SourcesUnbroken) {remarks : List Remark}
    (unbroken : ∀ remark ∈ remarks, remark.Unbroken) :
    ∀ problem ∈ b.problems role remarks, problem.Unbroken := by
  induction remarks generalizing b with
  | nil => exact nofun
  | cons remark remarks inductionHypothesis =>
    obtain ⟨first, more⟩ := List.forall_mem_cons.1 unbroken
    cases remark with
    | problem found => exact List.forall_mem_cons.2 ⟨first, inductionHypothesis sources more⟩
    | note note =>
      exact List.forall_mem_append.2
        ⟨unbroken_of_conflict? sources first, inductionHypothesis (sources.write first) more⟩

end Books

end

/-! ## Modules -/

namespace Module

/-- No line feed is in the problems of a module, and in what later problems can quote of it. -/
structure Unbroken (m : Module) : Prop where
  places : m.PlacesIn fun pos => ModuleSurvey.Unbroken pos.filename
  sources : m.books.SourcesUnbroken
  diagnostics : ∀ d ∈ m.diagnostics, d.Unbroken

variable {m : Module} {role : FileRole} {s : Statement}

theorem unbroken_new (path : String) : (new path).Unbroken where
  places := placesIn_new _ path
  sources _ := List.not_mem_nil
  diagnostics := nofun

theorem Unbroken.mem_reports (held : m.Unbroken) (unbroken : s.Unbroken) :
    ∀ problem ∈ m.reports role s, problem.Unbroken := by
  refine List.forall_mem_append.2
    ⟨Books.unbroken_of_mem_problems held.sources (s.unbroken_of_mem_remarks unbroken), ?_⟩
  cases aimed : s.target? with
  | none => exact nofun
  | some target =>
    -- What a duplicate quotes besides the target is the place where it was declared before.
    exact List.forall_mem_append.2 ⟨s.unbroken_of_mem_orphanProblems unbroken,
      unbroken_of_mem_entryProblems (s.unbroken_of_target? unbroken aimed) (held.places target)⟩

/-- A statement says what is in its texts, and quotes what was said before. -/
theorem Unbroken.declare (held : m.Unbroken) (role : FileRole) (unbroken : s.Unbroken)
    (filename : ModuleSurvey.Unbroken s.pos.filename) : (m.declare role s).Unbroken where
  places := held.places.declare role filename
  sources := by
    rw [books_declare, ← notesOf_remarks role]
    exact held.sources.writeAll (s.unbroken_of_mem_remarks unbroken)
  diagnostics := by
    rw [diagnostics_declare]
    refine List.forall_mem_append.2 ⟨held.diagnostics, List.forall_mem_map.2 fun problem reported => ?_⟩
    exact (held.mem_reports unbroken problem reported).diagnostic filename

theorem Unbroken.report (held : m.Unbroken) {d : Diagnostic} (unbroken : d.Unbroken) :
    (m.report d).Unbroken where
  places := held.places
  sources := held.sources
  diagnostics := List.forall_mem_append.2 ⟨held.diagnostics, List.forall_mem_singleton.2 unbroken⟩

end Module

end ModuleSurvey
