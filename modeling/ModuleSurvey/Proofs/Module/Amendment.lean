import ModuleSurvey.Proofs.Module.Entries

/-! # Amending an entry

What a block of an override file makes of each attribute of an earlier entry. An attribute that
the body does not name stays as it was, and one that the body names takes the value that a fresh
entry of the same body has.

* `givenText`, `givenFlag`, `givenType`, `givenProvider` — what a body gives for an attribute.
* `EntryKind.inputVariable_amend` and its companions — an amended entry, attribute by attribute.
* `inputVariable_settled` and its companions — a block leaves the entry that it declares as it is.
-/

namespace ModuleSurvey

open Json (Value Members)

namespace Attribute

variable {α β : Type}

@[simp] theorem isNamed_map (f : α → β) (a : Attribute α) : (a.map f).isNamed = a.isNamed := by
  cases a <;> rfl

@[simp] theorem value?_map (f : α → β) (a : Attribute α) : (a.map f).value? = a.value?.map f := by
  cases a <;> rfl

@[simp] theorem isNamed_string (body : Members) (name : String) :
    (string body name).isNamed = body.has name := by
  unfold string Json.Members.has
  split <;> simp_all [isNamed]

@[simp] theorem isNamed_bool (body : Members) (name : String) :
    (bool body name).isNamed = body.has name := by
  unfold bool Json.Members.has
  split
  case h_4 => split <;> (try split) <;> simp_all [isNamed]
  all_goals simp_all [isNamed]

end Attribute

/-! ## What a body gives -/

/-- The text that a body gives for an attribute, empty if it gives none. -/
def givenText (body : Members) (name : String) : String :=
  (Attribute.string body name).value?.getD ""

def givenFlag (body : Members) (name : String) : Bool :=
  (Attribute.bool body name).value?.getD false

def givenType (body : Members) : Option String :=
  (Attribute.string body "type").value?.map unwrapTemplate

/-- The provider that a body gives a resource, or else the one that the resource's type implies. -/
def givenProvider (type : String) (body : Members) : ProviderRef :=
  ((Attribute.string body "provider").value?.map fun s => .parse (unwrapTemplate s)).getD
    (.plain (impliedProvider type))

/-! ## The kinds of entries -/

theorem VariableBody.withDefault_eq (b : VariableBody) (v : Variable) :
    b.withDefault v = { v with
      default := b.default.or v.default
      required := v.required && b.default.isNone } := by
  unfold withDefault
  cases b.default <;> simp [Variable.setDefault]

namespace EntryKind

theorem inputVariable_fresh (block : NamedBlock) :
    inputVariable.fresh block =
      { name := block.name
        type := givenType block.body
        description := givenText block.body "description"
        default := block.body.get? "default"
        required := !block.body.has "default"
        sensitive := givenFlag block.body "sensitive"
        pos := block.pos } := by
  simp only [inputVariable, VariableBody.declare, VariableBody.withDefault_eq, VariableBody.read,
    Attribute.value?_map, givenType, givenText, givenFlag, Json.Members.has, Variable.new]
  cases block.body.get? "default" <;> simp

theorem inputVariable_amend (block : NamedBlock) (base : Variable) :
    inputVariable.amend block base = { base with
      type := if block.body.has "type" then givenType block.body else base.type
      description :=
        if block.body.has "description" then givenText block.body "description"
        else base.description
      default := if block.body.has "default" then block.body.get? "default" else base.default
      required := if block.body.has "default" then false else base.required
      sensitive :=
        if block.body.has "sensitive" then givenFlag block.body "sensitive"
        else base.sensitive } := by
  simp only [inputVariable, VariableBody.amend, VariableBody.withDefault_eq, VariableBody.read,
    Attribute.onto, Attribute.isNamed_map, Attribute.isNamed_string, Attribute.isNamed_bool,
    Attribute.value?_map, givenType, givenText, givenFlag]
  have named : block.body.has "default" = (block.body.get? "default").isSome := rfl
  obtain missing | ⟨value, given⟩ := Option.eq_none_or_eq_some (block.body.get? "default")
  · simp [named, missing]
  · simp [named, given]

theorem output_fresh (block : NamedBlock) :
    output.fresh block =
      ⟨block.name, givenText block.body "description", givenFlag block.body "sensitive",
        block.pos⟩ := rfl

theorem output_amend (block : NamedBlock) (base : Output) :
    output.amend block base = { base with
      description :=
        if block.body.has "description" then givenText block.body "description"
        else base.description
      sensitive :=
        if block.body.has "sensitive" then givenFlag block.body "sensitive"
        else base.sensitive } := by
  simp only [output, OutputBody.amend, OutputBody.read, Attribute.onto, Attribute.isNamed_string,
    Attribute.isNamed_bool, givenText, givenFlag]

theorem resource_fresh (mode : ResourceMode) (block : ResourceBlock) :
    (resource mode).fresh block =
      ⟨mode, block.type, block.name, givenProvider block.type block.body, block.pos⟩ := by
  simp only [resource, ResourceBody.declare, ResourceBody.read, Attribute.value?_map,
    givenProvider, Resource.new]

theorem resource_amend (mode : ResourceMode) (block : ResourceBlock) (base : Resource) :
    (resource mode).amend block base = { base with
      provider :=
        if block.body.has "provider" then givenProvider block.type block.body
        else base.provider } := by
  simp only [resource, ResourceBody.amend, ResourceBody.read, Attribute.onto,
    Attribute.isNamed_map, Attribute.isNamed_string, Attribute.value?_map, givenProvider]

theorem moduleCall_fresh (block : NamedBlock) :
    moduleCall.fresh block =
      ⟨block.name, givenText block.body "source", givenText block.body "version",
        block.pos⟩ := rfl

theorem moduleCall_amend (block : NamedBlock) (base : ModuleCall) :
    moduleCall.amend block base = { base with
      source := if block.body.has "source" then givenText block.body "source" else base.source
      version :=
        if block.body.has "version" then givenText block.body "version" else base.version } := by
  simp only [moduleCall, CallBody.amend, CallBody.read, Attribute.onto, Attribute.isNamed_string,
    givenText]

/-! ## A block and its own entry -/

theorem inputVariable_settled (block : NamedBlock) :
    inputVariable.amend block (inputVariable.fresh block) = inputVariable.fresh block := by
  simp only [inputVariable_amend, inputVariable_fresh, ite_self]
  cases block.body.has "default" <;> rfl

theorem output_settled (block : NamedBlock) :
    output.amend block (output.fresh block) = output.fresh block := by
  simp only [output_amend, output_fresh, ite_self]

theorem resource_settled (mode : ResourceMode) (block : ResourceBlock) :
    (resource mode).amend block ((resource mode).fresh block) = (resource mode).fresh block := by
  simp only [resource_amend, resource_fresh, ite_self]

theorem moduleCall_settled (block : NamedBlock) :
    moduleCall.amend block (moduleCall.fresh block) = moduleCall.fresh block := by
  simp only [moduleCall_amend, moduleCall_fresh, ite_self]

end EntryKind

end ModuleSurvey
