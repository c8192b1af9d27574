import ModuleSurvey.Module
import ModuleSurvey.Json.Reader

/-! # Modules as JSON

The form in which a module is handed to other programs.

* `Module.toValue`, `Module.toJson` — the object of a module. Empty descriptions, versions,
  aliases and lists are left out, and so are the constraints on the core, the aliases and the
  problems where there are none; the maps are always there.
* `Module.reader`, `Module.ofJson` — reads the form back.
* `ProviderAliases.ofValue` — reads the aliases out of a value.
-/

namespace ModuleSurvey

open Json (Value Reader Field)

/-! ## Writing -/

/-- A member, left out when its text is empty. -/
def textMember (name s : String) : List (String × Value) :=
  if s = "" then [] else [(name, .string s)]

def flagMember (name : String) (b : Bool) : List (String × Value) :=
  if b then [(name, .bool true)] else []

def stringsValue (l : List String) : Value := .array (l.map .string)

def listMember (name : String) (l : List Value) : List (String × Value) :=
  if l.isEmpty then [] else [(name, .array l)]

def mapValue {α : Type} (f : α → Value) (m : SortedMap α) : Value :=
  .object (m.entries.map fun e => (e.1, f e.2))

def SourcePos.toValue (p : SourcePos) : Value :=
  .object [("filename", .string p.filename), ("line", .number (.int p.line))]

def Severity.toValue : Severity → Value
  | error => .string "error"
  | warning => .string "warning"

def Diagnostic.toValue (d : Diagnostic) : Value :=
  .object ([("severity", d.severity.toValue), ("summary", .string d.summary)]
    ++ textMember "detail" d.detail
    ++ (d.pos.map fun p => ("pos", p.toValue)).toList)

def Diagnostics.toValue (ds : Diagnostics) : Value := .array (ds.map Diagnostic.toValue)

def ProviderRef.toValue (r : ProviderRef) : Value :=
  .object ([("name", .string r.name)] ++ textMember "alias" r.aliasName)

def ProviderRequirement.toValue (r : ProviderRequirement) : Value :=
  .object (textMember "source" r.source
    ++ listMember "version_constraints" (r.versionConstraints.map .string)
    ++ listMember "aliases" (r.configurationAliases.map ProviderRef.toValue))

def ProviderAliases.toValue (a : ProviderAliases) : Value := mapValue stringsValue a.byName

def Variable.toValue (v : Variable) : Value :=
  .object ([("name", .string v.name)]
    ++ (v.type.map fun t => ("type", Value.string t)).toList
    ++ textMember "description" v.description
    ++ [("default", v.default.getD .null), ("required", .bool v.required)]
    ++ flagMember "sensitive" v.sensitive
    ++ [("pos", v.pos.toValue)])

def Output.toValue (o : Output) : Value :=
  .object ([("name", .string o.name)]
    ++ textMember "description" o.description
    ++ flagMember "sensitive" o.sensitive
    ++ [("pos", o.pos.toValue)])

def Resource.toValue (r : Resource) : Value :=
  .object [("mode", .string r.mode.text), ("type", .string r.type), ("name", .string r.name),
    ("provider", r.provider.toValue), ("pos", r.pos.toValue)]

def ModuleCall.toValue (c : ModuleCall) : Value :=
  .object ([("name", .string c.name), ("source", .string c.source)]
    ++ textMember "version" c.version
    ++ [("pos", c.pos.toValue)])

def Module.toValue (m : Module) : Value :=
  .object ([("path", .string m.path),
      ("variables", mapValue Variable.toValue m.inputs),
      ("outputs", mapValue Output.toValue m.outputs)]
    ++ listMember "required_core" (m.requiredCore.map .string)
    ++ [("required_providers", mapValue ProviderRequirement.toValue m.requiredProviders)]
    ++ (if m.providerAliases.isEmpty then []
      else [("provider_aliases", m.providerAliases.toValue)])
    ++ [("managed_resources", mapValue Resource.toValue m.managedResources),
      ("data_resources", mapValue Resource.toValue m.dataResources),
      ("module_calls", mapValue ModuleCall.toValue m.moduleCalls)]
    ++ listMember "diagnostics" (m.diagnostics.map Diagnostic.toValue))

def Module.toJson (m : Module) (pretty : Bool) : String :=
  if pretty then m.toValue.pretty else m.toValue.compact

/-! ## Reading -/

/-- A map, where the last member of a name counts. -/
def sortedMap {α : Type} (item : Reader α) : Reader (SortedMap α) := fun b cs => do
  let (entries, cs) ← Json.mapOf item b cs
  return (SortedMap.ofList entries, cs)

def SourcePos.reader : Reader SourcePos :=
  Json.record "SourcePos" [
    .required "filename" Json.string fun s p => { p with filename := s },
    .required "line" Json.natural fun n p => { p with line := n }] ⟨"", 0⟩

def Severity.reader : Reader Severity :=
  Json.variant [("error", .error), ("warning", .warning)]

def Diagnostic.reader : Reader Diagnostic :=
  Json.record "Diagnostic" [
    .required "severity" Severity.reader fun s d => { d with severity := s },
    .required "summary" Json.string fun s d => { d with summary := s },
    .free "detail" Json.string fun s d => { d with detail := s },
    .free "pos" (Json.nullable SourcePos.reader) fun p d => { d with pos := p }]
    (Diagnostic.error "" "")

def Diagnostics.reader : Reader Diagnostics := Json.listOf Diagnostic.reader

def ProviderRef.reader : Reader ProviderRef :=
  Json.record "ProviderRef" [
    .required "name" Json.string fun s r => { r with name := s },
    .free "alias" Json.string fun s r => { r with aliasName := s }] ⟨"", ""⟩

def ProviderRequirement.reader : Reader ProviderRequirement :=
  Json.record "ProviderRequirement" [
    .free "source" Json.string fun s r => { r with source := s },
    .free "version_constraints" (Json.listOf Json.string)
      fun l r => { r with versionConstraints := l },
    .free "aliases" (Json.listOf ProviderRef.reader)
      fun l r => { r with configurationAliases := l }] .empty

def ProviderAliases.reader : Reader ProviderAliases := fun b cs => do
  let (m, cs) ← sortedMap (Json.listOf Json.string) b cs
  -- Repeated aliases count once, and a provider without aliases is left out.
  return (.ofMap m, cs)

def Variable.reader : Reader Variable :=
  Json.record "Variable" [
    .required "name" Json.string fun s v => { v with name := s },
    .free "type" (Json.nullable Json.string) fun t v => { v with type := t },
    .free "description" Json.string fun s v => { v with description := s },
    -- A default of `null` reads as none.
    .free "default" (Json.nullable Json.value) fun d v => { v with default := d },
    .required "required" Json.bool fun b v => { v with required := b },
    .free "sensitive" Json.bool fun b v => { v with sensitive := b },
    .required "pos" SourcePos.reader fun p v => { v with pos := p }] (.new "" ⟨"", 0⟩)

def Output.reader : Reader Output :=
  Json.record "Output" [
    .required "name" Json.string fun s o => { o with name := s },
    .free "description" Json.string fun s o => { o with description := s },
    .free "sensitive" Json.bool fun b o => { o with sensitive := b },
    .required "pos" SourcePos.reader fun p o => { o with pos := p }] (.new "" ⟨"", 0⟩)

def ResourceMode.reader : Reader ResourceMode :=
  Json.variant [("managed", .managed), ("data", .data)]

def Resource.reader : Reader Resource :=
  Json.record "Resource" [
    .required "mode" ResourceMode.reader fun m r => { r with mode := m },
    .required "type" Json.string fun s r => { r with type := s },
    .required "name" Json.string fun s r => { r with name := s },
    .required "provider" ProviderRef.reader fun p r => { r with provider := p },
    .required "pos" SourcePos.reader fun p r => { r with pos := p }]
    (.new .managed "" "" ⟨"", 0⟩)

def ModuleCall.reader : Reader ModuleCall :=
  Json.record "ModuleCall" [
    .required "name" Json.string fun s c => { c with name := s },
    .required "source" Json.string fun s c => { c with source := s },
    .free "version" Json.string fun s c => { c with version := s },
    .required "pos" SourcePos.reader fun p c => { c with pos := p }] (.new "" "" ⟨"", 0⟩)

def Module.reader : Reader Module :=
  Json.record "Module" [
    .required "path" Json.string fun s m => { m with path := s },
    .free "variables" (sortedMap Variable.reader) fun x m => { m with inputs := x },
    .free "outputs" (sortedMap Output.reader) fun x m => { m with outputs := x },
    .free "required_core" (Json.listOf Json.string) fun x m => { m with requiredCore := x },
    .free "required_providers" (sortedMap ProviderRequirement.reader)
      fun x m => { m with requiredProviders := x },
    .free "provider_aliases" ProviderAliases.reader fun x m => { m with providerAliases := x },
    .free "managed_resources" (sortedMap Resource.reader)
      fun x m => { m with managedResources := x },
    .free "data_resources" (sortedMap Resource.reader) fun x m => { m with dataResources := x },
    .free "module_calls" (sortedMap ModuleCall.reader) fun x m => { m with moduleCalls := x },
    .free "diagnostics" Diagnostics.reader fun x m => { m with diagnostics := x }] (.new "")

def Module.ofJson (text : String) : Except Json.Fault Module := Json.decode Module.reader text

def Module.decodeMessage (text : String) (f : Json.Fault) : String :=
  "Failed to decode module from JSON: " ++ f.message text.toList

/-! ## Aliases out of a value -/

def Json.Value.found : Value → Found
  | .null => .null
  | .bool b => .bool b
  | .number n => n.found
  | .string s => .string s
  | .array _ => .sequence
  | .object _ => .map

def stringOfValue : Value → Except Mismatch String
  | .string s => .ok s
  | v => .error (.wrongType v.found "a string")

def stringsOfValue : Value → Except Mismatch (List String)
  | .array vs => vs.mapM stringOfValue
  | v => .error (.wrongType v.found "a sequence")

def ProviderAliases.ofValue : Value → Except Mismatch ProviderAliases
  | .object ms => do
    return .ofMap (.ofList (← ms.mapM fun e => do return (e.1, ← stringsOfValue e.2)))
  | v => .error (.wrongType v.found "a map")

end ModuleSurvey
