import ModuleSurvey.Module.Json
import ModuleSurvey.Report.Problems

/-! # The summary of a module

* `summaryLines` — what a module declares, section by section.
* `render` — a module in an output format.
-/

namespace ModuleSurvey.Report

def commas (l : List String) : String := ", ".intercalate l

def sectionLines (title : String) (entries : List Line) : List Line :=
  [.styled .bold (title ++ " (" ++ toString entries.length ++ "):")]
    :: if entries.isEmpty then [[.plain "  ", .styled .dimmed "(none)"]] else entries

/-- An entry: a name, words in brackets, and a description. -/
def entryLine (name : String) (tags : List String) (description : String) : Line :=
  [.plain "  ", .styled .bold name]
    ++ (if tags.isEmpty then [] else [.plain (" [" ++ commas tags ++ "]")])
    ++ (if description = "" then [] else [.plain " - ", .styled .dimmed description])

def providerLine (m : Module) (name : String) (r : ProviderRequirement) : Line :=
  [.plain "  ", .styled .bold name]
    ++ (if r.source = "" then [] else [.plain (" (" ++ r.source ++ ")")])
    ++ (if r.versionConstraints.isEmpty then [] else [.plain (" " ++ commas r.versionConstraints)])
    ++ (match m.providerAliases.get? name with
      | none => []
      | some aliases => [.plain (" aliases: " ++ commas aliases)])

def variableLine (name : String) (v : Variable) : Line :=
  entryLine name
    (v.type.toList ++ (if v.required then ["required"] else [])
      ++ (if v.sensitive then ["sensitive"] else [])) v.description

def outputLine (name : String) (o : Output) : Line :=
  entryLine name (if o.sensitive then ["sensitive"] else []) o.description

def arrowLine (name target : String) : Line :=
  [.plain "  ", .styled .bold name, .plain (" → " ++ target)]

def callLine (name : String) (c : ModuleCall) : Line :=
  arrowLine name (c.source ++ if c.version = "" then "" else " (" ++ c.version ++ ")")

def mapLines {α : Type} (f : String → α → Line) (m : SortedMap α) : List Line :=
  m.entries.map fun e => f e.1 e.2

def summaryLines (m : Module) : List Line :=
  [[.styled .bold "Module:", .plain (" " ++ m.path)]]
    ++ (if m.requiredCore.isEmpty then []
      else [[.plain ("  Core version: " ++ commas m.requiredCore)]])
    ++ [[]] ++ sectionLines "Providers" (mapLines (providerLine m) m.requiredProviders)
    ++ [[]] ++ sectionLines "Variables" (mapLines variableLine m.inputs)
    ++ [[]] ++ sectionLines "Outputs" (mapLines outputLine m.outputs)
    ++ [[]] ++ sectionLines "Managed resources"
      (mapLines (fun a r => arrowLine a r.provider.text) m.managedResources)
    ++ [[]] ++ sectionLines "Data resources"
      (mapLines (fun a r => arrowLine a r.provider.text) m.dataResources)
    ++ [[]] ++ sectionLines "Module calls" (mapLines callLine m.moduleCalls)
    ++ (if m.diagnostics.isEmpty then []
      else [[]] ++ sectionLines "Diagnostics"
        (m.diagnostics.map fun d => .plain "  " :: diagnosticLine d))

def render (m : Module) (format : OutputFormat) (pretty color : Bool) : String :=
  match format with
  | .json => m.toJson pretty ++ "\n"
  | .summary => linesText color (summaryLines m)

end ModuleSurvey.Report
