import ModuleSurvey.CommandLine.Form

/-! # Help

* `helpText` — what is shown about a command: its summary, how it is called, the commands below it
  and its arguments.
-/

namespace ModuleSurvey.CommandLine

def positionalText (a : Argument) : String :=
  match a.value with
  | some (_, placeholder) => "[" ++ placeholder ++ "]"
  | none => ""

def optionText (a : Argument) : String :=
  (match a.letter with
    | some c => String.ofList ['-', c, ',', ' ']
    | none => "    ")
    ++ "--" ++ a.name
    ++ (match a.value with
      | some (_, placeholder) => " <" ++ placeholder ++ ">"
      | none => "")

def usageText (path : List String) (f : Form) : String :=
  "Usage: " ++ " ".intercalate path ++ " [OPTIONS]"
    ++ (match f.positional? with
      | some a => " " ++ positionalText a
      | none => "")
    ++ (if f.commands.isEmpty then "" else if f.commandRequired then " <COMMAND>" else " [COMMAND]")

/-- The order of the arguments: by rank, then by letter or name. -/
def sortKey (a : Argument) : Nat × String :=
  (a.rank,
    match a.letter with
    | some c => String.ofList [c.toLower, if c.isLower then '0' else '1']
    | none => a.name)

def comesBefore (a b : Argument) : Bool :=
  let (m, s) := sortKey a
  let (n, t) := sortKey b
  m < n || (m == n && s ≤ t)

def argumentSummary (env : Environment) (a : Argument) : String :=
  a.summary
    ++ (match a.variableName with
      | some name => " [env: " ++ name ++ "=" ++ (env.get? name).getD "" ++ "]"
      | none => "")
    ++ (match a.fallback with
      | some value => " [default: " ++ value ++ "]"
      | none => "")

def section_ (heading : String) (rows : List (String × String)) : List String :=
  if rows.isEmpty then []
  else
    let width := rows.foldl (fun n row => max n row.1.length) 0
    "" :: (heading ++ ":") :: rows.map fun (left, right) =>
      "  " ++ left ++ String.ofList (List.replicate (width - left.length) ' ') ++ "  " ++ right

def helpText (env : Environment) (path : List String) (f : Form) : String :=
  let commands :=
    if f.commands.isEmpty then []
    else f.commands.map (fun c => (c.name, c.summary))
      ++ [(helpCommandName, "Print this message or the help of the given subcommand(s)")]
  let positionals := f.positional?.toList.map fun a => (positionalText a, argumentSummary env a)
  let options := ((f.allArguments.filter (!·.positional)).mergeSort comesBefore).map fun a =>
    (optionText a, argumentSummary env a)
  let lines := [f.summary, "", usageText path f] ++ section_ "Commands" commands
    ++ section_ "Arguments" positionals ++ section_ "Options" options
  String.join (lines.map (· ++ "\n"))

end ModuleSurvey.CommandLine
