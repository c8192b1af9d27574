import ModuleSurvey.CommandLine.Form
import ModuleSurvey.Text.Lines

/-! # Reading the command line

* `Given` — the values given to one command; `Reading` — those so far, while they are read.
* `readArguments` — the arguments of one command, up to the name of a command below it.
* `readCommands` — the commands on the line, from the tool itself to the innermost one.
* `Stop` — why the command is not carried out: a mistake, or a question about the tool itself.
-/

namespace ModuleSurvey.CommandLine

inductive Stop where
  | usage
  /-- The version is asked for, of the command with these names. -/
  | version (path : List String)
  /-- Help is asked for, with the command of this form, named like this. -/
  | help (path : List String) (form : Form)

/-- The values given to a command, by the names of its arguments. A switch has an empty value. -/
abbrev Given := List (String × String)

inductive Pending where
  | none
  /-- An option whose value comes next. -/
  | awaiting (a : Argument)
  /-- An argument whose value has not been looked at. -/
  | unchecked (a : Argument) (value : String)

/-- The arguments so far. The latest one is looked at only when the next one is called, or at the
end. -/
structure Reading where
  given : Given := []
  pending : Pending := .none

namespace Reading

def has (r : Reading) (name : String) : Bool := (SortedMap.lookupEntry name r.given).isSome

def settle (r : Reading) : Except Stop Reading :=
  match r.pending with
  | .none => .ok r
  | .awaiting _ => .error .usage
  -- It needs a value of its kind, and may be given only once.
  | .unchecked a value =>
    if r.has a.name || !(a.value.map (·.1)).all (·.accepts value) then .error .usage
    else .ok ⟨r.given ++ [(a.name, value)], .none⟩

def take (r : Reading) (a : Argument) (value : String) : Except Stop Reading := do
  return { ← r.settle with pending := .unchecked a value }

def takeAttached (r : Reading) (a : Argument) (value : String) : Except Stop Reading := do
  (← r.take a value).settle

def await (r : Reading) (a : Argument) : Except Stop Reading := do
  return { ← r.settle with pending := .awaiting a }

def turnOn (path : List String) (s : Form) (r : Reading) (a : Argument) :
    Except Stop Reading := do
  let r ← r.settle
  -- The questions about the tool itself are answered at once.
  if a.name = helpSwitch.name then throw (.help path s)
  else if a.name = versionSwitch.name then throw (.version path)
  else r.takeAttached a ""

end Reading

/-! ## One command -/

def isCall (word : String) : Bool :=
  match word.toList with
  | '-' :: _ :: _ => true
  | _ => false

/-- A word with two hyphens, which calls an option or a switch by its name; an option's value may
stand behind an equals sign. -/
def readName (path : List String) (s : Form) (r : Reading) (word : List Char) :
    Except Stop Reading :=
  let (name, value) :=
    match Text.cutAtFirst? '=' word with
    | some (name, value) => (name, some (String.ofList value))
    | none => (word, none)
  match s.named? (String.ofList name) with
  | none => .error .usage
  | some a =>
    match a.value, value with
    | some _, some value => r.takeAttached a value
    | some _, none => r.await a
    | none, some _ => .error .usage
    | none, none => r.turnOn path s a

/-- A word with one hyphen, which calls switches by their letters, and an option by the last one;
the option's value may follow in the same word. -/
def readLetters (path : List String) (s : Form) : Reading → List Char → Except Stop Reading
  | r, [] => .ok r
  | r, letter :: letters =>
    match s.lettered? letter with
    | none => .error .usage
    | some a =>
      match a.value, letters with
      | some _, [] => r.await a
      | some _, '=' :: value => r.takeAttached a (String.ofList value)
      | some _, value => r.takeAttached a (String.ofList value)
      | none, letters => do readLetters path s (← r.turnOn path s a) letters

def readPositional (s : Form) (r : Reading) (word : String) : Except Stop Reading := do
  let r ← r.settle
  match s.positional? with
  | some a => if r.has a.name then throw .usage else r.take a word
  | none => throw .usage

abbrev Below := Option (Form × List String)

def readHelp (path : List String) : Form → List String → Stop
  | s, [] => .help path s
  | s, word :: words =>
    match s.command? word with
    | some below => readHelp (path ++ [word]) below words
    | none => .usage

def readArguments (path : List String) (s : Form) :
    (positionalOnly : Bool) → Reading → List String → Except Stop (Reading × Below)
  | _, r, [] => .ok (r, none)
  -- Behind two hyphens alone there are positional arguments only.
  | true, r, word :: words => do
    readArguments path s true (← readPositional s r word) words
  | false, r, word :: words =>
    match r.pending with
    | .awaiting a =>
      if isCall word then .error .usage
      else readArguments path s false { r with pending := .unchecked a word } words
    | _ =>
      if word = helpCommandName ∧ s.commands.length ≠ 0 then .error (readHelp path s words)
      else
        match s.command? word with
        | some below => .ok (r, some (below, words))
        | none =>
          match word.toList with
          | ['-', '-'] => readArguments path s true r words
          | '-' :: '-' :: name => do
            readArguments path s false (← readName path s r name) words
          | '-' :: letter :: letters => do
            readArguments path s false (← readLetters path s r (letter :: letters)) words
          | _ => do readArguments path s false (← readPositional s r word) words

/-! ## All commands -/

structure Level where
  name : String
  given : Given
  deriving DecidableEq, Repr

/-- Whether the environment holds values of the right kind for the arguments that are not given. -/
def environmentFits (env : Environment) (s : Form) (r : Reading) : Bool :=
  s.allArguments.all fun a =>
    match a.variableName.bind env.get?, a.value with
    | some value, some (kind, _) => r.has a.name || kind.accepts value
    | _, _ => true

/-- The commands on the line, the outermost first. `path` are the names of the commands around, and
`depth` bounds how many commands there can be. -/
def readCommands (env : Environment) : (depth : Nat) → (path : List String) → Form →
    List String → Except Stop (List Level)
  | 0, _, _, _ => .error .usage
  | depth + 1, path, s, words => do
    let path := path ++ [s.name]
    let (r, below) ← readArguments path s false {} words
    let inner ←
      match below with
      | none => if s.commandRequired then throw .usage else pure []
      | some (below, words) => readCommands env depth path below words
    -- The last argument is looked at behind those of the command below.
    let r ← r.settle
    if environmentFits env s r then return ⟨s.name, r.given⟩ :: inner else throw .usage

end ModuleSurvey.CommandLine
