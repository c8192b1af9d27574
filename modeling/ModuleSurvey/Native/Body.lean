import ModuleSurvey.Native.Reader

/-! # Native files as values

A native file becomes the value that a JSON file with the same content holds.

* `Expr.toValue?` — plain values become themselves, and every other expression the text of an
  interpolation.
* `Node.merge` — blocks of a type are gathered below their labels; what cannot be gathered is
  replaced.
* `valueOfText?` — the value of a whole file.
-/

namespace ModuleSurvey.Native

open Json (Value Members)

/-! ## Expressions -/

def interpolated (e : Expr) : Value :=
  .string (String.ofList ('$' :: '\x7b' :: e.chars false 0 ++ ['\x7d']))

mutual

/-- The value of an expression, if it has one. -/
def Expr.toValue? : Expr → Option Value
  | .null => some .null
  | .bool b => some (.bool b)
  | .number n => some (.number n)
  | .text cs => some (.string (String.ofList cs))
  | .template pieces => some (.string (String.ofList (piecesText pieces)))
  | .heredoc _ _ cs => some (.string (String.ofList cs))
  | .array items => (itemValues? items).map .array
  -- An object has no value if a name of it is no text.
  | .object entries => (entryValues? entries).map .ofMembers
  -- Parentheses around an expression do not count.
  | .parens e => e.toValue?
  | e => some (interpolated e)

def itemValues? : List Expr → Option (List Value)
  | [] => some []
  | e :: es => do return (← e.toValue?) :: (← itemValues? es)

def entryValues? : List (Key Expr × Expr) → Option Members
  | [] => some []
  | (.word name, e) :: entries => do return (name, ← e.toValue?) :: (← entryValues? entries)
  | (.expr key, e) :: entries => do
    match ← key.toValue? with
    | .string name => return (name, ← e.toValue?) :: (← entryValues? entries)
    | _ => none

end

/-! ## Bodies -/

/-- What stands under a name of a body. -/
inductive Node where
  | value (v : Value)
  /-- Labels, and what stands below each. -/
  | labels (entries : List (String × Node))
  /-- The bodies of blocks with the same labels. -/
  | bodies (members : List Members)
  deriving Inhabited

mutual

/-- Puts a later node onto an earlier one: labels are gathered, and so are bodies; anything else
is replaced. -/
def Node.merge : Node → Node → Node
  | .labels earlier, later =>
    match later with
    | .labels entries => .labels (mergeEntries earlier entries)
    | later => later
  | .bodies earlier, later =>
    match later with
    | .bodies members => .bodies (earlier ++ members)
    | later => later
  | .value _, later => later

def mergeEntries : List (String × Node) → List (String × Node) → List (String × Node)
  | [], later => later
  | (name, node) :: earlier, later =>
    match SortedMap.lookupEntry name later with
    | none => (name, node) :: mergeEntries earlier later
    | some other =>
      (name, node.merge other) :: mergeEntries earlier (later.filter (·.1 ≠ name))

end

mutual

def Node.toValue : Node → Value
  | .value v => v
  | .labels entries => .ofMembers (entryNodes entries)
  -- A single body is an object, and several are a list.
  | .bodies [ms] => .ofMembers ms
  | .bodies mss => .array (mss.map .ofMembers)

def entryNodes : List (String × Node) → Members
  | [] => []
  | (name, node) :: entries => (name, node.toValue) :: entryNodes entries

end

def nodeBelow (body : Members) : List String → Node
  | [] => .bodies [body]
  | label :: labels => .labels [(label, nodeBelow body labels)]

mutual

def Item.toEntry? : Item → Option (String × Node)
  | .attribute name e => do return (name, .value (← e.toValue?))
  | .block type labels items => do return (type, nodeBelow (← bodyMembers? items) labels)

/-- The entries of a body, later items put onto earlier ones. -/
def bodyEntries? : List (String × Node) → List Item → Option (List (String × Node))
  | gathered, [] => some gathered
  | gathered, item :: items => do
    bodyEntries? (mergeEntries gathered [← item.toEntry?]) items

def bodyMembers? (items : List Item) : Option Members := do
  return entryNodes (← bodyEntries? [] items)

end

/-- The value of a whole file, if it is well formed. -/
def valueOfText? (text : String) : Option Value := do
  return .ofMembers (← bodyMembers? (← bodyOfText? text))

end ModuleSurvey.Native
