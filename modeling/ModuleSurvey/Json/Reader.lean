import ModuleSurvey.Json.Lexeme
import ModuleSurvey.Json.Print

/-! # Readers of JSON texts

A reader takes a value off the front of a text. Readers of a wanted shape refuse a value of
another shape at the place where they meet it, so of two faults of a text the first one is named.

* `Reader`, `Bounds` — a reader, and what bounds it: brackets may be nested 127 deep.
* `listOf`, `mapOf`, `record`, `variant`, `nullable`, `string`, `bool`, `natural` — readers of a
  wanted shape.
* `value` — the reader of any value; `skipValue` passes over a value that is not wanted.
* `decode` — reads a whole text.
-/

namespace ModuleSurvey.Json

/-- What bounds a reader: the number of loop steps, for which the length of the text is enough,
and the number of brackets that may still be opened, plus one. -/
structure Bounds where
  steps : Nat
  depth : Nat

abbrev Reader (α : Type) := Bounds → List Char → Except Fault (α × List Char)

def maxDepth : Nat := 128

/-! ## Lists and members -/

/-- The bounds inside a bracket that stands at `rest`. -/
def enter (b : Bounds) (rest : List Char) : Except Fault Bounds :=
  match b.depth with
  | d + 2 => .ok ⟨b.steps, d + 1⟩
  | _ => .error (.upon .tooDeep rest)

def nextItem (first : Bool) (cs : List Char) : Except Fault (Option (List Char)) :=
  match skipBlanks cs with
  | [] => .error (.upon .endInList [])
  | ']' :: _ => .ok none
  -- A comma stands between two items.
  | ',' :: cs =>
    if first then .ok (some (',' :: cs))
    else
      match skipBlanks cs with
      | [] => .error (.upon .endInValue [])
      | ']' :: cs => .error (.upon .trailingComma (']' :: cs))
      | cs => .ok (some cs)
  | cs => if first then .ok (some cs) else .error (.upon .expectedListEnd cs)

def endList (cs : List Char) : Except Fault (List Char) :=
  match skipBlanks cs with
  | [] => .error (.upon .endInList [])
  | ']' :: cs => .ok cs
  | ',' :: cs =>
    match skipBlanks cs with
    | ']' :: cs => .error (.upon .trailingComma (']' :: cs))
    | cs => .error (.upon .trailingCharacters cs)
  | cs => .error (.upon .trailingCharacters cs)

def nextMember (first : Bool) (cs : List Char) : Except Fault (Option (List Char)) :=
  let name (cs : List Char) : Except Fault (Option (List Char)) :=
    match cs with
    | [] => .error (.upon .endInValue [])
    | '"' :: cs => .ok (some cs)
    | '\x7d' :: cs => .error (.upon .trailingComma ('\x7d' :: cs))
    | cs => .error (.upon .keyNotString cs)
  match skipBlanks cs with
  | [] => .error (.upon .endInObject [])
  | '\x7d' :: _ => .ok none
  | ',' :: cs => if first then name (',' :: cs) else name (skipBlanks cs)
  | cs => if first then name cs else .error (.upon .expectedObjectEnd cs)

def endObject (cs : List Char) : Except Fault (List Char) :=
  match skipBlanks cs with
  | [] => .error (.upon .endInObject [])
  | '\x7d' :: cs => .ok cs
  | ',' :: cs => .error (.upon .trailingComma (',' :: cs))
  | cs => .error (.upon .trailingCharacters cs)

def readColon (cs : List Char) : Except Fault (List Char) :=
  match skipBlanks cs with
  | [] => .error (.upon .endInObject [])
  | ':' :: cs => .ok cs
  | cs => .error (.upon .expectedColon cs)

/-- A mismatch noticed inside a list: its place is behind the list's end, if that follows. -/
def mismatchInList (m : Mismatch) (cs : List Char) : Fault :=
  let rest :=
    match skipBlanks cs with
    | ']' :: cs => cs
    | ',' :: cs => skipBlanks cs
    | cs => cs
  .behind (.mismatch m) rest

def mismatchInObject (m : Mismatch) (cs : List Char) : Fault :=
  let rest :=
    match skipBlanks cs with
    | '\x7d' :: cs => cs
    | cs => cs
  .behind (.mismatch m) rest

/-- The items of a list up to its end, which is left unread. -/
def items {α : Type} (item : List Char → Except Fault (α × List Char)) :
    (steps : Nat) → (first : Bool) → List Char → Except Fault (List α × List Char)
  | 0, _, cs => .error (.upon .endInList cs)
  | steps + 1, first, cs => do
    match ← nextItem first cs with
    | none => return ([], cs)
    | some cs =>
      let (a, cs) ← item cs
      let (as, cs) ← items item steps false cs
      return (a :: as, cs)

/-- The members of an object up to its end, which is left unread. -/
def members {α : Type} (item : List Char → Except Fault (α × List Char)) :
    (steps : Nat) → (first : Bool) → List Char →
      Except Fault (List (String × α) × List Char)
  | 0, _, cs => .error (.upon .endInObject cs)
  | steps + 1, first, cs => do
    match ← nextMember first cs with
    | none => return ([], cs)
    | some cs =>
      let (name, cs) ← readString cs
      let cs ← readColon cs
      let (a, cs) ← item cs
      let (as, cs) ← members item steps false cs
      return ((String.ofList name, a) :: as, cs)

/-! ## Any value -/

/-- Reads any value, with `depth` brackets to open at most, minus one. `object` makes an object of
the members in their order. -/
def valueAt (object : Members → Value) (steps : Nat) :
    (depth : Nat) → List Char → Except Fault (Value × List Char)
  | depth, cs =>
    match skipBlanks cs with
    | [] => .error (.upon .endInValue [])
    | 'n' :: cs => do return (.null, ← readWord ['u', 'l', 'l'] cs)
    | 't' :: cs => do return (.bool true, ← readWord ['r', 'u', 'e'] cs)
    | 'f' :: cs => do return (.bool false, ← readWord ['a', 'l', 's', 'e'] cs)
    | '-' :: cs => do
      let (n, cs) ← readNumber true cs
      return (.number n, cs)
    | '"' :: cs => do
      let (s, cs) ← readString cs
      return (.string (String.ofList s), cs)
    | '[' :: cs =>
      match depth with
      | depth + 2 => do
        let (vs, cs) ← items (valueAt object steps (depth + 1)) steps true cs
        return (.array vs, ← endList cs)
      | _ => .error (.upon .tooDeep ('[' :: cs))
    | '\x7b' :: cs =>
      match depth with
      | depth + 2 => do
        let (ms, cs) ← members (valueAt object steps (depth + 1)) steps true cs
        return (object ms, ← endObject cs)
      | _ => .error (.upon .tooDeep ('\x7b' :: cs))
    | c :: cs =>
      if c.isDigit then do
        let (n, cs) ← readNumber false (c :: cs)
        return (.number n, cs)
      else .error (.upon .expectedValue (c :: cs))

/-- The reader of any value. Of the members of an object with one name the last one counts. -/
def value : Reader Value := fun b cs => valueAt .ofMembers b.steps b.depth cs

/-! ## Values that are not wanted -/

def skipItems (item : List Char → Except Fault (List Char)) :
    (steps : Nat) → List Char → Except Fault (List Char)
  | 0, cs => .error (.upon .endInList cs)
  | steps + 1, cs => do
    let cs ← item cs
    match skipBlanks cs with
    | [] => .error (.upon .endInList [])
    | ']' :: cs => return cs
    | ',' :: cs => skipItems item steps cs
    | cs => .error (.upon .expectedListEnd cs)

def skipName (cs : List Char) : Except Fault (List Char) := do
  match skipBlanks cs with
  | [] => .error (.upon .endInObject [])
  | '"' :: cs => readColon (← skipString cs)
  | cs => .error (.upon .keyNotString cs)

def skipMembers (item : List Char → Except Fault (List Char)) :
    (steps : Nat) → List Char → Except Fault (List Char)
  | 0, cs => .error (.upon .endInObject cs)
  | steps + 1, cs => do
    let cs ← item (← skipName cs)
    match skipBlanks cs with
    | [] => .error (.upon .endInObject [])
    | '\x7d' :: cs => return cs
    | ',' :: cs => skipMembers item steps cs
    | cs => .error (.upon .expectedObjectEnd cs)

def skipValue : (steps : Nat) → List Char → Except Fault (List Char)
  | 0, cs => .error (.upon .endInValue cs)
  | steps + 1, cs =>
    match skipBlanks cs with
    | [] => .error (.upon .endInValue [])
    -- Neither is the nesting bounded here, nor the size of a number.
    | 'n' :: cs => readWord ['u', 'l', 'l'] cs
    | 't' :: cs => readWord ['r', 'u', 'e'] cs
    | 'f' :: cs => readWord ['a', 'l', 's', 'e'] cs
    | '-' :: cs => do return (← scanNumber .invalidNumber true cs).2
    | '"' :: cs => skipString cs
    | '[' :: cs =>
      match skipBlanks cs with
      | [] => .error (.upon .endInList [])
      | ']' :: cs => .ok cs
      | cs => skipItems (skipValue steps) steps cs
    | '\x7b' :: cs =>
      match skipBlanks cs with
      | [] => .error (.upon .endInObject [])
      | '\x7d' :: cs => .ok cs
      | cs => skipMembers (skipValue steps) steps cs
    | c :: cs =>
      if c.isDigit then do return (← scanNumber .invalidNumber false (c :: cs)).2
      else .error (.upon .expectedValue (c :: cs))

/-! ## Wanted shapes -/

def Number.found : Number → Found
  | .int n => .int n
  | .double d => .float (Number.double d).text

def unexpected {α : Type} (wanted : String) (cs : List Char) : Except Fault (α × List Char) :=
  let refuse (found : Found) (rest : List Char) : Except Fault (α × List Char) :=
    .error (.behind (.mismatch (.wrongType found wanted)) rest)
  match cs with
  | 'n' :: cs => do refuse .null (← readWord ['u', 'l', 'l'] cs)
  | 't' :: cs => do refuse (.bool true) (← readWord ['r', 'u', 'e'] cs)
  | 'f' :: cs => do refuse (.bool false) (← readWord ['a', 'l', 's', 'e'] cs)
  | '-' :: cs => do
    let (n, cs) ← readNumber true cs
    refuse n.found cs
  | '"' :: cs => do
    let (s, cs) ← readString cs
    refuse (.string (String.ofList s)) cs
  -- Of a list or an object only the opening bracket is looked at.
  | '[' :: cs => refuse .sequence ('[' :: cs)
  | '\x7b' :: cs => refuse .map ('\x7b' :: cs)
  | [] => .error (.upon .expectedValue [])
  | c :: cs =>
    if c.isDigit then do
      let (n, cs) ← readNumber false (c :: cs)
      refuse n.found cs
    else .error (.upon .expectedValue (c :: cs))

def string : Reader String := fun _ cs =>
  match skipBlanks cs with
  | [] => .error (.upon .endInValue [])
  | '"' :: cs => do
    let (s, cs) ← readString cs
    return (String.ofList s, cs)
  | cs => unexpected "a string" cs

def bool : Reader Bool := fun _ cs =>
  match skipBlanks cs with
  | [] => .error (.upon .endInValue [])
  | 't' :: cs => do return (true, ← readWord ['r', 'u', 'e'] cs)
  | 'f' :: cs => do return (false, ← readWord ['a', 'l', 's', 'e'] cs)
  | cs => unexpected "a boolean" cs

def natural : Reader Nat := fun _ cs =>
  let judge (n : Number) (rest : List Char) : Except Fault (Nat × List Char) :=
    match n with
    | .int (.ofNat n) => .ok (n, rest)
    | .int n => .error (.behind (.mismatch (.wrongValue (.int n) "usize")) rest)
    | n => .error (.behind (.mismatch (.wrongType n.found "usize")) rest)
  match skipBlanks cs with
  | [] => .error (.upon .endInValue [])
  | '-' :: cs => do
    let (n, rest) ← readNumber true cs
    judge n rest
  | c :: cs =>
    if c.isDigit then do
      let (n, rest) ← readNumber false (c :: cs)
      judge n rest
    else unexpected "usize" (c :: cs)

def nullable {α : Type} (item : Reader α) : Reader (Option α) := fun b cs =>
  match skipBlanks cs with
  | 'n' :: cs => do return (none, ← readWord ['u', 'l', 'l'] cs)
  | cs => do
    let (a, cs) ← item b cs
    return (some a, cs)

def listOf {α : Type} (item : Reader α) : Reader (List α) := fun b cs =>
  match skipBlanks cs with
  | [] => .error (.upon .endInValue [])
  | '[' :: cs => do
    let inner ← enter b ('[' :: cs)
    let (as, cs) ← items (item inner) b.steps true cs
    return (as, ← endList cs)
  | cs => unexpected "a sequence" cs

def mapOf {α : Type} (item : Reader α) : Reader (List (String × α)) := fun b cs =>
  match skipBlanks cs with
  | [] => .error (.upon .endInValue [])
  | '\x7b' :: cs => do
    let inner ← enter b ('\x7b' :: cs)
    let (as, cs) ← members (item inner) b.steps true cs
    return (as, ← endObject cs)
  | cs => unexpected "a map" cs

def chosen {α : Type} (known : List (String × α)) (name : String) (rest : List Char) :
    Except Fault (α × List Char) :=
  match SortedMap.lookupEntry name known with
  | some a => .ok (a, rest)
  | none => .error (.behind (.mismatch (.unknownVariant name (known.map (·.1)))) rest)

def readNull (cs : List Char) : Except Fault (List Char) :=
  match skipBlanks cs with
  | [] => .error (.upon .endInValue [])
  | 'n' :: cs => readWord ['u', 'l', 'l'] cs
  | cs => (unexpected "unit" cs).map fun (found : Unit × List Char) => found.2

/-- One of the known names: a string, or an object whose one member has that name and the value
`null`. -/
def variant {α : Type} (known : List (String × α)) : Reader α := fun b cs =>
  match skipBlanks cs with
  | [] => .error (.upon .endInValue [])
  | '"' :: cs => do
    let (s, cs) ← readString cs
    chosen known (String.ofList s) cs
  | '\x7b' :: cs => do
    let _ ← enter b ('\x7b' :: cs)
    let (a, cs) ←
      match skipBlanks cs with
      | [] => .error (.upon .endInValue [])
      | '"' :: cs => do
        let (s, cs) ← readString cs
        chosen known (String.ofList s) cs
      | cs => unexpected "variant identifier" cs
    let cs ← readNull (← readColon cs)
    match skipBlanks cs with
    | [] => .error (.behind .endInObject [])
    | '\x7d' :: cs => return (a, cs)
    | cs => .error (.behind .expectedValue cs)
  | cs => .error (.upon .expectedValue cs)

/-! ## Records -/

/-- A field of a record that is built up in `σ`: how to read it, and whether it may be left
out. -/
structure Field (σ : Type) where
  name : String
  optional : Bool
  read : Reader (σ → σ)

def Field.required {σ α : Type} (name : String) (item : Reader α) (set : α → σ → σ) : Field σ :=
  ⟨name, false, fun b cs => do
    let (a, cs) ← item b cs
    return (set a, cs)⟩

def Field.free {σ α : Type} (name : String) (item : Reader α) (set : α → σ → σ) : Field σ :=
  { Field.required name item set with optional := true }

def recordMembers {σ : Type} (fields : List (Field σ)) (b : Bounds) :
    (steps : Nat) → (first : Bool) → (seen : List String) → σ → List Char →
      Except Fault ((List String × σ) × List Char)
  | 0, _, _, _, cs => .error (.upon .endInObject cs)
  | steps + 1, first, seen, state, cs => do
    match ← nextMember first cs with
    | none => return ((seen, state), cs)
    | some cs =>
      let (chars, cs) ← readString cs
      let name := String.ofList chars
      match fields.find? (·.name == name) with
      -- A name that is not known is passed over, and no known one may come twice.
      | none =>
        let cs ← skipValue b.steps (← readColon cs)
        recordMembers fields b steps false seen state cs
      | some field =>
        if seen.contains name then
          throw (mismatchInObject (.duplicateField name) cs)
        else
          let (set, cs) ← field.read b (← readColon cs)
          recordMembers fields b steps false (name :: seen) (set state) cs

def recordItems {σ : Type} (record : String) (count : Nat) (b : Bounds) :
    (fields : List (Field σ)) → (index : Nat) → σ → List Char → Except Fault (σ × List Char)
  | [], _, state, cs => .ok (state, cs)
  | field :: fields, index, state, cs => do
    match ← nextItem (index == 0) cs with
    | none =>
      -- The list may end early if all further fields may be left out.
      if field.optional then recordItems record count b fields (index + 1) state cs
      else throw (mismatchInList (.tooShort index record count) cs)
    | some cs =>
      let (set, cs) ← field.read b cs
      recordItems record count b fields (index + 1) (set state) cs

/-- A record: an object with its fields, or a list of their values in order. -/
def record {σ : Type} (name : String) (fields : List (Field σ)) (start : σ) : Reader σ :=
  fun b cs =>
  match skipBlanks cs with
  | [] => .error (.upon .endInValue [])
  | '[' :: cs => do
    let inner ← enter b ('[' :: cs)
    let (state, cs) ← recordItems name fields.length inner fields 0 start cs
    return (state, ← endList cs)
  | '\x7b' :: cs => do
    let inner ← enter b ('\x7b' :: cs)
    let ((seen, state), cs) ← recordMembers fields inner b.steps true [] start cs
    match fields.find? fun f => !f.optional && !seen.contains f.name with
    | some field => throw (mismatchInObject (.missingField field.name) cs)
    | none => return (state, ← endObject cs)
  | cs => unexpected ("struct " ++ name) cs

/-! ## Whole texts -/

def decodeChars {α : Type} (reader : Reader α) (text : List Char) : Except Fault α := do
  let (a, cs) ← reader ⟨text.length + 1, maxDepth⟩ text
  match skipBlanks cs with
  | [] => return a
  | cs => throw (.upon .trailingCharacters cs)

def decode {α : Type} (reader : Reader α) (text : String) : Except Fault α :=
  decodeChars reader text.toList

def Value.parse (text : String) : Except Fault Value := decode value text

end ModuleSurvey.Json
