import ModuleSurvey.Native.Literal
import ModuleSurvey.Native.Print
import ModuleSurvey.Native.Space

/-! # Reading native files

A native file is a body: attributes `name = expression` and blocks `type labels { … }`, one to a
line. Each reader takes something off the front of a text and gives back the rest; `none` says
that the text is not well formed. The first argument bounds the nesting of the calls.

* `Expr.read` — an expression; with `multi` it may go on in the next line.
* `Item.readBody` — the items of a body.
* `bodyOfText?` — a whole file.
-/

namespace ModuleSurvey.Native

/-! ## Operators and names -/

/-- The operators that stand between two expressions, longer ones first. -/
def operators : List String :=
  ["==", "!=", "<=", ">=", "&&", "||", "<", ">", "+", "-", "*", "/", "%"]

def takeOperator? (cs : List Char) : Option (String × List Char) :=
  match cs with
  -- A comment is no operator.
  | '/' :: '/' :: _ | '/' :: '*' :: _ => none
  | cs => operators.findSome? fun op => (Text.dropStart? op.toList cs).map fun rest => (op, rest)

def readDotStep? (cs : List Char) : Option (Access Expr × List Char) :=
  match cs with
  | '*' :: cs => some (.attributeSplat, cs)
  | cs =>
    match Json.splitDigits cs with
    | ([], _) => (takeWord? cs).map fun (name, rest) => (.attribute name, rest)
    | (digits, rest) => some (.position (Json.digitsValue digits), rest)

/-- The further parts of a function's name, each behind `::`. -/
def readNamespaces (multi : Bool) : (steps : Nat) → List Char → List String × List Char
  | 0, cs => ([], cs)
  | steps + 1, cs =>
    match skipSpace multi cs with
    | ':' :: ':' :: rest =>
      match takeWord? (skipSpace multi rest) with
      | some (name, rest) =>
        let (names, rest) := readNamespaces multi steps rest
        (name :: names, rest)
      | none => ([], cs)
    | _ => ([], cs)

/-! ## Directives -/

/-- A directive of a text that waits for its end. -/
inductive OpenDirective where
  | ifDirective
  | elseDirective
  | forDirective
  deriving DecidableEq, Repr

def closeDirective? (word : String) : List OpenDirective → Option (List OpenDirective)
  | .ifDirective :: ds =>
    if word = "else" then some (.elseDirective :: ds)
    else if word = "endif" then some ds else none
  | .elseDirective :: ds => if word = "endif" then some ds else none
  | .forDirective :: ds => if word = "endfor" then some ds else none
  | [] => none

/-- The text behind an optional mark that takes away white space. -/
def skipStrip : List Char → List Char
  | '~' :: cs => cs
  | cs => cs

def endMarker? (cs : List Char) : Option (List Char) :=
  match skipStrip (skipSpace true cs) with
  | '\x7d' :: cs => some cs
  | _ => none

def consumed (cs rest : List Char) : List Char := cs.take (cs.length - rest.length)

/-- The text behind the closing line of a text over several lines, at the beginning of a line. -/
def closingLine? (delimiter : String) (cs : List Char) : Option (List Char) :=
  Text.dropStart? delimiter.toList (cs.dropWhile fun c => c = ' ' || c = '\t')

/-! ## Expressions -/

mutual

def Expr.read (multi : Bool) : (steps : Nat) → List Char → Option (Expr × List Char)
  | 0, _ => none
  | n + 1, cs => do
    let (e, cs) ← readTerm multi n cs
    readSuffixes multi n e cs

/-- What may follow a term: steps to a part of it, an operator, or a condition's two values. -/
def readSuffixes (multi : Bool) : (steps : Nat) → Expr → List Char → Option (Expr × List Char)
  | 0, _, _ => none
  | n + 1, e, cs =>
    match skipSpace multi cs with
    | '.' :: '.' :: _ => some (e, cs)
    | '.' :: rest => do
      let (step, rest) ← readDotStep? rest
      readSuffixes multi n (.access e step) rest
    | '[' :: rest => do
      let (step, rest) ← readIndex n rest
      readSuffixes multi n (.access e step) rest
    | '?' :: rest => do
      let (yes, rest) ← Expr.read multi n (skipSpace multi rest)
      match skipSpace multi rest with
      | ':' :: rest =>
        let (no, rest) ← Expr.read multi n (skipSpace multi rest)
        return (.conditional e yes no, rest)
      | _ => none
    | rest =>
      match takeOperator? rest with
      | some (op, rest) => do
        let (right, rest) ← Expr.read multi n (skipSpace multi rest)
        return (.binary e op right, rest)
      | none => some (e, cs)

def readIndex : (steps : Nat) → List Char → Option (Access Expr × List Char)
  | 0, _ => none
  | n + 1, cs =>
    match skipSpace true cs with
    | '*' :: rest =>
      match skipSpace true rest with
      | ']' :: rest => some (.fullSplat, rest)
      | _ => none
    | rest => do
      let (e, rest) ← Expr.read true n rest
      match skipSpace true rest with
      | ']' :: rest => return (.index e, rest)
      | _ => none

/-- A term: a literal, a name, a call, a collection, or one of them behind a sign. -/
def readTerm (multi : Bool) : (steps : Nat) → List Char → Option (Expr × List Char)
  | 0, _ => none
  | n + 1, cs =>
    match cs with
    | '"' :: cs => do
      let (pieces, cs) ← readQuoted n [] cs
      match plainText? pieces with
      | some text => return (.text text, cs)
      | none => return (.template pieces, cs)
    | '<' :: '<' :: '-' :: cs => readHeredoc n true cs
    | '<' :: '<' :: cs => readHeredoc n false cs
    | '[' :: cs =>
      match keyword? "for" (skipSpace true cs) with
      | some rest => readForList n rest
      | none => do
        let (items, cs) ← readItems n cs
        return (.array items, cs)
    | '\x7b' :: cs =>
      match keyword? "for" (skipSpace true cs) with
      | some rest => readForObject n rest
      | none => do
        let (entries, cs) ← readEntries n cs
        return (.object entries, cs)
    | '(' :: cs => do
      let (e, cs) ← Expr.read true n (skipSpace true cs)
      match skipSpace true cs with
      | ')' :: cs => return (.parens e, cs)
      | _ => none
    | '-' :: cs =>
      match readNumber? true (skipSpace false cs) with
      | some (x, cs) => some (.number x, cs)
      | none => do
        let (e, cs) ← readTerm multi n (skipSpace multi cs)
        return (.unary '-' e, cs)
    | '!' :: cs => do
      let (e, cs) ← readTerm multi n (skipSpace multi cs)
      return (.unary '!' e, cs)
    | cs =>
      match readNumber? false cs with
      | some (x, cs) => some (.number x, cs)
      | none => do
        let (word, rest) ← takeWord? cs
        let (more, rest) := readNamespaces multi n rest
        match skipSpace multi rest with
        | '(' :: rest =>
          let (arguments, spread, rest) ← readArguments n rest
          return (.call ("::".intercalate (word :: more)) arguments spread, rest)
        | _ =>
          if more ≠ [] then none
          else if word = "null" then return (.null, rest)
          else if word = "true" then return (.bool true, rest)
          else if word = "false" then return (.bool false, rest)
          else return (.name word, rest)

def readItems : (steps : Nat) → List Char → Option (List Expr × List Char)
  | 0, _ => none
  | n + 1, cs =>
    match skipSpace true cs with
    | ']' :: cs => some ([], cs)
    | cs => do
      let (e, cs) ← Expr.read true n cs
      match skipSpace true cs with
      | ']' :: cs => return ([e], cs)
      | ',' :: cs =>
        let (es, cs) ← readItems n cs
        return (e :: es, cs)
      | _ => none

/-- The entries of an object up to its closing brace. A comma or the end of a line stands between
two entries. -/
def readEntries : (steps : Nat) → List Char → Option (List (Key Expr × Expr) × List Char)
  | 0, _ => none
  | n + 1, cs =>
    match skipSpace true cs with
    | '\x7d' :: cs => some ([], cs)
    | cs => do
      let (key, cs) ← Expr.read false n cs
      let key : Key Expr :=
        match key with
        | .name word => .word word
        | key => .expr key
      let cs ←
        match skipSpace false cs with
        | '=' :: cs => some cs
        | ':' :: cs => some cs
        | _ => none
      let (value, cs) ← Expr.read false n (skipSpace false cs)
      match skipSpace false cs with
      | '\x7d' :: cs => return ([(key, value)], cs)
      | ',' :: cs =>
        let (entries, cs) ← readEntries n cs
        return ((key, value) :: entries, cs)
      | cs =>
        if cs = [] then none
        else
          let (entries, cs) ← readEntries n (← lineEnd? cs)
          return ((key, value) :: entries, cs)

def readArguments : (steps : Nat) → List Char → Option (List Expr × Bool × List Char)
  | 0, _ => none
  | n + 1, cs =>
    match skipSpace true cs with
    | ')' :: cs => some ([], false, cs)
    | cs => do
      let (e, cs) ← Expr.read true n cs
      match skipSpace true cs with
      | ')' :: cs => return ([e], false, cs)
      | '.' :: '.' :: '.' :: cs =>
        match skipSpace true cs with
        | ')' :: cs => return ([e], true, cs)
        | _ => none
      | ',' :: cs =>
        let (es, spread, cs) ← readArguments n cs
        return (e :: es, spread, cs)
      | _ => none

def readForIntro : (steps : Nat) → List Char → Option (List String × Expr × List Char)
  | 0, _ => none
  | n + 1, cs => do
    let (first, cs) ← takeWord? (skipSpace true cs)
    let (names, cs) ←
      match skipSpace true cs with
      | ',' :: cs => (takeWord? (skipSpace true cs)).map fun (second, cs) => ([first, second], cs)
      | cs => some ([first], cs)
    let cs ← keyword? "in" (skipSpace true cs)
    let (collection, cs) ← Expr.read true n (skipSpace true cs)
    return (names, collection, cs)

def readCondition : (steps : Nat) → List Char → Option (Option Expr × List Char)
  | 0, _ => none
  | n + 1, cs =>
    match keyword? "if" (skipSpace true cs) with
    | none => some (none, cs)
    | some cs => do
      let (e, cs) ← Expr.read true n (skipSpace true cs)
      return (some e, cs)

def readForList : (steps : Nat) → List Char → Option (Expr × List Char)
  | 0, _ => none
  | n + 1, cs => do
    let (names, collection, cs) ← readForIntro n cs
    match skipSpace true cs with
    | ':' :: cs =>
      let (body, cs) ← Expr.read true n (skipSpace true cs)
      let (condition, cs) ← readCondition n cs
      match skipSpace true cs with
      | ']' :: cs => return (.forList names collection body condition, cs)
      | _ => none
    | _ => none

def readForObject : (steps : Nat) → List Char → Option (Expr × List Char)
  | 0, _ => none
  | n + 1, cs => do
    let (names, collection, cs) ← readForIntro n cs
    match skipSpace true cs with
    | ':' :: cs =>
      let (key, cs) ← Expr.read true n (skipSpace true cs)
      match skipSpace true cs with
      | '=' :: '>' :: cs =>
        let (value, cs) ← Expr.read true n (skipSpace true cs)
        let (grouped, cs) :=
          match skipSpace true cs with
          | '.' :: '.' :: '.' :: rest => (true, rest)
          | _ => (false, cs)
        let (condition, cs) ← readCondition n cs
        match skipSpace true cs with
        | '\x7d' :: cs => return (.forObject names collection key value grouped condition, cs)
        | _ => none
      | _ => none
    | _ => none

def readInterpolation : (steps : Nat) → List Char → Option (List Char)
  | 0, _ => none
  | n + 1, cs => do
    let (_, cs) ← Expr.read true n (skipSpace true (skipStrip cs))
    endMarker? cs

/-- The text behind the directive that `%{` opened, and the directives open then. -/
def readDirective : (steps : Nat) → List OpenDirective → List Char →
    Option (List OpenDirective × List Char)
  | 0, _, _ => none
  | n + 1, openDirectives, cs => do
    let (word, cs) ← takeWord? (skipSpace true (skipStrip cs))
    if word = "if" then
      let (_, cs) ← Expr.read true n (skipSpace true cs)
      return (.ifDirective :: openDirectives, ← endMarker? cs)
    else if word = "for" then
      let (_, _, cs) ← readForIntro n cs
      return (.forDirective :: openDirectives, ← endMarker? cs)
    else
      return (← closeDirective? word openDirectives, ← endMarker? cs)

def readQuoted : (steps : Nat) → List OpenDirective → List Char →
    Option (List Piece × List Char)
  | 0, _, _ => none
  | n + 1, openDirectives, cs =>
    match cs with
    | '"' :: cs => if openDirectives = [] then some ([], cs) else none
    | '$' :: '$' :: '\x7b' :: cs => do
      let (pieces, cs) ← readQuoted n openDirectives cs
      return (pushLiteral ['$', '$', '\x7b'] pieces, cs)
    | '%' :: '%' :: '\x7b' :: cs => do
      let (pieces, cs) ← readQuoted n openDirectives cs
      return (pushLiteral ['%', '%', '\x7b'] pieces, cs)
    | '$' :: '\x7b' :: rest => do
      let rest ← readInterpolation n rest
      let (pieces, end_) ← readQuoted n openDirectives rest
      return (.verbatim (consumed cs rest) :: pieces, end_)
    | '%' :: '\x7b' :: rest => do
      let (openDirectives, rest) ← readDirective n openDirectives rest
      let (pieces, end_) ← readQuoted n openDirectives rest
      return (.verbatim (consumed cs rest) :: pieces, end_)
    | '\\' :: cs => do
      let (c, cs) ← escape? cs
      let (pieces, cs) ← readQuoted n openDirectives cs
      return (pushLiteral [c] pieces, cs)
    | c :: cs => do
      let (pieces, cs) ← readQuoted n openDirectives cs
      return (pushLiteral [c] pieces, cs)
    | [] => none

/-- The pieces of a text over several lines up to its closing line. `fresh` says that a line
begins here. -/
def readLines (delimiter : String) : (steps : Nat) → (fresh : Bool) → List OpenDirective →
    List Char → Option (List Piece × List Char)
  | 0, _, _, _ => none
  | n + 1, fresh, openDirectives, cs =>
    match if fresh then closingLine? delimiter cs else none with
    | some rest => if openDirectives = [] then some ([], rest) else none
    | none =>
      match cs with
      | '$' :: '$' :: '\x7b' :: cs => do
        let (pieces, cs) ← readLines delimiter n false openDirectives cs
        return (pushLiteral ['$', '$', '\x7b'] pieces, cs)
      | '%' :: '%' :: '\x7b' :: cs => do
        let (pieces, cs) ← readLines delimiter n false openDirectives cs
        return (pushLiteral ['%', '%', '\x7b'] pieces, cs)
      | '$' :: '\x7b' :: rest => do
        let rest ← readInterpolation n rest
        let (pieces, end_) ← readLines delimiter n false openDirectives rest
        return (.verbatim (consumed cs rest) :: pieces, end_)
      | '%' :: '\x7b' :: rest => do
        let (openDirectives, rest) ← readDirective n openDirectives rest
        let (pieces, end_) ← readLines delimiter n false openDirectives rest
        return (.verbatim (consumed cs rest) :: pieces, end_)
      | c :: cs => do
        let (pieces, cs) ← readLines delimiter n (c == '\n') openDirectives cs
        return (pushLiteral [c] pieces, cs)
      | [] => none

def readHeredoc : (steps : Nat) → (indented : Bool) → List Char → Option (Expr × List Char)
  | 0, _, _ => none
  | n + 1, indented, cs => do
    let (delimiter, cs) ← takeWord? cs
    let cs ←
      match cs with
      | '\n' :: cs => some cs
      | '\r' :: '\n' :: cs => some cs
      | _ => none
    let (pieces, cs) ← readLines delimiter n true [] cs
    return (.heredoc indented delimiter (piecesText (if indented then dedent pieces else pieces)),
      cs)

end

/-! ## Bodies -/

/-- A label: a name, or a quoted text without interpolations. -/
def readLabel? (steps : Nat) (cs : List Char) : Option (String × List Char) :=
  match cs with
  | '"' :: cs => do
    let (pieces, cs) ← readQuoted steps [] cs
    return (String.ofList (← plainText? pieces), cs)
  | cs => takeWord? cs

def readLabels (bound : Nat) : (steps : Nat) → List Char → Option (List String × List Char)
  | 0, _ => none
  | n + 1, cs =>
    match skipSpace false cs with
    | '\x7b' :: cs => some ([], cs)
    | cs => do
      let (label, cs) ← readLabel? bound cs
      let (labels, cs) ← readLabels bound n cs
      return (label :: labels, cs)

def attributeNames (items : List Item) : List String :=
  items.filterMap fun
    | .attribute name _ => some name
    | .block .. => none

def distinct : List String → Bool
  | [] => true
  | s :: ss => !ss.contains s && distinct ss

def readAttribute? (steps : Nat) (cs : List Char) : Option (Expr × List Char) :=
  match skipSpace false cs with
  | '=' :: cs => Expr.read false steps (skipSpace false cs)
  | _ => none

mutual

def Item.readBody (bound : Nat) : (steps : Nat) → List Char → Option (List Item × List Char)
  | 0, _ => none
  | n + 1, cs => do
    let (items, cs) ← readMore bound n cs
    -- A name may be an attribute only once.
    if distinct (attributeNames items) then some (items, cs) else none

def readMore (bound : Nat) : (steps : Nat) → List Char → Option (List Item × List Char)
  | 0, _ => none
  | n + 1, cs =>
    match takeWord? (skipSpace true cs) with
    | none => some ([], skipSpace true cs)
    | some (name, cs) => do
      let (item, cs) ← readItem bound n name cs
      let cs ← lineEnd? (skipSpace false cs)
      let (items, cs) ← readMore bound n cs
      return (item :: items, cs)

def readItem (bound : Nat) : (steps : Nat) → String → List Char → Option (Item × List Char)
  | 0, _, _ => none
  | n + 1, name, cs =>
    match skipSpace false cs with
    | '=' :: _ => do
      let (e, cs) ← readAttribute? bound cs
      return (.attribute name e, cs)
    | _ => do
      let (labels, cs) ← readLabels bound bound cs
      let (items, cs) ← readBlock bound n cs
      return (.block name labels items, cs)

def readBlock (bound : Nat) : (steps : Nat) → List Char → Option (List Item × List Char)
  | 0, _ => none
  | n + 1, cs =>
    match skipSpace false cs with
    | [] => none
    | '\x7d' :: cs => some ([], cs)
    | cs =>
      -- The items stand on lines of their own, or one attribute on the line of the opening brace.
      match lineEnd? cs with
      | some cs => do
        let (items, cs) ← Item.readBody bound n cs
        match cs with
        | '\x7d' :: cs => return (items, cs)
        | _ => none
      | none => do
        let (name, cs) ← takeWord? cs
        let (e, cs) ← readAttribute? bound cs
        match skipSpace false cs with
        | '\x7d' :: cs => return ([.attribute name e], cs)
        | _ => none

end

def bodyOfText? (text : String) : Option (List Item) := do
  let cs := text.toList
  let bound := 8 * cs.length + 16
  let (items, rest) ← Item.readBody bound bound cs
  if rest = [] then some items else none

end ModuleSurvey.Native
