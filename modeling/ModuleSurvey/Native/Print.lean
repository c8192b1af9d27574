import ModuleSurvey.Json.Print
import ModuleSurvey.Native.Expr

/-! # The canonical text of an expression

An expression that is no plain value is kept by its text in one fixed layout, whatever white
space it was written with.

* `escapedChar`, `quotedPieces` — a character between quotes, and a quoted text.
* `Expr.chars` — the text of an expression: one blank around operators; lists and objects on one
  line inside the arguments of a call, and with an entry on each line elsewhere.
-/

namespace ModuleSurvey.Native

/-! ## Quoted text -/

def escapedChar (c : Char) : List Char :=
  match c with
  | '"' => ['\\', '"']
  | '\\' => ['\\', '\\']
  | '\n' => ['\\', 'n']
  | '\r' => ['\\', 'r']
  | '\t' => ['\\', 't']
  | '\x08' => ['\\', 'b']
  | '\x0c' => ['\\', 'f']
  | c =>
    if c.toNat < 0x20 then
      ['\\', 'u', '0', '0', Json.hexDigit (c.toNat / 16), Json.hexDigit c.toNat]
    else [c]

/-- Characters between quotes, where a marker that would open an interpolation or a directive is
doubled. -/
def escapedPlain : List Char → List Char
  | '$' :: '\x7b' :: cs => '$' :: '$' :: '\x7b' :: escapedPlain cs
  | '%' :: '\x7b' :: cs => '%' :: '%' :: '\x7b' :: escapedPlain cs
  | c :: cs => escapedChar c ++ escapedPlain cs
  | [] => []

def quotedPlain (cs : List Char) : List Char := '"' :: escapedPlain cs ++ ['"']

def quotedPieces (pieces : List Piece) : List Char :=
  '"' :: pieces.flatMap (fun
    | .literal cs => cs.flatMap escapedChar
    | .verbatim cs => cs) ++ ['"']

/-- The value of a text with interpolations: its literal characters and, as they stand, its
interpolations. -/
def piecesText (pieces : List Piece) : List Char :=
  pieces.flatMap fun
    | .literal cs => cs
    | .verbatim cs => cs

/-! ## Expressions -/

def numberChars : Json.Number → List Char
  | .int n => Json.intText n
  -- In scientific notation a positive exponent has no sign.
  | .double d => Json.doubleText d false

def namesChars (names : List String) : List Char := (", ".intercalate names).toList

mutual

/-- The text of an expression. `inline` says that entries share a line, and `level` is the
indentation of the line on which the text begins. -/
def Expr.chars (inline : Bool) (level : Nat) : Expr → List Char
  | .null => "null".toList
  | .bool b => (if b then "true" else "false").toList
  | .number n => numberChars n
  | .text cs => quotedPlain cs
  | .template pieces => quotedPieces pieces
  | .heredoc indented delimiter cs =>
    (if indented then "<<-" else "<<").toList ++ delimiter.toList ++ '\n' :: cs
      ++ (if cs.getLast? = some '\n' then [] else ['\n']) ++ delimiter.toList
  | .name s => s.toList
  | .array [] => ['[', ']']
  | .array (e :: es) =>
    if inline then '[' :: e.chars inline level ++ laterItems inline level es
    else '[' :: Json.Value.newLine (level + 1) ++ e.chars inline (level + 1)
      ++ laterItems inline level es
  | .object [] => ['\x7b', '\x7d']
  | .object (entry :: entries) =>
    if inline then '\x7b' :: ' ' :: entryChars inline level entry
      ++ laterEntries inline level entries
    else '\x7b' :: Json.Value.newLine (level + 1) ++ entryChars inline (level + 1) entry
      ++ laterEntries inline level entries
  | .parens e => '(' :: e.chars inline level ++ [')']
  | .unary op e => op :: e.chars inline level
  | .binary left op right =>
    left.chars inline level ++ ' ' :: op.toList ++ ' ' :: right.chars inline level
  | .conditional condition yes no =>
    condition.chars inline level ++ " ? ".toList ++ yes.chars inline level ++ " : ".toList
      ++ no.chars inline level
  | .access e step => e.chars inline level ++ stepChars inline level step
  | .call function arguments spread =>
    function.toList ++ '(' :: argumentsChars level arguments
      ++ (if spread then "...".toList else []) ++ [')']
  | .forList names collection body condition =>
    "[for ".toList ++ namesChars names ++ " in ".toList ++ collection.chars inline level
      ++ " : ".toList ++ body.chars inline level ++ conditionChars inline level condition ++ [']']
  | .forObject names collection key value grouped condition =>
    "\x7bfor ".toList ++ namesChars names ++ " in ".toList ++ collection.chars inline level
      ++ " : ".toList ++ key.chars inline level ++ " => ".toList ++ value.chars inline level
      ++ (if grouped then "...".toList else []) ++ conditionChars inline level condition
      ++ ['\x7d']

def laterItems (inline : Bool) (level : Nat) : List Expr → List Char
  | [] => if inline then [']'] else Json.Value.newLine level ++ [']']
  | e :: es =>
    (if inline then ", ".toList else ',' :: Json.Value.newLine (level + 1))
      ++ e.chars inline (if inline then level else level + 1) ++ laterItems inline level es

def laterEntries (inline : Bool) (level : Nat) : List (Key Expr × Expr) → List Char
  | [] => if inline then [' ', '\x7d'] else Json.Value.newLine level ++ ['\x7d']
  | entry :: entries =>
    (if inline then ", ".toList else Json.Value.newLine (level + 1))
      ++ entryChars inline (if inline then level else level + 1) entry
      ++ laterEntries inline level entries

def entryChars (inline : Bool) (level : Nat) : Key Expr × Expr → List Char
  | (.word name, value) => name.toList ++ " = ".toList ++ value.chars inline level
  | (.expr key, value) =>
    key.chars inline level ++ " = ".toList ++ value.chars inline level

def stepChars (inline : Bool) (level : Nat) : Access Expr → List Char
  | .attribute name => '.' :: name.toList
  | .position n => '.' :: Nat.toDigits 10 n
  | .index e => '[' :: e.chars inline level ++ [']']
  | .attributeSplat => ['.', '*']
  | .fullSplat => ['[', '*', ']']

def argumentsChars (level : Nat) : List Expr → List Char
  | [] => []
  | [e] => e.chars true level
  | e :: es => e.chars true level ++ ", ".toList ++ argumentsChars level es

def conditionChars (inline : Bool) (level : Nat) : Option Expr → List Char
  | none => []
  | some e => " if ".toList ++ e.chars inline level

end

end ModuleSurvey.Native
