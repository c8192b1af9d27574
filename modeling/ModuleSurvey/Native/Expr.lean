import ModuleSurvey.Json.Value

/-! # Expressions of native files

* `Expr` — an expression as it is written, with its parentheses.
* `Piece` — a part of a quoted or multi-line text: literal characters, or an interpolation or a
  directive exactly as it stands in the file.
* `Item` — an attribute or a block of a body.
-/

namespace ModuleSurvey.Native

inductive Piece where
  /-- Characters, with escapes resolved. A doubled marker such as `$${` stands as it is. -/
  | literal (cs : List Char)
  /-- An interpolation or directive with its braces. -/
  | verbatim (cs : List Char)
  deriving DecidableEq, Repr

inductive Access (ε : Type) where
  | attribute (name : String)
  | position (n : Nat)
  | index (e : ε)
  | attributeSplat
  | fullSplat

/-- The name of an entry of an object: a bare word, or an expression. -/
inductive Key (ε : Type) where
  | word (name : String)
  | expr (e : ε)

inductive Expr where
  | null
  | bool (b : Bool)
  | number (n : Json.Number)
  | text (cs : List Char)
  | template (pieces : List Piece)
  /-- A text between two lines with the same word; `indented` when its common indentation does
  not count. -/
  | heredoc (indented : Bool) (delimiter : String) (cs : List Char)
  | name (s : String)
  | array (items : List Expr)
  | object (entries : List (Key Expr × Expr))
  | parens (e : Expr)
  | unary (op : Char) (e : Expr)
  | binary (left : Expr) (op : String) (right : Expr)
  | conditional (condition yes no : Expr)
  | access (e : Expr) (step : Access Expr)
  /-- A call; `spread` when the last argument is followed by `...`. -/
  | call (function : String) (arguments : List Expr) (spread : Bool)
  | forList (names : List String) (collection body : Expr) (condition : Option Expr)
  /-- An object made from another collection; `grouped` when the value is followed by `...`. -/
  | forObject (names : List String) (collection key value : Expr) (grouped : Bool)
    (condition : Option Expr)
  deriving Inhabited

inductive Item where
  | attribute (name : String) (value : Expr)
  | block (type : String) (labels : List String) (body : List Item)

end ModuleSurvey.Native
