import ModuleSurvey.Mismatch

/-! # Faults of a JSON text

* `Cause` — why a text is refused, and `Cause.message`.
* `Fault` — a cause and the place where it was noticed, given by what was still unread there.
* `Fault.place` — line and column of the place; `Fault.message` — the cause with its place.
-/

namespace ModuleSurvey.Json

inductive Cause where
  | endInValue
  | endInList
  | endInObject
  | endInString
  | expectedValue
  | expectedWord
  | expectedColon
  | expectedListEnd
  | expectedObjectEnd
  | keyNotString
  | trailingComma
  | trailingCharacters
  | invalidNumber
  | numberOutOfRange
  | invalidEscape
  | hexEscapeEnds
  | loneSurrogate
  | controlCharacter
  | tooDeep
  /-- The text is well formed up to here, but its value is not the wanted one. -/
  | mismatch (m : Mismatch)
  deriving DecidableEq, Repr

def Cause.message : Cause → String
  | endInValue => "EOF while parsing a value"
  | endInList => "EOF while parsing a list"
  | endInObject => "EOF while parsing an object"
  | endInString => "EOF while parsing a string"
  | expectedValue => "expected value"
  | expectedWord => "expected ident"
  | expectedColon => "expected \x60:\x60"
  | expectedListEnd => "expected \x60,\x60 or \x60]\x60"
  | expectedObjectEnd => "expected \x60,\x60 or \x60\x7d\x60"
  | keyNotString => "key must be a string"
  | trailingComma => "trailing comma"
  | trailingCharacters => "trailing characters"
  | invalidNumber => "invalid number"
  | numberOutOfRange => "number out of range"
  | invalidEscape => "invalid escape"
  | hexEscapeEnds => "unexpected end of hex escape"
  | loneSurrogate => "lone leading surrogate in hex escape"
  | controlCharacter =>
    "control character (\\u0000-\\u001F) found while parsing a string"
  | tooDeep => "recursion limit exceeded"
  | mismatch m => m.message

/-- A cause and its place: what was unread when it was noticed, and how many of the unread bytes
belong to the place. -/
structure Fault where
  cause : Cause
  rest : List Char
  skip : Nat
  deriving DecidableEq, Repr

namespace Fault

/-- A fault noticed behind what was read. -/
def behind (cause : Cause) (rest : List Char) : Fault := ⟨cause, rest, 0⟩

/-- A fault noticed at the first unread byte. -/
def upon (cause : Cause) (rest : List Char) : Fault := ⟨cause, rest, 1⟩

def bytes (cs : List Char) : List UInt8 := cs.flatMap String.utf8EncodeChar

def place (f : Fault) (text : List Char) : Nat × Nat :=
  let before := bytes (text.take (text.length - f.rest.length)) ++ (bytes f.rest).take f.skip
  -- Lines count from one, and the column is the number of bytes of the line up to the place.
  (1 + before.count 10, (before.reverse.takeWhile (· != 10)).length)

def line (f : Fault) (text : List Char) : Nat := (f.place text).1

def message (f : Fault) (text : List Char) : String :=
  let (line, column) := f.place text
  f.cause.message ++ " at line " ++ toString line ++ " column " ++ toString column

end Fault

end ModuleSurvey.Json
