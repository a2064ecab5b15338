import HookPlan.Mismatch

/-!
# Faults of JSON texts

A fault is a cause and the place where reading stopped. Places count bytes.

* `Fault.text`: a fault with its line and column in the whole text.
-/

namespace HookPlan.Json

inductive Cause where
  | valueEnds
  | listEnds
  | objectEnds
  | stringEnds
  | value
  | word
  | colon
  | listCommaOrEnd
  | objectCommaOrEnd
  | escape
  | number
  | numberRange
  | control
  | keyType
  | loneSurrogate
  | surrogateEnds
  | trailingComma
  | trailingCharacters
  | tooDeep
  | mismatch (m : Mismatch)
  deriving Repr, DecidableEq

def Cause.text : Cause → String
  | valueEnds => "EOF while parsing a value"
  | listEnds => "EOF while parsing a list"
  | objectEnds => "EOF while parsing an object"
  | stringEnds => "EOF while parsing a string"
  | value => "expected value"
  | word => "expected ident"
  | colon => "expected `:`"
  | listCommaOrEnd => "expected `,` or `]`"
  | objectCommaOrEnd => "expected `,` or `\x7d`"
  | escape => "invalid escape"
  | number => "invalid number"
  | numberRange => "number out of range"
  | control => "control character (\\u0000-\\u001F) found while parsing a string"
  | keyType => "key must be a string"
  | loneSurrogate => "lone leading surrogate in hex escape"
  | surrogateEnds => "unexpected end of hex escape"
  | trailingComma => "trailing comma"
  | trailingCharacters => "trailing characters"
  | tooDeep => "recursion limit exceeded"
  | mismatch m => m.text

structure Fault where
  cause : Cause
  /-- What was still to be read. -/
  rest : List Char
  /-- How many bytes of that belong to the fault. -/
  ahead : Nat := 0
  /-- A fault of a whole value is placed at the end of that value, which is yet to be found. -/
  loose : Bool := false
  deriving Repr, DecidableEq

/-- How many bytes some characters take. -/
def bytes (cs : List Char) : Nat := cs.foldl (fun n c => n + c.utf8Size) 0

/-- The line and the column after `n` more bytes, from a place on. -/
def advance (line column : Nat) : Nat → List Char → Nat × Nat
  | _, [] => (line, column)
  | n, c :: cs =>
    if n == 0 then (line, column)
    else if c == '\n' then advance (line + 1) 0 (n - 1) cs
    else advance line (column + min n c.utf8Size) (n - c.utf8Size) cs

/-- The line and the column of a fault in a text. Lines count from one, and the first byte of a
line has column one. -/
def Fault.place (f : Fault) (text : List Char) : Nat × Nat :=
  advance 1 0 (bytes text - bytes f.rest + f.ahead) text

def Fault.text (f : Fault) (text : List Char) : String :=
  let (line, column) := f.place text
  s!"{f.cause.text} at line {line} column {column}"

end HookPlan.Json
