import HookPlan.Text.Quoted

/-!
# Writing JSON

Elements and members stand on lines of their own, two spaces further in than their brackets.

* `Value.render`: the text of a value.
-/

namespace HookPlan.Json

/-- The values that are written. -/
inductive Value where
  | natural (n : Nat)
  | boolean (b : Bool)
  | string (s : String)
  | list (items : List Value)
  /-- Members keep their order. -/
  | object (members : List (String × Value))

/-- One character of a string. Only what must be escaped is escaped. -/
def escapedChar (c : Char) : List Char :=
  match c with
  | '"' => ['\\', '"']
  | '\\' => ['\\', '\\']
  | '\x08' => ['\\', 'b']
  | '\x0c' => ['\\', 'f']
  | '\n' => ['\\', 'n']
  | '\r' => ['\\', 'r']
  | '\t' => ['\\', 't']
  | c =>
    if c.toNat < 0x20 then
      ['\\', 'u', '0', '0', Text.lowerHexDigit (c.toNat / 16), Text.lowerHexDigit (c.toNat % 16)]
    else [c]

/-- A string with its quotes. -/
def renderString (s : String) : List Char := '"' :: s.toList.flatMap escapedChar ++ ['"']

/-- A new line, `depth` steps in. -/
def newLine (depth : Nat) : List Char := '\n' :: List.replicate (2 * depth) ' '

namespace Value

/-- What comes before an element or a member: a comma, unless it is the first, and a new line. -/
def separator (depth : Nat) (first : Bool) : List Char :=
  if first then newLine depth else ',' :: newLine depth

mutual

/-- The text of a value whose brackets stand `depth` steps in. -/
def render (depth : Nat) : Value → List Char
  | natural n => Nat.toDigits 10 n
  | boolean b => (if b then "true" else "false").toList
  | string s => renderString s
  | list vs =>
    if vs.isEmpty then ['[', ']']
    else '[' :: renderItems (depth + 1) true vs ++ newLine depth ++ [']']
  | object ms =>
    if ms.isEmpty then ['\x7b', '\x7d']
    else '\x7b' :: renderMembers (depth + 1) true ms ++ newLine depth ++ ['\x7d']

def renderItems (depth : Nat) (first : Bool) : List Value → List Char
  | [] => []
  | v :: vs => separator depth first ++ v.render depth ++ renderItems depth false vs

def renderMembers (depth : Nat) (first : Bool) : List (String × Value) → List Char
  | [] => []
  | (name, v) :: ms =>
    separator depth first ++ renderString name ++ ':' :: ' ' :: v.render depth
      ++ renderMembers depth false ms

end

/-- The text of a value that stands alone. -/
def text (v : Value) : String := String.ofList (v.render 0)

end Value

end HookPlan.Json
