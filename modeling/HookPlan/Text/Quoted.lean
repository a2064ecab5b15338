import HookPlan.Unicode.Shown

/-!
# Quoted text in messages

A message that quotes a text puts it between double quotes. Characters that would be
misread or cannot be seen are written as escapes.

* `quoted`: a text with its quotes.
-/

namespace HookPlan.Text

def lowerHexDigit (n : Nat) : Char :=
  if n < 10 then Char.ofNat ('0'.toNat + n) else Char.ofNat ('a'.toNat + n - 10)

/-- A number in base sixteen, without leading zeros. -/
def lowerHex (n : Nat) : List Char :=
  let rec digits : Nat → Nat → List Char → List Char
    | 0, _, acc => acc
    | fuel + 1, n, acc =>
      let acc := lowerHexDigit (n % 16) :: acc
      if n < 16 then acc else digits fuel (n / 16) acc
  digits 8 n []

/-- One character of a quoted text. -/
def quotedChar (c : Char) : List Char :=
  match c with
  | '\x00' => ['\\', '0']
  | '\t' => ['\\', 't']
  | '\n' => ['\\', 'n']
  | '\r' => ['\\', 'r']
  | '"' => ['\\', '"']
  | '\\' => ['\\', '\\']
  | c =>
    if Unicode.isShown c then [c]
    else ['\\', 'u', '\x7b'] ++ lowerHex c.toNat ++ ['\x7d']

def quoted (s : String) : String :=
  String.ofList ('"' :: s.toList.flatMap quotedChar ++ ['"'])

end HookPlan.Text
