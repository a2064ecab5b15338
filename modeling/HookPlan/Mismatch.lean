/-!
# Values that do not fit

What is wrong with a written value where a value of a known type is wanted, whatever the
notation it is written in.

* `Mismatch.text`: the wording of each case.
-/

namespace HookPlan

inductive Mismatch where
  | wrongType (found expected : String)
  | wrongValue (found expected : String)
  /-- A list of the wrong length in place of a record. -/
  | wrongLength (length : Nat) (expected : String)
  | unknownField (name : String) (known : List String)
  | unknownVariant (name : String) (known : List String)
  | duplicateField (name : String)
  | missingField (name : String)
  deriving Repr, DecidableEq

namespace Mismatch

def tick (name : String) : String := s!"`{name}`"

/-- The names to choose from. -/
def choices : List String → String
  | [a] => tick a
  | [a, b] => s!"{tick a} or {tick b}"
  | names => "one of " ++ ", ".intercalate (names.map tick)

def text : Mismatch → String
  | wrongType found expected => s!"invalid type: {found}, expected {expected}"
  | wrongValue found expected => s!"invalid value: {found}, expected {expected}"
  | wrongLength length expected => s!"invalid length {length}, expected {expected}"
  | unknownField name known => s!"unknown field {tick name}, expected {choices known}"
  | unknownVariant name known => s!"unknown variant {tick name}, expected {choices known}"
  | duplicateField name => s!"duplicate field {tick name}"
  | missingField name => s!"missing field {tick name}"

end Mismatch

end HookPlan
