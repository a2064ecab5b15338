import HookPlan.Unicode.Space

/-!
# Output formats

* `Plan.Format.parse`: the format that a text names, in any case and with spaces around it.
-/

namespace HookPlan.Plan

/-- How a plan is printed. -/
inductive Format where
  | text
  | json
  deriving Repr, DecidableEq, Inhabited

namespace Format

/-- A text that names no format, in lower case and without spaces around it. -/
structure Unknown where
  name : String
  deriving Repr, DecidableEq

def Unknown.text (u : Unknown) : String :=
  s!"unknown output format '{u.name}' (expected text or json)"

/-- The letters of the English alphabet in lower case, without spaces around them. -/
def normalize (s : String) : String := String.ofList ((Unicode.trim s).toList.map Char.toLower)

def parse (s : String) : Except Unknown Format :=
  let name := normalize s
  if name == "text" then .ok .text
  else if name == "json" then .ok .json
  else .error ⟨name⟩

end Format

end HookPlan.Plan
