import HookPlan.Files.Fault
import HookPlan.Git.Config

/-!
# Why there is no repository

* `Fault.text`: the wording of each cause.
* `Fault.report`: the same with the kind of the cause.
-/

namespace HookPlan.Git

inductive Fault where
  /-- A path leads nowhere. -/
  | unresolved (path : String) (cause : Files.Fault)
  | unreadable (path : String) (cause : Files.Fault)
  | noRepository (start : String)
  /-- A `.git` file that does not name a directory. -/
  | malformedLink (path : String)
  | config (path : String) (cause : Config.Fault)
  | includedTooDeep
  | badSwitch (value : List Char)
  /-- A repository without files of its own. -/
  | bare
  deriving Repr, DecidableEq

def Fault.text : Fault → String
  | unresolved path cause => s!"failed to resolve path '{path}': {cause.reason}"
  | unreadable path cause => s!"failed to open '{path}': {cause.reason}"
  | noRepository start => s!"could not find repository at '{start}'"
  | malformedLink path => s!"the `.git` file at '{path}' is malformed"
  | config path cause => cause.text path
  | includedTooDeep => "maximum config include depth reached"
  | badSwitch value => s!"failed to parse '{String.ofList value}' as a boolean value"
  | bare => "repository has no working directory"

/-- What was at fault, with its number, and whether it was that something is not there. -/
def Fault.kind : Fault → Option (String × Nat) × Bool
  | unresolved _ cause => (some ("Os", 2), cause == .missing || cause == .notDirectory)
  | unreadable _ cause => (some ("Os", 2), cause == .missing || cause == .notDirectory)
  | noRepository _ => (some ("Repository", 6), true)
  | malformedLink _ => (some ("Repository", 6), false)
  | config _ _ | includedTooDeep | badSwitch _ => (some ("Config", 7), false)
  | bare => (none, false)

/-- The wording of a cause and its kind. -/
def Fault.report (f : Fault) : String :=
  let (part, isMissing) := f.kind
  let partText := match part with
    | some (name, number) => s!"; class={name} ({number})"
    | none => ""
  f.text ++ partText ++ (if isMissing then "; code=NotFound (-3)" else "")

end HookPlan.Git
