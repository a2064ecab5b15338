import HookPlan.Configuration
import HookPlan.Files.Fault
import HookPlan.Git.Fault
import HookPlan.Pattern.Fault
import HookPlan.Yaml.Read

/-!
# Errors

Everything that can go wrong between a configuration file and a selection of hooks. An
`Error` is a cause with its place; `Error.text` is its wording and `Error.report` adds the
wording of the cause underneath, if there is one.
-/

namespace HookPlan

/-- Why a text is no valid configuration. -/
inductive Malformation where
  | unreadable (e : Yaml.ReadError)
  | broken (v : Violation)
  deriving Repr, DecidableEq

def Malformation.text : Malformation → String
  | unreadable e => e.text
  | broken v => v.text

inductive Error where
  | malformed (entry : EntryRef) (reason : Malformation)
  /-- The catalog knows nothing of a source or of its hook, for the reason it gives. -/
  | unresolvable (entry : EntryRef) (reason : String)
  | documentRead (path : String) (cause : Files.Fault)
  | documentNotFound (path : String)
  | repositoryRoot (cause : Git.Fault)
  | noMatchingHook (id : String)
  | invalidPattern (entry : EntryRef) (pattern : String) (cause : Pattern.Fault)
  deriving Repr, DecidableEq

/-- The name of a configuration at the root of a working tree. -/
def configurationName : String := ".pre-commit-config.yaml"

namespace Error

def text : Error → String
  | malformed entry reason => s!"malformed hook configuration{entry.text}: {reason.text}"
  | unresolvable entry reason => s!"unresolvable hook source{entry.text}: {reason}"
  | documentRead path _ => s!"could not read {path}"
  | documentNotFound path => s!"there is no {configurationName} at {path}"
  | repositoryRoot _ => "not inside a git working tree"
  | noMatchingHook id => s!"no hook with id '{id}' in the execution plan"
  | invalidPattern entry pattern _ => s!"invalid file pattern{entry.text}: '{pattern}'"

/-- The wording of the cause underneath an error. -/
def cause? : Error → Option String
  | documentRead _ cause => some cause.text
  | repositoryRoot cause => some cause.report
  | invalidPattern _ pattern cause => some (cause.text pattern)
  | malformed .. | unresolvable .. | documentNotFound _ | noMatchingHook _ => none

/-- An error with the cause underneath. -/
def report (e : Error) : String :=
  match e.cause? with
  | some cause => e.text ++ ": " ++ cause
  | none => e.text

/-- The entry that an error points at, if it points at one. -/
def entry? : Error → Option EntryRef
  | malformed entry _ | unresolvable entry _ | invalidPattern entry _ _ => some entry
  | documentRead .. | documentNotFound _ | repositoryRoot _ | noMatchingHook _ => none

end Error

/-- Checks the rules for the content of a configuration. -/
def Configuration.validate (c : Configuration) : Except Error Unit :=
  match c.violation with
  | none => .ok ()
  | some (entry, v) => .error (.malformed entry (.broken v))

end HookPlan
