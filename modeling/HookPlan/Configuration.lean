import HookPlan.EntryRef
import HookPlan.Unicode.Space

/-!
# Hook configurations

A configuration lists sources of hooks, each pinned to a revision, and the hooks of each
that are to be invoked. What an invocation leaves undeclared is `none`; an empty list or an
empty text is declared.

* `Configuration.violation`: the first place where a reference is blank or a list of hooks
  is empty.
-/

namespace HookPlan

/-- One use of a hook. -/
structure Invocation where
  id : String
  name : Option String := none
  /-- Replaces the hook's own arguments outright. -/
  args : Option (List String) := none
  files : Option String := none
  exclude : Option String := none
  deriving Repr, DecidableEq, Inhabited

/-- A provider of hooks, pinned to a revision. -/
structure Source where
  location : String
  revision : String
  hooks : List Invocation
  deriving Repr, DecidableEq, Inhabited

structure Configuration where
  /-- Paths that match never trigger any hook. -/
  exclude : Option String := none
  /-- Asks the runner to stop after the first hook that fails. -/
  failFast : Bool := false
  sources : List Source
  deriving Repr, DecidableEq, Inhabited

/-- The rules for content that the shape of a configuration cannot express. -/
inductive Violation where
  | blankLocation
  | blankRevision
  | noHooks
  | blankId
  deriving Repr, DecidableEq

def Violation.text : Violation → String
  | blankLocation => "`repo` must not be empty"
  | blankRevision => "`rev` must not be empty"
  | noHooks => "`hooks` must list at least one hook"
  | blankId => "hook `id` must not be empty"

namespace Source

/-- The first hook with a blank id, from index `j` on. -/
def firstBlankId (entry : EntryRef) : Nat → List Invocation → Option (EntryRef × Violation)
  | _, [] => none
  | j, h :: hs =>
    if Unicode.isBlankText h.id then some (entry.hook j h.id, .blankId)
    else firstBlankId entry (j + 1) hs

/-- The first rule that the source with index `i` breaks, and where. -/
def violation (s : Source) (i : Nat) : Option (EntryRef × Violation) :=
  let entry := EntryRef.source i s.location s.revision
  if Unicode.isBlankText s.location then some (entry, .blankLocation)
  else if Unicode.isBlankText s.revision then some (entry, .blankRevision)
  else if s.hooks.isEmpty then some (entry, .noHooks)
  else firstBlankId entry 0 s.hooks

end Source

namespace Configuration

/-- How many hooks are invoked in all. -/
def invocationCount (c : Configuration) : Nat := (c.sources.flatMap Source.hooks).length

/-- The first rule that a list of sources breaks, where the first has index `i`. -/
def violationFrom : Nat → List Source → Option (EntryRef × Violation)
  | _, [] => none
  | i, s :: ss =>
    match s.violation i with
    | some v => some v
    | none => violationFrom (i + 1) ss

/-- The first rule that a configuration breaks, and where. -/
def violation (c : Configuration) : Option (EntryRef × Violation) := violationFrom 0 c.sources

end Configuration

end HookPlan
