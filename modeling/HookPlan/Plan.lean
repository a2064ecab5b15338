import HookPlan.Error

/-!
# Execution plans

A plan lists the steps that a runner goes through. A step is an invocation with nothing
left open: its name, its arguments and the paths it is for are all settled. Patterns stay
uncompiled until a path is matched.

* `Plan.retain`: the steps that invoke one hook.
-/

namespace HookPlan

/-- Which changed paths a step is for. -/
inductive FileFilter where
  | all
  | pattern (source : String)
  deriving Repr, DecidableEq, Inhabited

namespace FileFilter

/-- Without a declared pattern a step is for all paths. -/
def ofDeclared : Option String → FileFilter
  | none => all
  | some p => pattern p

def pattern? : FileFilter → Option String
  | all => none
  | pattern p => some p

end FileFilter

structure Step where
  location : String
  revision : String
  hookId : String
  name : String
  args : List String
  files : FileFilter
  exclude : Option String := none
  /-- The index of the source in the configuration. -/
  repoIndex : Nat
  /-- The index of the invocation in its source. -/
  hookIndex : Nat
  deriving Repr, DecidableEq, Inhabited

/-- The place in the configuration that a step comes from. -/
def Step.entry (s : Step) : EntryRef :=
  (EntryRef.source s.repoIndex s.location s.revision).hook s.hookIndex s.hookId

structure Plan where
  steps : List Step
  /-- Paths that match never trigger any step. -/
  exclude : Option String := none
  failFast : Bool := false
  deriving Repr, DecidableEq, Inhabited

namespace Plan

def size (p : Plan) : Nat := p.steps.length

def isEmpty (p : Plan) : Bool := p.steps.isEmpty

/-- Keeps only the steps that invoke a hook, in their order; there must be one. -/
def retain (p : Plan) (hookId : String) : Except Error Plan :=
  let steps := p.steps.filter (·.hookId == hookId)
  if steps.isEmpty then .error (.noMatchingHook hookId) else .ok { p with steps }

end Plan

end HookPlan
