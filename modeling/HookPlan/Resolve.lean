import HookPlan.Catalog
import HookPlan.Plan

/-!
# From configurations to plans

Each invocation becomes one step, in the order of the configuration. What it declares is
taken as it is; what it leaves open comes from the catalog, and what the catalog leaves
open too has a fixed meaning. Arguments are never merged. Either every invocation becomes
a step or there is no plan.

* `Invocation.step`: one invocation and its defaults.
* `Configuration.resolve`: the plan of a configuration.
-/

namespace HookPlan

/-- The step of the invocation with index `j` in the source with index `i`. -/
def Invocation.step (h : Invocation) (s : Source) (i j : Nat) (d : Option Definition) : Step where
  location := s.location
  revision := s.revision
  hookId := h.id
  name := (h.name <|> d.bind (·.name)).getD h.id
  args := (h.args <|> d.map (·.args)).getD []
  files := .ofDeclared (h.files <|> d.bind (·.files))
  exclude := h.exclude <|> d.bind (·.exclude)
  repoIndex := i
  hookIndex := j

namespace Source

/-- The step of one invocation, if the catalog knows of its hook. -/
def resolveHook (c : Catalog) (s : Source) (i j : Nat) (h : Invocation) : Except Error Step :=
  match c s.location s.revision h.id with
  | .ok d => .ok (h.step s i j d)
  | .error reason =>
    .error (.unresolvable ((EntryRef.source i s.location s.revision).hook j h.id) reason)

/-- The steps of the invocations of a source, where the first has index `j`. -/
def resolveFrom (c : Catalog) (s : Source) (i : Nat) : Nat → List Invocation → Except Error (List Step)
  | _, [] => .ok []
  | j, h :: hs => do
    let step ← s.resolveHook c i j h
    let steps ← s.resolveFrom c i (j + 1) hs
    return step :: steps

/-- The steps of the source with index `i`. -/
def resolve (c : Catalog) (s : Source) (i : Nat) : Except Error (List Step) :=
  s.resolveFrom c i 0 s.hooks

end Source

namespace Configuration

/-- The steps of a list of sources, where the first has index `i`. -/
def stepsFrom (cat : Catalog) : Nat → List Source → Except Error (List Step)
  | _, [] => .ok []
  | i, s :: ss => do
    let steps ← s.resolve cat i
    let more ← stepsFrom cat (i + 1) ss
    return steps ++ more

/-- The plan of a configuration, which is checked first. -/
def resolve (cat : Catalog) (c : Configuration) : Except Error Plan := do
  c.validate
  let steps ← stepsFrom cat 0 c.sources
  return ⟨steps, c.exclude, c.failFast⟩

end Configuration

end HookPlan
