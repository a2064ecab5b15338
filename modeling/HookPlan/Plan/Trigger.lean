import HookPlan.Plan.Slot

/-!
# Which paths trigger which steps

A path triggers a step unless the plan excludes it, the step is for other paths, or the step
excludes it. These are asked in this order, and the first answer that settles the matter is
taken; a pattern that cannot be compiled is an error as soon as it is asked.

How the patterns are obtained is left open, as `Patterns m`: they may be compiled each time, or
kept once they are compiled.

* `normalizePath`: the form of a path that patterns are matched with.
* `Patterns.triggers`, `Patterns.select`, `Patterns.problems`: questions about a plan.
* `Plan.triggers`, `Plan.select`, `Plan.problems`: the same, compiling each time.
-/

namespace HookPlan

/-- The characters of a path without a leading `./`. -/
def dropHere : List Char → List Char
  | '.' :: '/' :: cs => cs
  | cs => cs

/-- A path as patterns see it: without a leading `./`, then with slashes for backslashes. -/
def normalizePath (path : String) : String :=
  String.ofList ((dropHere path.toList).map fun c => if c == '\\' then '/' else c)

/-- A step with the paths that trigger it. -/
structure Selection where
  step : Step
  paths : List String
  deriving Repr, DecidableEq

/-- A way to get the pattern in a slot. -/
abbrev Patterns (m : Type → Type) := Slot → m (Except Error (Option Pattern))

namespace Patterns

variable {m : Type → Type} [Monad m]

/-- Whether the pattern in a slot occurs in a path. An empty slot says nothing. -/
def occursIn (patterns : Patterns m) (path : String) (slot : Slot) :
    ExceptT Error m (Option Bool) := do
  let p ← ExceptT.mk (patterns slot)
  return p.map (·.occursIn path)

/-- Whether a path triggers the step with an index among `size` steps. -/
def triggers (patterns : Patterns m) (size index : Nat) (path : String) : ExceptT Error m Bool := do
  if size ≤ index then return false
  let path := normalizePath path
  if (← patterns.occursIn path .excluded) == some true then return false
  if (← patterns.occursIn path (.stepFiles index)) == some false then return false
  if (← patterns.occursIn path (.stepExcluded index)) == some true then return false
  return true

/-- The paths that trigger a step, in the form in which they were matched. -/
def triggering (patterns : Patterns m) (size index : Nat) : List String → ExceptT Error m (List String)
  | [] => return []
  | path :: paths => do
    let isTriggered ← patterns.triggers size index path
    let more ← patterns.triggering size index paths
    return if isTriggered then normalizePath path :: more else more

/-- The steps that some path triggers, where the first has an index. -/
def selectFrom (patterns : Patterns m) (size : Nat) (paths : List String) :
    Nat → List Step → ExceptT Error m (List Selection)
  | _, [] => return []
  | index, step :: steps => do
    let found ← patterns.triggering size index paths
    let more ← patterns.selectFrom size paths (index + 1) steps
    return if found.isEmpty then more else ⟨step, found⟩ :: more

/-- The steps of a plan that some path triggers. -/
def select (patterns : Patterns m) (p : Plan) (paths : List String) :
    ExceptT Error m (List Selection) :=
  patterns.selectFrom p.size paths 0 p.steps

/-- What is wrong with the patterns in some slots. -/
def problems (patterns : Patterns m) : List Slot → m (List Error)
  | [] => return []
  | slot :: slots => do
    let p ← patterns slot
    let more ← patterns.problems slots
    return match p with
      | .ok _ => more
      | .error e => e :: more

end Patterns

namespace Plan

/-- The patterns of a plan, compiled each time. -/
def patterns (p : Plan) : Patterns Id := fun slot => p.pattern? slot

/-- Whether a path triggers the step with an index. There is no step past the last one. -/
def triggers (p : Plan) (index : Nat) (path : String) : Except Error Bool :=
  p.patterns.triggers p.size index path

/-- The steps that some path triggers. -/
def select (p : Plan) (paths : List String) : Except Error (List Selection) :=
  p.patterns.select p paths

/-- What is wrong with the patterns of a plan, in the order of its slots. -/
def problems (p : Plan) : List Error := p.patterns.problems p.slots

end Plan

end HookPlan
