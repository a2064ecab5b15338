import HookPlan.Plan.Trigger

/-!
# Patterns that are kept

A `Matcher` answers questions about one plan and keeps every pattern that it has compiled. A
pattern that cannot be compiled is not kept; it is tried again when it is asked for again.

* `Matcher.fetch`: the pattern in a slot, kept or compiled.
* `Matcher.triggers`, `Matcher.select`, `Matcher.problems`: the questions.
-/

namespace HookPlan

/-- The patterns that have been compiled, each with its slot, the last one first. -/
abbrev Compiled := List (Slot × Pattern)

structure Matcher where
  plan : Plan
  compiled : Compiled := []

namespace Matcher

/-- The pattern in a slot. If it is not among the compiled ones it is compiled and kept. -/
def fetch (p : Plan) : Patterns (StateM Compiled) := fun slot => do
  match (← get).lookup slot with
  | some pattern => return .ok (some pattern)
  | none =>
    match p.pattern? slot with
    | .ok (some pattern) =>
      modify fun compiled => (slot, pattern) :: compiled
      return .ok (some pattern)
    | r => return r

/-- Puts a question and keeps the patterns that were compiled for it. -/
def run {α : Type} (m : Matcher) (question : Patterns (StateM Compiled) → StateM Compiled α) :
    α × Matcher :=
  let (answer, compiled) := (question (fetch m.plan)).run m.compiled
  (answer, { m with compiled })

/-- Whether a path triggers the step with an index. -/
def triggers (m : Matcher) (index : Nat) (path : String) : Except Error Bool × Matcher :=
  m.run fun patterns => (patterns.triggers m.plan.size index path).run

/-- The steps that some path triggers. -/
def select (m : Matcher) (paths : List String) : Except Error (List Selection) × Matcher :=
  m.run fun patterns => (patterns.select m.plan paths).run

/-- What is wrong with the patterns of the plan. -/
def problems (m : Matcher) : List Error × Matcher :=
  m.run fun patterns => patterns.problems m.plan.slots

end Matcher

/-- The outcome of compiling all patterns of a plan. -/
structure CheckReport where
  steps : Nat
  problems : List Error
  deriving Repr, DecidableEq

def CheckReport.isOk (r : CheckReport) : Bool := r.problems.isEmpty

/-- Compiles every pattern of a plan, so that mistakes show before any path is matched. -/
def Plan.check (p : Plan) : CheckReport := ⟨p.size, (Matcher.problems ⟨p, []⟩).1⟩

end HookPlan
