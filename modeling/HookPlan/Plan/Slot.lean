import HookPlan.Pattern
import HookPlan.Plan

/-!
# The patterns of a plan

A plan has a pattern for excluded paths, and so has each step; a step may also have one for
the paths that it is for. These are the slots of a plan, filled or not.

* `Plan.source?`: the text of the pattern in a slot, and the place that it comes from.
* `Plan.slots`: the slots that may be filled, in order.
* `Plan.pattern?`: the pattern in a slot.
-/

namespace HookPlan

/-- A place for a pattern in a plan. -/
inductive Slot where
  /-- Paths that no step is for. -/
  | excluded
  /-- Paths that a step is for. -/
  | stepFiles (index : Nat)
  /-- Paths that a step is not for. -/
  | stepExcluded (index : Nat)
  deriving Repr, DecidableEq, Inhabited

/-- The text of a pattern with the place that it comes from. -/
structure PatternSource where
  entry : EntryRef
  text : String
  deriving Repr, DecidableEq

/-- The pattern that a text stands for. -/
def PatternSource.compile (s : PatternSource) : Except Error Pattern :=
  match Pattern.compile s.text with
  | .ok p => .ok p
  | .error fault => .error (.invalidPattern s.entry s.text fault)

namespace Plan

/-- The text of the pattern in a slot. The plan's own pattern comes from no single entry. -/
def source? (p : Plan) : Slot → Option PatternSource
  | .excluded => p.exclude.map fun text => ⟨{}, text⟩
  | .stepFiles i => p.steps[i]?.bind fun s => s.files.pattern?.map fun text => ⟨s.entry, text⟩
  | .stepExcluded i => p.steps[i]?.bind fun s => s.exclude.map fun text => ⟨s.entry, text⟩

/-- The slots of a plan: its own, then for each step those for its files and its exclusions. -/
def slots (p : Plan) : List Slot :=
  .excluded :: (List.range p.size).flatMap fun i => [.stepFiles i, .stepExcluded i]

/-- The pattern in a slot, if there is one. -/
def pattern? (p : Plan) (slot : Slot) : Except Error (Option Pattern) :=
  match p.source? slot with
  | none => .ok none
  | some s => s.compile.map some

end Plan

end HookPlan
