import HookPlan.Plan.Matcher
import HookPlan.Proofs.Traversal

/-!
# Questions that compile each time

The questions to a plan, which compile a pattern whenever it is asked, as plain computations
that may fail.

* `triggers_eq`: a path triggers a step if it passes three slots, asked in their order.
* `triggers_congr`: the answer for a step does not depend on where it stands.
* `exists_slot_of_triggers_eq_error`: what fails is the pattern in one of the slots.
* `triggering_cons`, `selectFrom_cons`: the walk over steps and paths.
-/

namespace HookPlan

variable {p q : Plan}

/-- Whether a slot turns a path away, where the verdict is whether its pattern occurs there. -/
def Slot.rejects : Slot → Option Bool → Bool
  | .stepFiles _, verdict => verdict == some false
  | .excluded, verdict | .stepExcluded _, verdict => verdict == some true

namespace Plan

/-- Whether the pattern in a slot occurs in a path. An empty slot says nothing. -/
def occursIn (p : Plan) (path : String) (slot : Slot) : Except Error (Option Bool) :=
  (p.pattern? slot).map (·.map (·.occursIn path))

theorem patterns_occursIn (p : Plan) (path : String) (slot : Slot) :
    p.patterns.occursIn path slot = p.occursIn path slot := by
  unfold Patterns.occursIn occursIn patterns
  cases p.pattern? slot <;> rfl

theorem occursIn_eq_error_iff {path : String} {slot : Slot} {e : Error} :
    p.occursIn path slot = .error e ↔ p.pattern? slot = .error e := by
  unfold occursIn
  cases p.pattern? slot <;> simp [Except.map]

/-- Whether a path passes some slots, which are asked in order until one turns it away. -/
def passes (p : Plan) (path : String) : List Slot → Except Error Bool
  | [] => .ok true
  | slot :: slots => do
    if slot.rejects (← p.occursIn path slot) then return false
    p.passes path slots

/-- The slots that decide about the step with an index. -/
def slotsOf (i : ℕ) : List Slot := [.excluded, .stepFiles i, .stepExcluded i]

/-- **A path triggers a step if it passes three slots**: the plan's exclusions, the step's files
and the step's exclusions. -/
theorem triggers_eq (p : Plan) (i : ℕ) (path : String) :
    p.triggers i path =
      if p.size ≤ i then .ok false else p.passes (normalizePath path) (slotsOf i) := by
  unfold triggers Patterns.triggers
  simp only [exceptT_bind_eq, patterns_occursIn]
  rfl

/-- **The index of a step has no part in its answers**: only the step itself and the plan's
exclusions do. -/
theorem triggers_congr {i j : ℕ} (hexclude : p.exclude = q.exclude)
    (hstep : p.steps[i]? = q.steps[j]?) (path : String) : p.triggers i path = q.triggers j path := by
  have hsize : p.size ≤ i ↔ q.size ≤ j := by
    rw [size, size, ← List.getElem?_eq_none_iff, ← List.getElem?_eq_none_iff, hstep]
  have hexcluded : p.occursIn (normalizePath path) .excluded =
      q.occursIn (normalizePath path) .excluded := by
    rw [occursIn, occursIn, pattern?, pattern?, source?, source?, hexclude]
  have hfiles : p.occursIn (normalizePath path) (.stepFiles i) =
      q.occursIn (normalizePath path) (.stepFiles j) := by
    rw [occursIn, occursIn, pattern?, pattern?, source?, source?, hstep]
  have hstepExcluded : p.occursIn (normalizePath path) (.stepExcluded i) =
      q.occursIn (normalizePath path) (.stepExcluded j) := by
    rw [occursIn, occursIn, pattern?, pattern?, source?, source?, hstep]
  rw [triggers_eq, triggers_eq]
  by_cases hi : p.size ≤ i
  · rw [if_pos hi, if_pos (hsize.1 hi)]
  · rw [if_neg hi, if_neg (mt hsize.2 hi)]
    simp only [slotsOf, passes, hexcluded, hfiles, hstepExcluded]
    rfl

theorem exists_slot_of_passes_eq_error {path : String} {slots : List Slot} {e : Error}
    (h : p.passes path slots = .error e) : ∃ slot ∈ slots, p.pattern? slot = .error e := by
  induction slots with
  | nil => cases h
  | cons slot slots ih =>
    obtain h | ⟨verdict, -, h⟩ := bind_eq_error_iff.1 h
    · exact ⟨slot, List.mem_cons_self, occursIn_eq_error_iff.1 h⟩
    · split at h
      · cases h
      · obtain ⟨slot', hmem, he⟩ := ih h
        exact ⟨slot', List.mem_cons_of_mem _ hmem, he⟩

theorem slotsOf_subset {i : ℕ} (hi : i < p.size) : slotsOf i ⊆ p.slots := by
  intro slot h
  simp only [slotsOf, List.mem_cons, List.not_mem_nil, or_false] at h
  simp only [slots, List.mem_cons, List.mem_flatMap, List.mem_range, List.not_mem_nil, or_false]
  rcases h with rfl | h
  · exact Or.inl rfl
  · exact Or.inr ⟨i, hi, h⟩

/-- A path cannot be decided only because some pattern of the plan does not compile. -/
theorem exists_slot_of_triggers_eq_error {i : ℕ} {path : String} {e : Error}
    (h : p.triggers i path = .error e) : ∃ slot ∈ p.slots, p.pattern? slot = .error e := by
  rw [triggers_eq] at h
  split at h
  · cases h
  · rename_i hi
    obtain ⟨slot, hmem, he⟩ := exists_slot_of_passes_eq_error h
    exact ⟨slot, slotsOf_subset (Nat.lt_of_not_le hi) hmem, he⟩

/-- The paths that trigger a step, in the form in which they were matched. -/
def triggering (p : Plan) (i : ℕ) (paths : List String) : Except Error (List String) :=
  p.patterns.triggering p.size i paths

theorem triggering_cons (p : Plan) (i : ℕ) (path : String) (paths : List String) :
    p.triggering i (path :: paths) = do
      let isTriggered ← p.triggers i path
      let more ← p.triggering i paths
      return if isTriggered then normalizePath path :: more else more := by
  unfold triggering
  simp only [Patterns.triggering, exceptT_bind_eq]
  rfl

/-- Paths that get the same answers, and are matched in the same form, trigger steps alike. -/
theorem triggering_congr_of_forall₂ {i j : ℕ} {paths paths' : List String}
    (h : List.Forall₂ (fun path path' => p.triggers i path = q.triggers j path' ∧
      normalizePath path = normalizePath path') paths paths') :
    p.triggering i paths = q.triggering j paths' := by
  induction h with
  | nil => rfl
  | cons hpath _ ih => rw [triggering_cons, triggering_cons, hpath.1, hpath.2, ih]

theorem triggering_congr {i j : ℕ} (hexclude : p.exclude = q.exclude)
    (hstep : p.steps[i]? = q.steps[j]?) (paths : List String) :
    p.triggering i paths = q.triggering j paths :=
  triggering_congr_of_forall₂ <| List.forall₂_same.2 fun path _ =>
    ⟨triggers_congr hexclude hstep path, rfl⟩

/-- The steps that some path triggers, where the first has an index. -/
def selectFrom (p : Plan) (paths : List String) (i : ℕ) (steps : List Step) :
    Except Error (List Selection) :=
  p.patterns.selectFrom p.size paths i steps

theorem selectFrom_cons (p : Plan) (paths : List String) (i : ℕ) (step : Step)
    (steps : List Step) :
    p.selectFrom paths i (step :: steps) = do
      let found ← p.triggering i paths
      let more ← p.selectFrom paths (i + 1) steps
      return if found.isEmpty then more else ⟨step, found⟩ :: more := by
  unfold selectFrom
  simp only [Patterns.selectFrom, exceptT_bind_eq]
  rfl

theorem select_eq (p : Plan) (paths : List String) :
    p.select paths = p.selectFrom paths 0 p.steps := rfl

end Plan

end HookPlan
