import HookPlan.Proofs.Compilation
import HookPlan.Proofs.Selection

/-!
# Excluded paths are as good as absent

A plan's own pattern is asked before all others, and a path that it matches is turned away at once.
If it compiles, the plan answers about the other paths as if it had no such pattern, and those that
match may as well be left out.

* `Patterns.withOwn`: patterns of steps as they are, with the plan's own at hand.
* `Patterns.triggers_withOwn`, `Patterns.selectFrom_withOwn`: leaving excluded paths out, for any
  way to get patterns.
* `Plan.triggers_eq_ite`, `Plan.select_eq_select_filter`: the same for a plan.
* `Plan.stepAttempts_spared`: no pattern of a step is compiled for an excluded path.
* `select_excluding`: all this, for matchers that were asked other questions before.
-/

namespace HookPlan

variable {p : Plan} {g : Pattern} {text : String}

/-- Whether a path is left once those that match are taken out. -/
def Pattern.spares (g : Pattern) (path : String) : Bool := !g.occursIn (normalizePath path)

/-! ### Any way to get patterns -/

namespace Patterns

variable {m : Type → Type} [Monad m]

/-- The same patterns for the steps of a plan, with its own at hand. -/
def withOwn (patterns : Patterns m) (own : Option Pattern) : Patterns m
  | .excluded => pure (.ok own)
  | .stepFiles i => patterns (.stepFiles i)
  | .stepExcluded i => patterns (.stepExcluded i)

variable [LawfulMonad m]

theorem occursIn_withOwn_excluded (patterns : Patterns m) (own : Option Pattern) (path : String) :
    (patterns.withOwn own).occursIn path .excluded = pure (own.map (·.occursIn path)) := by
  unfold occursIn withOwn
  rw [ExceptT.ext_iff]
  simp

/-- **An excluded path triggers nothing**, and other paths are not affected by the exclusion. -/
theorem triggers_withOwn (patterns : Patterns m) (g : Pattern) (size i : ℕ) (path : String) :
    (patterns.withOwn (some g)).triggers size i path =
      if g.spares path then (patterns.withOwn none).triggers size i path else pure false := by
  unfold triggers Pattern.spares
  by_cases hi : size ≤ i
  · simp [hi]
  simp only [if_neg hi, occursIn_withOwn_excluded, pure_bind, Option.map_some, Option.map_none]
  cases g.occursIn (normalizePath path) <;> rfl

/-- The paths that trigger a step are among those that are left. -/
theorem triggering_withOwn (patterns : Patterns m) (g : Pattern) (size i : ℕ)
    (paths : List String) :
    (patterns.withOwn (some g)).triggering size i paths =
      (patterns.withOwn none).triggering size i (paths.filter g.spares) := by
  induction paths with
  | nil => rfl
  | cons path paths ih =>
    rw [triggering, triggers_withOwn, ih, List.filter_cons]
    cases g.spares path with
    | false => simp
    | true => rfl

theorem selectFrom_withOwn (patterns : Patterns m) (g : Pattern) (size : ℕ) (paths : List String)
    (i : ℕ) (steps : List Step) :
    (patterns.withOwn (some g)).selectFrom size paths i steps =
      (patterns.withOwn none).selectFrom size (paths.filter g.spares) i steps := by
  induction steps generalizing i with
  | nil => rfl
  | cons step steps ih => rw [selectFrom, selectFrom, triggering_withOwn, ih]

/-- Leaving excluded paths out of a selection changes nothing. -/
theorem select_withOwn_filter (patterns : Patterns m) (g : Pattern) (p : Plan)
    (paths : List String) :
    (patterns.withOwn (some g)).select p (paths.filter g.spares) =
      (patterns.withOwn (some g)).select p paths := by
  rw [select, select, selectFrom_withOwn, selectFrom_withOwn, List.filter_filter]
  simp only [Bool.and_self]

end Patterns

/-! ### Answers -/

namespace Plan

/-- A plan without a pattern of its own. -/
def withoutOwn (p : Plan) : Plan := { p with exclude := none }

theorem pattern?_excluded (htext : p.exclude = some text) (hg : Pattern.compile text = .ok g) :
    p.pattern? .excluded = .ok (some g) := by
  rw [pattern?, source?, htext]
  dsimp only [Option.map, PatternSource.compile]
  rw [hg]
  rfl

theorem patterns_eq_withOwn (hown : p.pattern? .excluded = .ok (some g)) :
    p.patterns = p.withoutOwn.patterns.withOwn (some g) := by
  funext slot
  cases slot with
  | excluded => exact hown
  | stepFiles i => rfl
  | stepExcluded i => rfl

theorem patterns_withoutOwn (p : Plan) :
    p.withoutOwn.patterns = p.withoutOwn.patterns.withOwn none := by
  funext slot
  cases slot <;> rfl

/-- **A path that is excluded triggers nothing**; one that is not triggers what it would without
the exclusion. -/
theorem triggers_eq_ite (hown : p.pattern? .excluded = .ok (some g)) (i : ℕ) (path : String) :
    p.triggers i path = if g.spares path then p.withoutOwn.triggers i path else .ok false := by
  unfold triggers
  rw [patterns_eq_withOwn hown, Patterns.triggers_withOwn, ← patterns_withoutOwn]
  rfl

/-- Each step is selected with the same paths, from those that are not excluded. -/
theorem pathsOf_eq_pathsOf_filter (hown : p.pattern? .excluded = .ok (some g))
    (paths : List String) (i : ℕ) :
    p.pathsOf paths i = p.withoutOwn.pathsOf (paths.filter g.spares) i := by
  have htell : ∀ path, p.isTriggered i path = (p.withoutOwn.isTriggered i path && g.spares path) := by
    intro path
    rw [isTriggered, isTriggered, triggers_eq_ite hown]
    cases g.spares path
    · simp [Except.toOption]
    · simp
  rw [pathsOf, pathsOf, List.filter_filter, List.filter_congr fun path _ => htell path]

/-- **A selection is one without the exclusion, from the paths that are not excluded.** -/
theorem select_eq_select_filter (hown : p.pattern? .excluded = .ok (some g))
    (paths : List String) : p.select paths = p.withoutOwn.select (paths.filter g.spares) := by
  unfold select Patterns.select
  rw [patterns_eq_withOwn hown, Patterns.selectFrom_withOwn, ← patterns_withoutOwn]
  rfl

end Plan

/-! ### Attempts to compile -/

/-- Whether it is the pattern of a step that is compiled. -/
def Compilation.isOfStep (c : Compilation) : Bool := c.slot != .excluded

/-- What is kept and recorded for the steps of a plan is the same, and nothing else is kept than
the plan's own pattern. -/
structure StepsAlike (g : Pattern) (kept kept' : Compiled) (log log' : List Compilation) : Prop where
  own : ∀ pattern, kept.lookup .excluded = some pattern → pattern = g
  kept : ∀ slot, slot ≠ .excluded → kept.lookup slot = kept'.lookup slot
  log : log.filter Compilation.isOfStep = log'.filter Compilation.isOfStep

/-- Computations with the same outcome, which attempt to compile the same patterns of steps. -/
def sparing (g : Pattern) : Simulation (StateT Compiled (StateM (List Compilation)))
    (StateT Compiled (StateM (List Compilation))) where
  Rel x y := ∀ ⦃kept kept' log log'⦄, StepsAlike g kept kept' log log' →
    ∃ a after after' record record', (x.run kept).run log = ((a, after), record) ∧
      (y.run kept').run log' = ((a, after'), record') ∧ StepsAlike g after after' record record'
  ofPure a := fun kept kept' log log' h => ⟨a, kept, kept', log, log', rfl, rfl, h⟩
  ofBind := by
    intro α β x y f g hxy hfg kept kept' log log' h
    obtain ⟨a, after, after', record, record', hx, hy, h⟩ := hxy h
    rw [StateT.run_bind, StateT.run_bind, StateT.run_bind, StateT.run_bind, hx, hy]
    exact hfg a h

theorem fetch_sparing_excluded (hown : p.pattern? .excluded = .ok (some g)) :
    (sparing g).Rel (Matcher.fetchOver p.recorded .excluded) (pure (.ok (some g))) := by
  intro kept kept' log log' h
  refine ⟨.ok (some g), ?_⟩
  rw [fetchOver_recorded_run]
  -- it is kept already, or compiled now; neither concerns the patterns of steps
  cases hl : kept.lookup .excluded with
  | some pattern =>
    obtain rfl := h.own pattern hl
    exact ⟨kept, kept', log, log', rfl, rfl, h⟩
  | none =>
    rw [hown]
    refine ⟨_, kept', _, log', rfl, rfl, ?_, fun slot hslot => ?_, ?_⟩
    · intro pattern hpattern
      rw [Matcher.keep, List.lookup_cons_self] at hpattern
      exact (Option.some.inj hpattern).symm
    · rw [Matcher.lookup_keep_of_ne hslot, h.kept slot hslot]
    · -- what was added to the record is no attempt for a step
      have hnone : ∀ c ∈ (p.source? .excluded).toList.map
          fun s => (⟨.excluded, s.compile⟩ : Compilation), c.isOfStep = false := by
        intro c hc
        obtain ⟨_, -, rfl⟩ := List.mem_map.1 hc
        rfl
      rw [List.filter_append, filter_eq_ite_of_forall hnone, h.log]
      rfl

theorem fetch_sparing_step {slot : Slot} (hslot : slot ≠ .excluded) :
    (sparing g).Rel (Matcher.fetchOver p.recorded slot) (Matcher.fetchOver p.recorded slot) := by
  intro kept kept' log log' h
  rw [fetchOver_recorded_run, fetchOver_recorded_run, ← h.kept slot hslot]
  cases hl : kept.lookup slot with
  | some pattern => exact ⟨_, kept, kept', log, log', rfl, rfl, h⟩
  | none =>
    refine ⟨p.pattern? slot, _, _, _, _, rfl, rfl, ?_, fun slot' hslot' => ?_, ?_⟩
    · rw [Matcher.lookup_keep_of_ne hslot.symm]
      exact h.own
    · exact Matcher.lookup_keep_congr (h.kept slot hslot) _ slot' (h.kept slot' hslot')
    · rw [List.filter_append, List.filter_append, h.log]

/-- **The plan's own pattern may as well be at hand**: patterns of steps are fetched as before. -/
theorem fetch_sparing (hown : p.pattern? .excluded = .ok (some g)) (slot : Slot) :
    (sparing g).Rel (Matcher.fetchOver p.recorded slot)
      (Patterns.withOwn (Matcher.fetchOver p.recorded) (some g) slot) := by
  cases slot with
  | excluded => exact fetch_sparing_excluded hown
  | stepFiles i => exact fetch_sparing_step nofun
  | stepExcluded i => exact fetch_sparing_step nofun

/-! ### Sequences of questions -/

/-- A question without excluded paths, if anything of it is left. -/
def Question.spared? (g : Pattern) : Question → Option Question
  | .triggers i path => if g.spares path then some (.triggers i path) else none
  | .select paths => some (.select (paths.filter g.spares))
  | .problems => some .problems

namespace Question

variable {m : Type → Type} [Monad m] [LawfulMonad m]

/-- What is left of a question has all its effects, if the plan's own pattern is at hand. -/
theorem answer_spared? (patterns : Patterns m) (g : Pattern) (p : Plan) (q : Question) :
    q.answer (patterns.withOwn (some g)) p =
      match q.spared? g with
      | none => pure (.triggers (.ok false))
      | some q' => q'.answer (patterns.withOwn (some g)) p := by
  cases q with
  | triggers i path =>
    by_cases hs : g.spares path = true
    · rw [spared?, if_pos hs]
    · rw [spared?, if_neg hs, answer, Patterns.triggers_withOwn, if_neg hs]
      simp
  | select paths => simp only [spared?, answer, Patterns.select_withOwn_filter]
  | problems => rfl

/-- **Excluded paths have no effects**, in any sequence of questions. -/
theorem answers_spared? (patterns : Patterns m) (g : Pattern) (p : Plan) (qs : List Question) :
    (fun _ => ()) <$> answers (patterns.withOwn (some g)) p qs =
      (fun _ => ()) <$> answers (patterns.withOwn (some g)) p (qs.filterMap (spared? g)) := by
  induction qs with
  | nil => rfl
  | cons q qs ih =>
    -- answers are not compared, since there are fewer of them once questions are left out
    have hcons : ∀ (a : Answer) (rest : m (List Answer)),
        (fun _ => ()) <$> (do let as ← rest; return a :: as) = (fun _ => ()) <$> rest := by
      intro a rest
      simp
    rw [answers, answer_spared?, List.filterMap_cons]
    cases q.spared? g with
    | none =>
      rw [pure_bind, hcons]
      exact ih
    | some q' =>
      simp only [answers, map_bind, hcons, ih]

end Question

namespace Plan

/-- The attempts to compile patterns of steps, while a new matcher is asked some questions. -/
def stepAttempts (p : Plan) (qs : List Question) : List Compilation :=
  (p.recordedAnswers qs).2.filter Compilation.isOfStep

/-- With the plan's own pattern at hand, the attempts for steps are those that there are. -/
theorem stepAttempts_eq (hown : p.pattern? .excluded = .ok (some g)) (qs : List Question) :
    p.stepAttempts qs =
      (((Question.answers (Patterns.withOwn (Matcher.fetchOver p.recorded) (some g)) p qs).run
        []).run []).2.filter Compilation.isOfStep := by
  have hnew : StepsAlike g [] [] [] [] := ⟨nofun, fun _ _ => rfl, rfl⟩
  obtain ⟨as, after, after', record, record', hx, hy, h⟩ :=
    Simulation.answers (fetch_sparing hown) p qs hnew
  have hrecorded : p.recordedAnswers qs = ((as, after), record) := hx
  rw [stepAttempts, hrecorded, hy]
  exact h.log

/-- **No pattern of a step is compiled for an excluded path**: if these are left out of all
questions, the attempts are the same, in the same order. -/
theorem stepAttempts_spared (hown : p.pattern? .excluded = .ok (some g)) (qs : List Question) :
    p.stepAttempts (qs.filterMap (Question.spared? g)) = p.stepAttempts qs := by
  have hrun := congrArg (fun x => ((StateT.run x []).run []).2)
    (Question.answers_spared? (Matcher.fetchOver p.recorded) g p qs)
  simp only [StateT.run_map] at hrun
  rw [stepAttempts_eq hown, stepAttempts_eq hown]
  exact congrArg (List.filter Compilation.isOfStep) hrun.symm

/-- The paths in a selection are not excluded. -/
theorem not_occursIn_of_mem_select (hown : p.pattern? .excluded = .ok (some g))
    {paths : List String} {found : List Selection} (h : p.select paths = .ok found)
    {s : Selection} (hs : s ∈ found) {path : String} (hpath : path ∈ s.paths) :
    g.occursIn path = false := by
  rw [select_eq_select_filter hown] at h
  obtain ⟨indices, -, -, hall⟩ := exists_indices_of_select_eq_ok h
  obtain ⟨i, -, -, hpaths⟩ := exists_of_mem_right hall hs
  rw [hpaths, pathsOf, List.mem_map] at hpath
  obtain ⟨path, hpath, rfl⟩ := hpath
  have hspares : g.spares path = true := List.of_mem_filter (List.mem_of_mem_filter hpath)
  simpa [Pattern.spares] using hspares

end Plan

/-- **A plan's own pattern, if it compiles, is a filter on the paths.** The paths that it matches
trigger nothing, and about all others the plan answers as it would without that pattern. So a
selection is, or fails as, the selection without it from the paths that are left; what is selected
does not match, and no pattern of a step is compiled for a path that does. This holds whatever the
two matchers were asked before. -/
theorem select_excluding {m n : Matcher} (hm : m.Reachable p) (hn : n.Reachable p.withoutOwn)
    (htext : p.exclude = some text) (hg : Pattern.compile text = .ok g) :
    (∀ paths, (m.select paths).1 = (n.select (paths.filter g.spares)).1 ∧
      ∀ i, p.pathsOf paths i = p.withoutOwn.pathsOf (paths.filter g.spares) i) ∧
    (∀ i path, (m.triggers i path).1 =
      if g.occursIn (normalizePath path) then .ok false else (n.triggers i path).1) ∧
    (∀ paths found, (m.select paths).1 = .ok found →
      ∀ s ∈ found, ∀ path ∈ s.paths, g.occursIn path = false) ∧
    ∀ qs, p.stepAttempts qs = p.stepAttempts (qs.filterMap (Question.spared? g)) := by
  have hown := Plan.pattern?_excluded htext hg
  refine ⟨fun paths => ⟨?_, Plan.pathsOf_eq_pathsOf_filter hown paths⟩, fun i path => ?_,
    fun paths found h => ?_, fun qs => ?_⟩
  · rw [(hm.sound.select paths).1, (hn.sound.select _).1, Plan.select_eq_select_filter hown]
  · rw [(hm.sound.triggers i path).1, (hn.sound.triggers i path).1, Plan.triggers_eq_ite hown,
      Pattern.spares]
    cases g.occursIn (normalizePath path) <;> rfl
  · rw [(hm.sound.select paths).1] at h
    exact fun s hs path hpath => Plan.not_occursIn_of_mem_select hown h hs hpath
  · exact (Plan.stepAttempts_spared hown qs).symm

/-- A group that is not closed is no error for paths that the plan excludes, and is not compiled for
them; for another path of the same list it is. -/
theorem select_excluding_unclosed :
    ∃ (p : Plan) (m : Matcher) (e : Error), p.exclude = some "^v" ∧
      p.steps.map Step.files = [.pattern "("] ∧ m = (Matcher.triggers ⟨p, []⟩ 0 "v").2 ∧
      m.Reachable p ∧ (m.select ["./v", "v\\a"]).1 = .ok [] ∧ (m.triggers 0 "./v").1 = .ok false ∧
      p.stepAttempts [.select ["./v", "v\\a"], .triggers 0 "./v"] = [] ∧
      (m.select ["./v", "a"]).1 = .error e ∧
      (Matcher.select ⟨{ p with exclude := none }, []⟩ ["a"]).1 = .error e := by
  let p : Plan := ⟨[⟨"s", "1", "x", "x", [], .pattern "(", none, 0, 0⟩], some "^v", false⟩
  have hm : Matcher.Reachable p _ := .triggers .start 0 "v"
  obtain ⟨g, hg, hv, hva, ha⟩ : ∃ g, Pattern.compile "^v" = .ok g ∧
      g.occursIn "v" = true ∧ g.occursIn "v/a" = true ∧ g.occursIn "a" = false :=
    ⟨_, rfl, rfl, rfl, rfl⟩
  have hspares : g.spares "./v" = false ∧ g.spares "v\\a" = false ∧ g.spares "a" = true := by
    simp only [Pattern.spares]
    exact ⟨congrArg not hv, congrArg not hva, congrArg not ha⟩
  obtain ⟨hselect, htriggers, -, hattempts⟩ := select_excluding hm .start rfl hg
  refine ⟨p, _, _, rfl, rfl, rfl, hm, ?_, ?_, ?_, ?_, rfl⟩
  · rw [(hselect _).1, List.filter_eq_nil_iff.2 (by simp [hspares])]
    rfl
  · rw [htriggers]
    exact if_pos hv
  · rw [hattempts]
    simp only [List.filterMap_cons, List.filterMap_nil, Question.spared?, hspares, List.filter_cons,
      List.filter_nil, Bool.false_eq_true, if_false]
    rfl
  · rw [(hselect _).1]
    simp only [List.filter_cons, List.filter_nil, hspares, Bool.false_eq_true, if_false, if_true]
    rfl

end HookPlan
