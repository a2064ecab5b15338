import HookPlan.Proofs.Checking

/-!
# Plans restricted to one hook

A plan that is restricted to a hook keeps the steps that invoke it. They move to other indices,
but are asked about as before, since only a step itself and the plan's own pattern have a part in
what is answered about the step.

* `select_eq_mapM`: a selection is put together from those of plans with one step.
* `problems_eq_append`: so are the problems of a plan, after those of its own pattern.
* `retain_commutes`: restricting a plan commutes with all questions to it.
-/

namespace HookPlan

variable {p q r : Plan} {id : String} {paths : List String} {found : List Selection} {e : Error}

/-- The members that are kept, by their indices among all. -/
theorem getElem?_filter_eq {α : Type} (keep : α → Bool) (l : List α) (k : ℕ) :
    (l.filter keep)[k]? = l[l.findIdxNth keep k]? := by
  induction l generalizing k with
  | nil => rfl
  | cons a l ih =>
    cases ha : keep a with
    | false =>
      rw [List.filter_cons_of_neg (by simp [ha]), List.findIdxNth_cons_of_neg ha,
        List.getElem?_cons_succ, ih]
    | true =>
      rw [List.filter_cons_of_pos ha, List.findIdxNth_cons_of_pos ha]
      cases k with
      | zero => rfl
      | succ k => exact ih k

/-! ### Step by step -/

namespace Plan

/-- The plan with one step alone. -/
def only (p : Plan) (s : Step) : Plan := { p with steps := [s] }

theorem select_only (p : Plan) (s : Step) (paths : List String) :
    (p.only s).select paths = do
      let found ← (p.only s).triggering 0 paths
      return if found.isEmpty then [] else [⟨s, found⟩] := by
  rw [select_eq]
  change (p.only s).selectFrom paths 0 [s] = _
  rw [selectFrom_cons]
  rfl

theorem step_eq_of_mem_select_only {s : Step} (h : (p.only s).select paths = .ok found) :
    ∀ x ∈ found, x.step = s := by
  rw [select_only] at h
  obtain ⟨hits, -, h⟩ := bind_eq_ok_iff.1 h
  cases h
  intro x hx
  split at hx
  · cases hx
  · rw [List.mem_singleton.1 hx]

/-- **A selection is put together** from those of the steps alone. -/
theorem select_eq_mapM (p : Plan) (paths : List String) :
    p.select paths = (p.steps.mapM fun s => (p.only s).select paths).map List.flatten := by
  -- the steps that were passed fix the index of the next one
  have key : ∀ steps passed, p.steps = passed ++ steps →
      p.selectFrom paths passed.length steps =
        (steps.mapM fun s => (p.only s).select paths).map List.flatten := by
    intro steps
    induction steps with
    | nil => intro passed _; rfl
    | cons s steps ih =>
      intro passed h
      have hs : p.steps[passed.length]? = (p.only s).steps[0]? := by
        rw [h, List.getElem?_append_right le_rfl, Nat.sub_self]
        rfl
      have hmore := ih (passed ++ [s]) (by rw [h, List.append_assoc]; rfl)
      rw [List.length_append, List.length_singleton] at hmore
      rw [selectFrom_cons, triggering_congr (show p.exclude = (p.only s).exclude from rfl) hs,
        hmore, List.mapM_cons, select_only]
      cases (p.only s).triggering 0 paths with
      | error e => rfl
      | ok hits =>
        cases steps.mapM fun s => (p.only s).select paths with
        | error e => rfl
        | ok more => cases hits <;> rfl
  exact key p.steps [] rfl

end Plan

/-! ### Problems and where they come from -/

/-- What is wrong with the patterns of a step. -/
def Step.problems (s : Step) : List Error := s.patternSources.filterMap PatternSource.problem?

/-- What is wrong with the pattern of a plan that belongs to no step. -/
def Plan.ownProblems (p : Plan) : List Error :=
  (p.exclude.toList.map fun text => (⟨{}, text⟩ : PatternSource)).filterMap PatternSource.problem?

/-- Whether an error points at an invocation of a hook, or at no entry at all. -/
def Error.concerns (id : String) (e : Error) : Bool :=
  e.entry?.any fun entry => entry.isEmpty || entry.hookId == EntryRef.nonEmpty id

theorem EntryRef.nonEmpty_injective : Function.Injective EntryRef.nonEmpty := by
  intro s t h
  unfold nonEmpty at h
  by_cases hs : s.isEmpty <;> by_cases ht : t.isEmpty <;> simp_all

theorem PatternSource.entry?_of_problem? {s : PatternSource} (h : s.problem? = some e) :
    e.entry? = some s.entry := by
  unfold problem? at h
  split at h
  · cases h
  · cases h; rfl

/-- A problem of a step points at the hook that the step invokes. -/
theorem Step.concerns_of_mem_problems {s : Step} (h : e ∈ s.problems) :
    e.concerns id = (s.hookId == id) := by
  obtain ⟨source, hsource, he⟩ := List.mem_filterMap.1 h
  have hentry : source.entry = s.entry := by
    simp only [patternSources, List.mem_append, List.mem_map] at hsource
    rcases hsource with ⟨_, -, rfl⟩ | ⟨_, -, rfl⟩ <;> rfl
  have hindex : s.entry.isEmpty = false := by
    simp [EntryRef.isEmpty, entry, EntryRef.hook, EntryRef.source]
  rw [Error.concerns, source.entry?_of_problem? he, hentry, Option.any_some, hindex,
    Bool.false_or, Bool.eq_iff_iff, beq_iff_eq, beq_iff_eq]
  exact EntryRef.nonEmpty_injective.eq_iff

namespace Plan

theorem concerns_of_mem_ownProblems (h : e ∈ p.ownProblems) : e.concerns id = true := by
  obtain ⟨source, hsource, he⟩ := List.mem_filterMap.1 h
  obtain ⟨text, -, rfl⟩ := List.mem_map.1 hsource
  rw [Error.concerns, PatternSource.entry?_of_problem? he]
  rfl

theorem problems_eq_append (p : Plan) :
    p.problems = p.ownProblems ++ p.steps.flatMap Step.problems := by
  rw [problems_eq, patternSources, List.filterMap_append, List.filterMap_flatMap]
  rfl

/-- The problems that concern a hook are those of the steps that invoke it, and the plan's own. -/
theorem filter_concerns_problems (p : Plan) (id : String) :
    p.problems.filter (·.concerns id) =
      p.ownProblems ++ (p.steps.filter (·.hookId == id)).flatMap Step.problems := by
  have hown : p.ownProblems.filter (·.concerns id) = p.ownProblems :=
    List.filter_eq_self.2 fun _ he => concerns_of_mem_ownProblems he
  rw [problems_eq_append, List.filter_append, hown, List.filter_flatMap]
  congr 1
  induction p.steps with
  | nil => rfl
  | cons s steps ih =>
    rw [List.flatMap_cons, ih, List.filter_cons,
      filter_eq_ite_of_forall fun _ he => Step.concerns_of_mem_problems he]
    cases s.hookId == id <;> rfl

/-! ### Restrictions -/

theorem retain_eq_ok_iff :
    p.retain id = .ok q ↔
      q = { p with steps := p.steps.filter (·.hookId == id) } ∧ q.steps ≠ [] := by
  unfold retain
  cases hs : p.steps.filter (·.hookId == id) with
  | nil => simp only [List.isEmpty_nil]; exact ⟨nofun, fun ⟨h, hne⟩ => absurd (by rw [h]) hne⟩
  | cons step steps =>
    simp only [List.isEmpty_cons, Bool.false_eq_true, if_false, Except.ok.injEq]
    constructor
    · rintro rfl; exact ⟨rfl, List.cons_ne_nil _ _⟩
    · rintro ⟨rfl, -⟩; rfl

theorem exists_retain_eq_ok (h : ∃ step ∈ p.steps, step.hookId = id) :
    ∃ r, p.retain id = .ok r := by
  obtain ⟨step, hstep, hid⟩ := h
  have hmem : step ∈ p.steps.filter (·.hookId == id) :=
    List.mem_filter.2 ⟨hstep, beq_iff_eq.2 hid⟩
  exact ⟨_, retain_eq_ok_iff.2 ⟨rfl, List.ne_nil_of_mem hmem⟩⟩

theorem retain_eq_error (h : ∀ step ∈ p.steps, step.hookId ≠ id) :
    p.retain id = .error (.noMatchingHook id) := by
  have hnil : p.steps.filter (·.hookId == id) = [] :=
    List.filter_eq_nil_iff.2 fun step hstep => by simpa using h step hstep
  rw [retain, hnil]
  rfl

/-- **A step that is kept is triggered as before**, though it may stand elsewhere. -/
theorem triggers_retain (h : p.retain id = .ok r) (k : ℕ) (path : String) :
    r.triggers k path = p.triggers (p.steps.findIdxNth (·.hookId == id) k) path := by
  obtain ⟨rfl, -⟩ := retain_eq_ok_iff.1 h
  refine triggers_congr ?_ ?_ path
  · rfl
  · exact getElem?_filter_eq _ p.steps k

/-- **A selection that succeeds is filtered** by a restriction. -/
theorem select_retain (h : p.retain id = .ok r) (hfound : p.select paths = .ok found) :
    r.select paths = .ok (found.filter (·.step.hookId == id)) := by
  obtain ⟨rfl, -⟩ := retain_eq_ok_iff.1 h
  have htell : ∀ s part, (p.only s).select paths = .ok part →
      ∀ x ∈ part, (x.step.hookId == id) = (s.hookId == id) := by
    intro s part hpart x hx
    rw [step_eq_of_mem_select_only hpart x hx]
  rw [select_eq_mapM] at hfound ⊢
  cases hwalk : p.steps.mapM fun s => (p.only s).select paths with
  | error e => rw [hwalk] at hfound; cases hfound
  | ok parts =>
    rw [hwalk] at hfound
    cases hfound
    obtain ⟨kept, hkept, hflat⟩ := exists_mapM_filter_eq_ok htell hwalk
    rw [← hflat]
    exact congrArg (Except.map List.flatten) hkept

theorem problems_retain (h : p.retain id = .ok r) :
    r.problems = p.ownProblems ++ (p.steps.filter (·.hookId == id)).flatMap Step.problems := by
  obtain ⟨rfl, -⟩ := retain_eq_ok_iff.1 h
  exact problems_eq_append _

end Plan

/-- **Restricting a plan commutes with querying it**, whatever its matchers were asked before.
The step at an index of the restricted plan is triggered, not triggered or undecided just as that
step is in the whole plan. A selection from the whole plan that succeeds is the selection from the
restricted one once other steps are left out, so the latter fails only if the former does. A check
reports what it did of the plan's own pattern and of the steps that are left. A plan without such
a step cannot be restricted. -/
theorem retain_commutes (p : Plan) (id : String) :
    ((∃ step ∈ p.steps, step.hookId = id) → ∃ r, p.retain id = .ok r ∧
      r.exclude = p.exclude ∧ r.failFast = p.failFast ∧
      p.check.problems = p.ownProblems ++ p.steps.flatMap Step.problems ∧
      r.check.problems =
        p.ownProblems ++ (p.steps.filter (·.hookId == id)).flatMap Step.problems ∧
      r.check.problems = p.check.problems.filter (·.concerns id) ∧
      ∀ m n : Matcher, m.Reachable p → n.Reachable r →
        (∀ k path, (n.triggers k path).1 =
          (m.triggers (p.steps.findIdxNth (·.hookId == id) k) path).1) ∧
        (∀ paths found, (m.select paths).1 = .ok found →
          (n.select paths).1 = .ok (found.filter (·.step.hookId == id))) ∧
        ∀ paths e, (n.select paths).1 = .error e → ∃ e', (m.select paths).1 = .error e') ∧
    ((∀ step ∈ p.steps, step.hookId ≠ id) → p.retain id = .error (.noMatchingHook id)) := by
  refine ⟨fun h => ?_, Plan.retain_eq_error⟩
  obtain ⟨r, hr⟩ := Plan.exists_retain_eq_ok h
  obtain ⟨hfields, -⟩ := Plan.retain_eq_ok_iff.1 hr
  refine ⟨r, hr, by rw [hfields], by rw [hfields], ?_, ?_, ?_, fun m n hm hn => ⟨?_, ?_, ?_⟩⟩
  · rw [p.check_problems, p.problems_eq_append]
  · rw [r.check_problems, Plan.problems_retain hr]
  · rw [r.check_problems, p.check_problems, p.filter_concerns_problems, Plan.problems_retain hr]
  · intro k path
    rw [(hn.sound.triggers k path).1, (hm.sound.triggers _ path).1, Plan.triggers_retain hr]
  · intro paths found hfound
    rw [(hm.sound.select paths).1] at hfound
    rw [(hn.sound.select paths).1, Plan.select_retain hr hfound]
  · intro paths e he
    rw [(hn.sound.select paths).1] at he
    rw [(hm.sound.select paths).1]
    cases hfound : p.select paths with
    | error e' => exact ⟨e', rfl⟩
    | ok found =>
      rw [Plan.select_retain hr hfound] at he
      cases he

/-- A group that is not closed fails a selection from the whole plan, but not from the steps for
another hook, which stand on either side of it. Once it is closed, both plans have something to
select, and it is the same of the steps that are in both. -/
theorem retain_commutes_unclosed :
    let plan (files : String) : Plan := { steps := [⟨"s", "1", "x", "x", [], .all, none, 0, 0⟩,
      ⟨"s", "1", "y", "y", [], .pattern files, none, 0, 1⟩,
      ⟨"s", "1", "x", "x", [], .pattern "b", none, 0, 2⟩] }
    let listed (r : Except Error (List Selection)) : Option (List (ℕ × List String)) :=
      r.toOption.map fun found => found.map fun f => (f.step.hookIndex, f.paths)
    ∃ r r' : Plan, (plan "(").retain "x" = .ok r ∧ (plan "(a)").retain "x" = .ok r' ∧
      (plan "(").check.problems.length = 1 ∧ r.check.problems = [] ∧
      (Matcher.triggers ⟨plan "(", []⟩ 2 "a").1 = .ok false ∧
      (Matcher.triggers ⟨r, []⟩ 1 "a").1 = .ok false ∧
      (∃ e, (Matcher.select ⟨plan "(", []⟩ ["a"]).1 = .error e) ∧
      listed (Matcher.select ⟨plan "(a)", []⟩ ["b", "./a"]).1 =
        some [(0, ["b", "a"]), (1, ["a"]), (2, ["b"])] ∧
      listed (Matcher.select ⟨r', []⟩ ["b", "./a"]).1 = some [(0, ["b", "a"]), (2, ["b"])] ∧
      (plan "(").retain "z" = .error (.noMatchingHook "z") := by
  intro plan listed
  obtain ⟨r, hr, -, -, -, -, hproblems, hask⟩ :=
    (retain_commutes (plan "(") "x").1 ⟨_, List.mem_cons_self, rfl⟩
  obtain ⟨r', hr', -, -, -, -, -, hask'⟩ :=
    (retain_commutes (plan "(a)") "x").1 ⟨_, List.mem_cons_self, rfl⟩
  obtain ⟨htriggers, -, -⟩ := hask ⟨plan "(", []⟩ ⟨r, []⟩ .start .start
  obtain ⟨-, hselect, -⟩ := hask' ⟨plan "(a)", []⟩ ⟨r', []⟩ .start .start
  refine ⟨r, r', hr, hr', rfl, ?_, rfl, ?_, ⟨_, rfl⟩, rfl, ?_, ?_⟩
  · rw [hproblems]; rfl
  · rw [htriggers]; rfl
  · rw [hselect ["b", "./a"] _ rfl]; rfl
  · exact (retain_commutes (plan "(") "z").2 (by decide)

end HookPlan
