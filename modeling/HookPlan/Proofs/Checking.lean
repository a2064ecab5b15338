import HookPlan.Proofs.Selection

/-!
# A check foretells every failure

A check compiles the patterns of a plan eagerly, in the order of its slots; questions compile
some of them as they go.

* `problems_eq`: a check reports exactly the patterns that do not compile, in order.
* `mem_problems_of_triggers_eq_error`, `mem_problems_of_select_eq_error`: whatever a question
  fails with was reported.
* `check_sound_and_complete`: both, for matchers that were asked other questions before.
-/

namespace HookPlan

variable {p : Plan} {e : Error}

/-- What is wrong with a pattern, if anything is. -/
def PatternSource.problem? (s : PatternSource) : Option Error :=
  match Pattern.compile s.text with
  | .ok _ => none
  | .error fault => some (.invalidPattern s.entry s.text fault)

/-- The patterns of a step: that for its files, then that for its exclusions. -/
def Step.patternSources (s : Step) : List PatternSource :=
  s.files.pattern?.toList.map (fun text => ⟨s.entry, text⟩) ++
    s.exclude.toList.map fun text => ⟨s.entry, text⟩

namespace Plan

/-- The patterns of a plan: its own, which comes from no entry, then those of its steps. -/
def patternSources (p : Plan) : List PatternSource :=
  p.exclude.toList.map (fun text => ⟨{}, text⟩) ++ p.steps.flatMap Step.patternSources

/-! ### Slots -/

theorem flatMap_range_getElem? {α β : Type} (l : List α) (f : α → List β) :
    (List.range l.length).flatMap (fun i => (l[i]?.map f).getD []) = l.flatMap f := by
  induction l with
  | nil => rfl
  | cons a l ih =>
    rw [List.length_cons, List.range_succ_eq_map, List.flatMap_cons, List.flatMap_map,
      List.flatMap_cons, ← ih]
    rfl

/-- **The slots that are filled** hold the patterns of the plan, in order. -/
theorem filterMap_source?_slots (p : Plan) : p.slots.filterMap p.source? = p.patternSources := by
  have hstep : ∀ i, [Slot.stepFiles i, .stepExcluded i].filterMap p.source? =
      (p.steps[i]?.map Step.patternSources).getD [] := by
    intro i
    rw [filterMap_cons_eq_append, filterMap_cons_eq_append, List.filterMap_nil, List.append_nil]
    cases hs : p.steps[i]? with
    | none => simp [source?, hs]
    | some s => simp [source?, hs, Step.patternSources, Option.toList_map]
  rw [slots, filterMap_cons_eq_append, List.filterMap_flatMap]
  simp only [hstep]
  rw [size, flatMap_range_getElem?, patternSources, source?, Option.toList_map]

theorem pattern?_eq_error_iff {slot : Slot} :
    p.pattern? slot = .error e ↔ ∃ s, p.source? slot = some s ∧ s.problem? = some e := by
  unfold pattern?
  cases p.source? slot with
  | none => simp
  | some s =>
    have hs : s.compile.map some = .error e ↔ s.problem? = some e := by
      unfold PatternSource.problem? PatternSource.compile
      cases Pattern.compile s.text <;> simp [Except.map]
    simp [hs]

/-! ### Reports -/

theorem problems_cons (p : Plan) (slot : Slot) (slots : List Slot) :
    p.patterns.problems (slot :: slots) = match p.pattern? slot with
      | .ok _ => p.patterns.problems slots
      | .error e => e :: p.patterns.problems slots := rfl

/-- **A check reports exactly the patterns that do not compile**, each once and in order. -/
theorem problems_eq (p : Plan) : p.problems = p.patternSources.filterMap PatternSource.problem? := by
  rw [← filterMap_source?_slots, List.filterMap_filterMap, problems]
  induction p.slots with
  | nil => rfl
  | cons slot slots ih =>
    rw [List.filterMap_cons, ← ih, problems_cons]
    cases hp : p.pattern? slot with
    | error e =>
      obtain ⟨s, hs, he⟩ := pattern?_eq_error_iff.1 hp
      rw [hs, Option.bind_some, he]
    | ok pattern =>
      have hnone : (p.source? slot).bind PatternSource.problem? = none := by
        rw [Option.eq_none_iff_forall_ne_some]
        intro e he
        obtain ⟨s, hs, hse⟩ := Option.bind_eq_some_iff.1 he
        rw [pattern?_eq_error_iff.2 ⟨s, hs, hse⟩] at hp
        cases hp
      rw [hnone]

theorem mem_problems_iff : e ∈ p.problems ↔ ∃ slot ∈ p.slots, p.pattern? slot = .error e := by
  rw [problems_eq, ← filterMap_source?_slots, List.filterMap_filterMap, List.mem_filterMap]
  simp only [pattern?_eq_error_iff, Option.bind_eq_some_iff]

theorem mem_problems_of_triggers_eq_error {i : ℕ} {path : String}
    (h : p.triggers i path = .error e) : e ∈ p.problems :=
  mem_problems_iff.2 (exists_slot_of_triggers_eq_error h)

theorem mem_problems_of_select_eq_error {paths : List String}
    (h : p.select paths = .error e) : e ∈ p.problems := by
  obtain ⟨i, k, path, -, -, he⟩ := select_eq_error_iff.1 h
  exact mem_problems_of_triggers_eq_error he

end Plan

/-- **A check is sound and complete for matching.** It reports the patterns that do not compile,
each with its entry and text, in the order of the plan. If there are none, every question has an
answer; and whatever a question fails with was reported. -/
theorem check_sound_and_complete {m : Matcher} (hm : m.Reachable p) :
    p.check.problems = p.patternSources.filterMap PatternSource.problem? ∧
    (p.check.isOk = true →
      (∀ i path, ∃ b, (m.triggers i path).1 = .ok b) ∧
      ∀ paths, ∃ found, (m.select paths).1 = .ok found) ∧
    (∀ i path e, (m.triggers i path).1 = .error e → e ∈ p.check.problems) ∧
    ∀ paths e, (m.select paths).1 = .error e → e ∈ p.check.problems := by
  have htrig : ∀ i path e, (m.triggers i path).1 = .error e → e ∈ p.check.problems := by
    intro i path e h
    rw [(hm.sound.triggers i path).1] at h
    rw [p.check_problems]
    exact p.mem_problems_of_triggers_eq_error h
  have hsel : ∀ paths e, (m.select paths).1 = .error e → e ∈ p.check.problems := by
    intro paths e h
    rw [(hm.sound.select paths).1] at h
    rw [p.check_problems]
    exact p.mem_problems_of_select_eq_error h
  refine ⟨by rw [p.check_problems, p.problems_eq], fun hok => ⟨fun i path => ?_, fun paths => ?_⟩,
    htrig, hsel⟩
  · have hnil : p.check.problems = [] := List.isEmpty_iff.1 hok
    cases h : (m.triggers i path).1 with
    | ok b => exact ⟨b, rfl⟩
    | error e => exact absurd (htrig i path e h) (by simp [hnil])
  · have hnil : p.check.problems = [] := List.isEmpty_iff.1 hok
    cases h : (m.select paths).1 with
    | ok found => exact ⟨found, rfl⟩
    | error e => exact absurd (hsel paths e h) (by simp [hnil])

/-- A group that is not closed fails a question after a selection has failed, and is reported. -/
theorem check_sound_and_complete_unclosed :
    ∃ (p : Plan) (m : Matcher) (e : Error), p.steps.map Step.files = [.all, .pattern "("] ∧
      m = (Matcher.select ⟨p, []⟩ ["a", "./a"]).2 ∧ m.Reachable p ∧
      (m.triggers 1 "b").1 = .error e ∧ e ∈ p.check.problems := by
  have hm : Matcher.Reachable
      { steps := [⟨"s", "1", "x", "x", [], .all, some "b", 0, 0⟩,
          ⟨"s", "1", "y", "y", [], .pattern "(", none, 0, 1⟩] } _ := .select .start ["a", "./a"]
  exact ⟨_, _, _, rfl, rfl, hm, rfl, (check_sound_and_complete hm).2.2.1 1 "b" _ rfl⟩

end HookPlan
