import HookPlan.Proofs.CommandLine.Stages
import HookPlan.Proofs.Parsing

/-!
# How a run ends

A run whose arguments make sense does what is asked, finds fault with the patterns of its plan, or
fails. The exit code, the last line of the output and the errors tell these three apart. Lines may
be painted, which changes nothing else about them.

* `Outcome.Succeeds`, `Outcome.FindsFault`, `Outcome.FailsWith`: the three ways to end.
* `succeeds_of_answer`, `findsFault_of_answer`, `failsWith_of_fails`: what leads to each of them.
* `run_ends_one_way`: a run ends in exactly one of them, and for which reason.
-/

namespace HookPlan.CommandLine

variable {r : Request} {place : Surroundings Id} {s : Settings} {p : Plan} {f : Failure}
  {o : Outcome} {inColour : Bool} {text : String}

/-- A run that has done what was asked. -/
structure Outcome.Succeeds (o : Outcome) (inColour : Bool) : Prop where
  exit : o.exit = 0
  output : ∃ before, o.output = lines (before ++ [paint inColour .boldGreen "Success"])
  errors : o.errors = ""

/-- A run that has found fault with a plan. -/
structure Outcome.FindsFault (o : Outcome) (inColour : Bool) : Prop where
  exit : o.exit = 1
  output : ∃ before, o.output = lines (before ++ [paint inColour .boldRed "Failure"])
  errors : o.errors = ""

/-- A run that has failed. It prints the message of its failure and nothing else. -/
structure Outcome.FailsWith (o : Outcome) (inColour : Bool) (f : Failure) : Prop where
  exit : o.exit = 1
  output : o.output = ""
  errors : o.errors = lines [paint inColour .boldRed f.text]

/-! ### Lines -/

theorem lines_append (ls ms : List String) : lines (ls ++ ms) = lines ls ++ lines ms := by
  rw [lines, List.map_append, String.join_append]
  rfl

theorem lines_singleton (l : String) : lines [l] = l ++ "\n" := by
  rw [lines, List.map_singleton, String.join_cons, String.join_nil, String.append_empty]

theorem lines_append_singleton_ne_empty (ls : List String) (l : String) :
    lines (ls ++ [l]) ≠ "" := by
  rw [lines_append, lines_singleton]
  intro h
  obtain ⟨-, h⟩ := String.append_eq_empty_iff.1 h
  obtain ⟨-, h⟩ := String.append_eq_empty_iff.1 h
  exact absurd h (by decide)

/-- **What is printed about a plan** is made up of lines. -/
theorem exists_lines_of_perform {a : Action} {isOk : Bool}
    (h : a.perform inColour s p = .ok (text, isOk)) : ∃ ls, text = lines ls := by
  cases a with
  | plan json =>
    cases h
    unfold planText
    cases (if json then Plan.Format.json else s.format) with
    | json => exact ⟨[p.toText], (lines_singleton _).symm⟩
    | text => exact ⟨_, rfl⟩
  | check =>
    cases h
    exact ⟨_, rfl⟩
  | select paths =>
    unfold Action.perform at h
    cases hfound : (Matcher.select ⟨p, []⟩ paths).1 with
    | error e => simp [hfound] at h
    | ok found =>
      simp only [hfound, Except.ok.injEq, Prod.mk.injEq] at h
      rw [← h.1, selectionText]
      split
      · exact ⟨_, rfl⟩
      · exact ⟨_, rfl⟩

/-- The verdict is the last line of the output. -/
theorem exists_lines_before_verdict {a : Action} {isOk : Bool}
    (h : a.perform inColour s p = .ok (text, isOk)) (verdict : String) :
    ∃ before, text ++ verdict ++ "\n" = lines (before ++ [verdict]) := by
  obtain ⟨ls, rfl⟩ := exists_lines_of_perform h
  refine ⟨ls, ?_⟩
  rw [lines_append, lines_singleton, String.append_assoc]

/-! ### Verdicts -/

/-- A plan fails its check iff one of its patterns does not compile. -/
theorem check_isOk_eq_false_iff :
    p.check.isOk = false ↔
      ∃ source ∈ p.patternSources, ∃ fault, Pattern.compile source.text = .error fault := by
  rw [CheckReport.isOk, p.check_problems, List.isEmpty_eq_false_iff_exists_mem]
  constructor
  · rintro ⟨e, he⟩
    obtain ⟨source, hsource, fault, hfault, -⟩ := Plan.exists_source_of_mem_problems he
    exact ⟨source, hsource, fault, hfault⟩
  · rintro ⟨source, hsource, fault, hfault⟩
    refine ⟨.invalidPattern source.entry source.text fault, ?_⟩
    rw [p.problems_eq, List.mem_filterMap]
    exact ⟨source, hsource, by rw [PatternSource.problem?, hfault]⟩

/-- Only a check can find fault, and it does if the plan fails it. -/
theorem exists_perform_eq_fault_iff {a : Action} :
    (∃ text, a.perform inColour s p = .ok (text, false)) ↔ a = .check ∧ p.check.isOk = false := by
  cases a with
  | plan json => simp [Action.perform]
  | check => simp [Action.perform]
  | select paths =>
    unfold Action.perform
    cases hfound : (Matcher.select ⟨p, []⟩ paths).1 <;> simp [hfound]

/-! ### Failures -/

theorem discover_eq_error {files : Files.Access Id} {home start : String} {e : Error}
    (h : Configuration.discover files home start = .error e) :
    (∃ cause, e = .repositoryRoot cause) ∨ ∃ path, e = .documentNotFound path := by
  unfold Configuration.discover Configuration.root at h
  cases hroot : (Git.Repository.rootOf files home start).run with
  | error cause =>
    simp only [hroot] at h
    cases h
    exact Or.inl ⟨cause, rfl⟩
  | ok root =>
    simp only [hroot] at h
    -- whether something is there is the last question
    have key : ∀ (path : String) (isThere : Bool),
        (if isThere then .ok path else .error (.documentNotFound path) : Except Error String) =
          .error e → e = .documentNotFound path := by
      intro path isThere he
      cases isThere with
      | true => cases he
      | false => cases he; rfl
    exact Or.inr ⟨_, key _ _ h⟩

/-- A pattern that does not compile fails nothing but a selection. -/
theorem exists_paths_of_fails {entry : EntryRef} {pattern : String} {cause : Pattern.Fault}
    (h : r.Fails place (.plan (.invalidPattern entry pattern cause))) :
    ∃ paths, r.action = .select paths := by
  generalize hf : Failure.plan (.invalidPattern entry pattern cause) = f at h
  -- the errors of every other stage are of other kinds
  cases h with
  | settings => cases hf
  | workingDirectory => cases hf
  | discovery _ _ _ h =>
    cases hf
    rcases discover_eq_error h with ⟨_, h⟩ | ⟨_, h⟩ <;> cases h
  | reading => cases hf
  | parsing _ _ _ h =>
    cases hf
    obtain ⟨_, _, h, -⟩ := Configuration.exists_placedAt_of_parse_eq_error h
    cases h
  | resolution hc h =>
    cases hf
    obtain ⟨_, _, _, hc⟩ := hc
    obtain ⟨_, _, h⟩ := Configuration.exists_unresolvable_of_resolve_eq_error
      (Configuration.parse_eq_ok_iff.1 hc).2 h
    cases h
  | restriction _ _ _ h =>
    cases hf
    unfold Plan.retain at h
    dsimp only at h
    split at h <;> cases h
  | selection _ ha _ => exact ⟨_, ha⟩

/-- A selection fails on a pattern that does not compile. -/
theorem exists_source_of_select_eq_error {paths : List String} {e : Error}
    (h : (Matcher.select ⟨p, []⟩ paths).1 = .error e) :
    ∃ source ∈ p.patternSources, ∃ fault, Pattern.compile source.text = .error fault ∧
      e = .invalidPattern source.entry source.text fault := by
  rw [(Matcher.Reachable.start.sound.select paths).1] at h
  exact Plan.exists_source_of_mem_problems (p.mem_problems_of_select_eq_error h)

/-! ### The three ways -/

theorem run_eq {arguments : List String} (h : Request.ofArguments arguments = .ok r) :
    run arguments place = outcomeOf (isPainted place.environment) (r.answer place).run := by
  unfold run
  rw [h]
  rfl

theorem succeeds_of_answer (hp : r.Plans place s p)
    (h : r.action.perform (isPainted place.environment) s p = .ok (text, true)) :
    (outcomeOf (isPainted place.environment) (r.answer place).run).Succeeds
      (isPainted place.environment) := by
  rw [answer_eq_ok_iff.2 ⟨s, p, hp, h⟩]
  exact ⟨rfl, exists_lines_before_verdict h _, rfl⟩

theorem findsFault_of_answer (hp : r.Plans place s p)
    (h : r.action.perform (isPainted place.environment) s p = .ok (text, false)) :
    (outcomeOf (isPainted place.environment) (r.answer place).run).FindsFault
      (isPainted place.environment) := by
  rw [answer_eq_ok_iff.2 ⟨s, p, hp, h⟩]
  exact ⟨rfl, exists_lines_before_verdict h _, rfl⟩

theorem failsWith_of_fails (h : r.Fails place f) :
    (outcomeOf (isPainted place.environment) (r.answer place).run).FailsWith
      (isPainted place.environment) f := by
  rw [answer_eq_error_iff.2 h]
  exact ⟨rfl, rfl, (lines_singleton _).symm⟩

theorem Outcome.Succeeds.not_findsFault (h : o.Succeeds inColour) : ¬ o.FindsFault inColour :=
  fun h' => by simpa [h.exit] using h'.exit

theorem Outcome.FailsWith.not_succeeds (h : o.FailsWith inColour f) : ¬ o.Succeeds inColour :=
  fun h' => by simpa [h.exit] using h'.exit

theorem Outcome.FailsWith.not_findsFault (h : o.FailsWith inColour f) :
    ¬ o.FindsFault inColour := by
  intro h'
  obtain ⟨before, hbefore⟩ := h'.output
  exact lines_append_singleton_ne_empty before _ (hbefore.symm.trans h.output)

/-- A run ends, for a reason that goes with how it ends. -/
theorem exists_ending (r : Request) (place : Surroundings Id) :
    let inColour := isPainted place.environment
    let o := outcomeOf inColour (r.answer place).run
    o.Succeeds inColour ∨
      (o.FindsFault inColour ∧ r.action = .check ∧ ∃ s p, r.Plans place s p ∧
        ∃ source ∈ p.patternSources, ∃ fault, Pattern.compile source.text = .error fault) ∨
      ∃ f, o.FailsWith inColour f ∧ r.Fails place f := by
  intro inColour o
  rcases exists_answer_or_fails r place with ⟨⟨text, isOk⟩, hout⟩ | ⟨f, hf⟩
  · obtain ⟨s, p, hp, hperform⟩ := answer_eq_ok_iff.1 hout
    cases isOk with
    | true => exact Or.inl (succeeds_of_answer hp hperform)
    | false =>
      obtain ⟨hcheck, hfault⟩ := exists_perform_eq_fault_iff.1 ⟨text, hperform⟩
      exact Or.inr (Or.inl ⟨findsFault_of_answer hp hperform, hcheck, s, p, hp,
        check_isOk_eq_false_iff.1 hfault⟩)
  · exact Or.inr (Or.inr ⟨f, failsWith_of_fails hf, hf⟩)

/-- A run finds fault just if it is a check of a plan with a pattern that does not compile. -/
theorem findsFault_iff :
    (outcomeOf (isPainted place.environment) (r.answer place).run).FindsFault
        (isPainted place.environment) ↔
      r.action = .check ∧ ∃ s p, r.Plans place s p ∧
        ∃ source ∈ p.patternSources, ∃ fault, Pattern.compile source.text = .error fault := by
  constructor
  · intro h
    rcases exists_ending r place with hs | ⟨-, hreason⟩ | ⟨f, hf, -⟩
    · exact absurd h hs.not_findsFault
    · exact hreason
    · exact absurd h hf.not_findsFault
  · rintro ⟨ha, s, p, hp, hfault⟩
    obtain ⟨text, hperform⟩ := exists_perform_eq_fault_iff.2
      ⟨ha, check_isOk_eq_false_iff.2 hfault⟩
    exact findsFault_of_answer hp hperform

/-- A run fails just if one of its stages does. -/
theorem exists_failsWith_iff :
    (∃ f, (outcomeOf (isPainted place.environment) (r.answer place).run).FailsWith
        (isPainted place.environment) f) ↔ ∃ f, r.Fails place f := by
  constructor
  · rintro ⟨f, hf⟩
    rcases exists_ending r place with hs | ⟨hfault, -⟩ | ⟨g, -, hg⟩
    · exact absurd hs hf.not_succeeds
    · exact absurd hfault hf.not_findsFault
    · exact ⟨g, hg⟩
  · rintro ⟨f, hf⟩
    exact ⟨f, failsWith_of_fails hf⟩

/-- A plan that is to be printed is printed, whatever its patterns are. -/
theorem succeeds_of_plan {json : Bool} (ha : r.action = .plan json) (hp : r.Plans place s p) :
    (outcomeOf (isPainted place.environment) (r.answer place).run).Succeeds
      (isPainted place.environment) := by
  have hperform : r.action.perform (isPainted place.environment) s p =
      .ok (planText (isPainted place.environment) (if json then .json else s.format) p, true) := by
    rw [ha]
    rfl
  exact succeeds_of_answer hp hperform

/-- **A run ends in one of three ways.** It succeeds, finds fault or fails, and never does two of
these. It finds fault only if a check was asked for, and just if a pattern of the plan does not
compile. It fails just if one of its stages does, with that stage's failure and no other. A
selection fails on a pattern that does not compile. But a plan that is to be printed is printed,
whatever its patterns are, and no pattern is a reason for its run to fail. -/
theorem run_ends_one_way {arguments : List String} (h : Request.ofArguments arguments = .ok r)
    (place : Surroundings Id) :
    let o := run arguments place
    let inColour := isPainted place.environment
    (o.Succeeds inColour ∨ o.FindsFault inColour ∨ ∃ f, o.FailsWith inColour f) ∧
    (o.Succeeds inColour → ¬ o.FindsFault inColour) ∧
    (∀ f, o.FailsWith inColour f → ¬ o.Succeeds inColour ∧ ¬ o.FindsFault inColour) ∧
    (o.FindsFault inColour ↔ r.action = .check ∧ ∃ s p, r.Plans place s p ∧
      ∃ source ∈ p.patternSources, ∃ fault, Pattern.compile source.text = .error fault) ∧
    ((∃ f, o.FailsWith inColour f) ↔ ∃ f, r.Fails place f) ∧
    (∀ f, r.Fails place f → o.FailsWith inColour f ∧ ∀ g, r.Fails place g → g = f) ∧
    (∀ p paths e, (Matcher.select ⟨p, []⟩ paths).1 = .error e → ∃ source ∈ p.patternSources,
      ∃ fault, Pattern.compile source.text = .error fault ∧
        e = .invalidPattern source.entry source.text fault) ∧
    ∀ json, r.action = .plan json →
      (∀ s p, r.Plans place s p → o.Succeeds inColour) ∧
      ∀ entry pattern cause, ¬ r.Fails place (.plan (.invalidPattern entry pattern cause)) := by
  intro o inColour
  have ho : o = outcomeOf inColour (r.answer place).run := run_eq h
  rw [ho]
  refine ⟨?_, fun hs => hs.not_findsFault, fun f hf => ⟨hf.not_succeeds, hf.not_findsFault⟩,
    findsFault_iff, exists_failsWith_iff,
    fun f hf => ⟨failsWith_of_fails hf, fun g hg => hg.unique hf⟩,
    fun p paths e => exists_source_of_select_eq_error,
    fun json ha => ⟨fun s p => succeeds_of_plan ha, fun entry pattern cause hf => ?_⟩⟩
  · rcases exists_ending r place with hs | ⟨hfault, -⟩ | ⟨f, hf, -⟩
    · exact Or.inl hs
    · exact Or.inr (Or.inl hfault)
    · exact Or.inr (Or.inr ⟨f, hf⟩)
  · obtain ⟨paths, hpaths⟩ := exists_paths_of_fails hf
    rw [ha] at hpaths
    cases hpaths

/-- The plan of a small text, whatever is asked about it. -/
theorem plans_small (a : Action) :
    Request.Plans { action := a, configuration := some "p" }
      (.holding Configuration.smallText fun _ => none) {}
      ⟨[⟨"l", "r", "a", "a", [], .all, none, 0, 0⟩], some ")", false⟩ :=
  ⟨reads_holding rfl rfl Configuration.parse_smallText, rfl, rfl⟩

/-- The plan's own pattern does not compile. A check finds fault with it, a selection fails on it,
and the plan is printed all the same. -/
theorem run_ends_one_way_fault :
    let place : Surroundings Id := .holding Configuration.smallText fun _ => none
    ∃ check select plan cause, Request.ofArguments ["check", "--config", "p"] = .ok check ∧
      Request.ofArguments ["select", "--config", "p", "a"] = .ok select ∧
      Request.ofArguments ["plan", "--config", "p", "--json"] = .ok plan ∧
      select.Fails place (.plan (.invalidPattern {} ")" cause)) ∧
      (run ["check", "--config", "p"] place).FindsFault false ∧
      (run ["select", "--config", "p", "a"] place).FailsWith false
        (.plan (.invalidPattern {} ")" cause)) ∧
      (run ["plan", "--config", "p", "--json"] place).Succeeds false := by
  intro place
  have hcheck : Request.ofArguments ["check", "--config", "p"] = .ok _ := rfl
  have hselect : Request.ofArguments ["select", "--config", "p", "a"] = .ok _ := rfl
  have hplan : Request.ofArguments ["plan", "--config", "p", "--json"] = .ok _ := rfl
  have hfails : Request.Fails { action := .select ["a"], configuration := some "p" } place _ :=
    .selection (plans_small _) rfl rfl
  obtain ⟨-, -, -, hfault, -⟩ := run_ends_one_way hcheck place
  obtain ⟨-, -, -, -, -, hstage, -⟩ := run_ends_one_way hselect place
  obtain ⟨-, -, -, -, -, -, -, hprinted⟩ := run_ends_one_way hplan place
  refine ⟨_, _, _, _, hcheck, hselect, hplan, hfails, hfault.2 ?_, (hstage _ hfails).1, ?_⟩
  · exact ⟨rfl, {}, _, plans_small .check, ⟨{}, ")"⟩, .head _, _, rfl⟩
  · exact (hprinted true rfl).1 _ _ (plans_small _)

end HookPlan.CommandLine
