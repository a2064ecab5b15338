import HookPlan.Proofs.CommandLine.Endings
import HookPlan.Proofs.PlanText
import Mathlib.Data.List.TakeWhile

/-!
# Plans in the output

A plan that is printed in JSON can be read back from the output, up to the verdict. The verdict is
printed in all formats, and nothing can be read from an output with it.

* `ofText_append_of_blank`, `ofText_append_eq_error`: what may follow the text of a plan.
* `output_of_plans`: the whole output.
* `plan_output_reads_back`: for whole runs.
-/

namespace HookPlan

open Json (Ends Blank isSpace)

/-! ### What follows the text of a plan -/

namespace Plan

variable {p : Plan} {rest : String}

theorem read_toText_append (hp : p.Fits) (hr : Ends rest.toList) :
    Plan.read (p.toText ++ rest).toList = .ok (p, rest.toList) := by
  rw [String.toList_append]
  exact (p.writtenAs_toText.takes hp).apply hr

/-- White space may follow the text of a plan. -/
theorem ofText_append_of_blank (hp : p.Fits) (hr : Blank rest.toList) :
    Plan.ofText (p.toText ++ rest) = .ok p := by
  have hends : Ends rest.toList := by
    have := hr.ends_append Json.ends_nil
    rwa [List.append_nil] at this
  have hskip : rest.toList.dropWhile isSpace = [] := List.dropWhile_eq_nil_iff.2 hr
  unfold Plan.ofText Json.Reader.ofText
  rw [read_toText_append hp hends]
  show Except.mapError _ (if (rest.toList.dropWhile isSpace).isEmpty then _ else _) = _
  rw [hskip]
  rfl

/-- Anything else that follows is refused. -/
theorem ofText_append_eq_error (hp : p.Fits) (hr : Ends rest.toList) (hb : ¬ Blank rest.toList) :
    ∃ message, Plan.ofText (p.toText ++ rest) = .error message := by
  have hskip : (rest.toList.dropWhile isSpace).isEmpty = false := by
    rw [List.isEmpty_eq_false_iff, Ne, List.dropWhile_eq_nil_iff]
    exact hb
  unfold Plan.ofText Json.Reader.ofText
  rw [read_toText_append hp hr]
  show ∃ message, Except.mapError _ (if (rest.toList.dropWhile isSpace).isEmpty then _ else _) = _
  rw [hskip]
  exact ⟨_, rfl⟩

end Plan

namespace CommandLine

variable {r : Request} {place : Surroundings Id} {s : Settings} {p : Plan} {json : Bool}
  {arguments : List String}

/-! ### Output -/

theorem blank_lineEnd : Blank "\n".toList := by
  intro c hc
  obtain rfl := List.mem_singleton.1 (show c ∈ ['\n'] from hc)
  rfl

theorem ends_verdict : Ends "\nSuccess\n".toList := by
  intro c hc
  obtain rfl : '\n' = c := Option.some.inj hc
  rfl

theorem not_blank_verdict : ¬ Blank "\nSuccess\n".toList := by
  intro h
  exact absurd (h 'S' (by decide)) (by decide)

/-- The whole output for a plan in JSON. -/
theorem output_of_plans (hp : r.Plans place s p) (ha : r.action = .plan json)
    (hf : json = true ∨ s.format = .json) (hcolour : isPainted place.environment = false) :
    (outcomeOf (isPainted place.environment) (r.answer place).run).output =
      p.toText ++ "\nSuccess\n" := by
  have hformat : (if json then Plan.Format.json else s.format) = .json := by
    rcases hf with rfl | hf
    · rfl
    · rw [hf, ite_self]
  have hperform : r.action.perform (isPainted place.environment) s p =
      .ok (p.toText ++ "\n", true) := by
    rw [ha, Action.perform, hformat, planText]
  rw [answer_eq_ok_iff.2 ⟨s, p, hp, hperform⟩, hcolour]
  show p.toText ++ "\n" ++ "Success" ++ "\n" = _
  rw [String.append_assoc, String.append_assoc]
  rfl

theorem exists_plans_of_exit {s : Settings} (h : Request.ofArguments arguments = .ok r)
    (hs : place.settings = .ok s) (hexit : (run arguments place).exit = 0) :
    ∃ p, r.Plans place s p := by
  rcases exists_answer_or_fails r place with ⟨out, hout⟩ | ⟨f, hf⟩
  · obtain ⟨s', p, hp, -⟩ := answer_eq_ok_iff.1 hout
    cases hs.symm.trans hp.settings
    exact ⟨p, hp⟩
  · rw [run_eq h, (failsWith_of_fails hf).exit] at hexit
    cases hexit

/-- **A plan in JSON can be read back from the output but for the verdict.** If a run for a plan
goes well, there is one plan that it comes to, and what it prints before the verdict gives exactly
that plan. With the verdict, which follows whatever the format is, no plan can be read. -/
theorem plan_output_reads_back (h : Request.ofArguments arguments = .ok r)
    (ha : r.action = .plan json) (hs : place.settings = .ok s)
    (hf : json = true ∨ s.format = .json) (hcolour : isPainted place.environment = false)
    (hexit : (run arguments place).exit = 0) :
    ∃ p, (r.Plans place s p ∧ ∀ q, r.Plans place s q → q = p) ∧
      (run arguments place).output = p.toText ++ "\n" ++ "Success\n" ∧
      (p.Fits → Plan.ofText (p.toText ++ "\n") = .ok p ∧
        ∃ message, Plan.ofText (run arguments place).output = .error message) := by
  obtain ⟨p, hp⟩ := exists_plans_of_exit h hs hexit
  have houtput : (run arguments place).output = p.toText ++ "\nSuccess\n" := by
    rw [run_eq h]
    exact output_of_plans hp ha hf hcolour
  refine ⟨p, ⟨hp, fun q hq => hq.unique hp⟩, ?_, fun hfits => ⟨?_, ?_⟩⟩
  · rw [houtput, String.append_assoc]
    rfl
  · exact Plan.ofText_append_of_blank hfits blank_lineEnd
  · rw [houtput]
    exact Plan.ofText_append_eq_error hfits ends_verdict not_blank_verdict

theorem fits_small :
    Plan.Fits ⟨[⟨"l", "r", "a", "a", [], .all, none, 0, 0⟩], some ")", false⟩ := by
  intro s hs
  obtain rfl := List.mem_singleton.1 hs
  exact ⟨by decide, by decide⟩

theorem ofArguments_small :
    Request.ofArguments ["plan", "--json", "--config", "p"] =
      .ok { action := .plan true, configuration := some "p" } := rfl

theorem exit_small :
    (run ["plan", "--json", "--config", "p"]
      (.holding Configuration.smallText fun _ => none)).exit = 0 := by
  rw [run_eq ofArguments_small]
  exact (succeeds_of_answer (plans_small _) rfl).exit

/-- A run that goes well, with an output that no plan can be read from. -/
theorem plan_output_with_verdict :
    (run ["plan", "--json", "--config", "p"]
      (.holding Configuration.smallText fun _ => none)).exit = 0 ∧
    ∃ message, Plan.ofText (run ["plan", "--json", "--config", "p"]
      (.holding Configuration.smallText fun _ => none)).output = .error message := by
  refine ⟨exit_small, ?_⟩
  rw [run_eq ofArguments_small, output_of_plans (plans_small _) rfl (Or.inl rfl) rfl]
  exact Plan.ofText_append_eq_error fits_small ends_verdict not_blank_verdict

/-- The plan of a small text, read back from what is printed before the verdict. -/
theorem plan_output_reads_back_small :
    ∃ p : Plan, p.steps.map Step.hookId = ["a"] ∧
      (run ["plan", "--json", "--config", "p"]
        (.holding Configuration.smallText fun _ => none)).output = p.toText ++ "\n" ++ "Success\n" ∧
      Plan.ofText (p.toText ++ "\n") = .ok p := by
  obtain ⟨p, ⟨-, hunique⟩, houtput, hread⟩ :=
    plan_output_reads_back ofArguments_small rfl rfl (Or.inl rfl) rfl exit_small
  cases hunique _ (plans_small _)
  exact ⟨_, rfl, houtput, (hread fits_small).1⟩

end CommandLine

end HookPlan
