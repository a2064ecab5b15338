import HookPlan.Proofs.Kept

/-!
# When patterns are compiled

A matcher has a cell for each pattern of its plan. A cell is filled when its pattern is first
asked for and compiles; from then on the pattern is taken out of the cell.

* `Matcher.cell`: what a matcher keeps of a pattern.
* `Matcher.fetchOver`, `Plan.recorded`: fetching, with a record of each attempt to compile.
* `recording_simulates`: the record changes nothing, and its successes are what is kept.
* `askAll_as_if_fresh`: whatever was asked before, answers are those of a new matcher, and no
  pattern is compiled again once that has succeeded.
-/

namespace HookPlan

variable {p : Plan} {pattern : Pattern} {kept kept' : Compiled}

/-! ### Cells -/

/-- What a matcher keeps of the pattern in a slot. -/
def Matcher.cell (m : Matcher) (slot : Slot) : Option Pattern := m.compiled.lookup slot

theorem Plan.pattern?_eq_ok_some_iff {slot : Slot} :
    p.pattern? slot = .ok (some pattern) ↔
      ∃ s, p.source? slot = some s ∧ Pattern.compile s.text = .ok pattern := by
  unfold pattern?
  cases p.source? slot with
  | none => simp
  | some s =>
    have hs : s.compile.map some = .ok (some pattern) ↔ Pattern.compile s.text = .ok pattern := by
      unfold PatternSource.compile
      cases Pattern.compile s.text <;> simp [Except.map]
    simp [hs]

/-- What is kept of a slot stays there when more is kept. -/
theorem Kept.lookup_of_suffix {slot : Slot} (hk : Kept p kept') (hs : kept <:+ kept')
    (h : kept.lookup slot = some pattern) : kept'.lookup slot = some pattern := by
  obtain ⟨added, rfl⟩ := hs
  have hmem : slot ∈ kept.map Prod.fst := by
    obtain ⟨before, after, rfl, -⟩ := List.lookup_eq_some_iff.1 h
    simp
  -- no slot is kept twice, so what was added is not for this one
  have hnew : added.lookup slot = none := by
    have hnodup := hk.nodup
    rw [List.map_append] at hnodup
    rw [List.lookup_eq_none_iff]
    intro x hx
    have hne := (List.nodup_append.1 hnodup).2.2 x.1 (List.mem_map_of_mem hx) slot hmem
    simpa using hne.symm
  rw [List.lookup_append, hnew, h]
  rfl

/-! ### Attempts to compile -/

/-- An attempt to compile the pattern in a slot. -/
structure Compilation where
  slot : Slot
  outcome : Except Error Pattern

namespace Compilation

def succeeds (c : Compilation) : Bool := c.outcome.isOk

/-- What is to be kept of an attempt. -/
def kept? (c : Compilation) : Option (Slot × Pattern) :=
  match c.outcome with
  | .ok pattern => some (c.slot, pattern)
  | .error _ => none

theorem map_fst_filterMap_kept? (log : List Compilation) :
    (log.filterMap kept?).map Prod.fst = (log.filter succeeds).map slot := by
  induction log with
  | nil => rfl
  | cons c log ih =>
    obtain ⟨slot, outcome⟩ := c
    cases outcome with
    | error e => exact ih
    | ok pattern => exact congrArg (slot :: ·) ih

end Compilation

/-- The patterns of a plan, compiled each time, with a record of this; the last attempt is first. -/
def Plan.recorded (p : Plan) : Patterns (StateM (List Compilation)) := fun slot =>
  match p.source? slot with
  | none => return .ok none
  | some s => do
    modify fun log => ⟨slot, s.compile⟩ :: log
    return s.compile.map some

namespace Matcher

/-- The pattern in a slot, kept or else compiled in some way. -/
def fetchOver {m : Type → Type} [Monad m] (compile : Patterns m) : Patterns (StateT Compiled m) :=
  fun slot => do
    match (← get).lookup slot with
    | some pattern => return .ok (some pattern)
    | none =>
      match ← compile slot with
      | .ok (some pattern) =>
        modify fun compiled => (slot, pattern) :: compiled
        return .ok (some pattern)
      | r => return r

theorem fetchOver_patterns (p : Plan) : fetchOver p.patterns = fetch p := by
  funext slot
  rfl

/-- What is kept once the pattern in a slot was compiled, or could not be. -/
def keep (slot : Slot) (r : Except Error (Option Pattern)) (kept : Compiled) : Compiled :=
  match r with
  | .ok (some pattern) => (slot, pattern) :: kept
  | _ => kept

theorem lookup_keep_of_ne {slot slot' : Slot} (h : slot' ≠ slot) (r : Except Error (Option Pattern))
    (kept : Compiled) : (keep slot r kept).lookup slot' = kept.lookup slot' := by
  rcases r with e | _ | pattern
  · rfl
  · rfl
  · rw [keep, List.lookup_cons, beq_false_of_ne h]

theorem lookup_keep_congr {kept kept' : Compiled} {slot : Slot}
    (h : kept.lookup slot = kept'.lookup slot) (r : Except Error (Option Pattern)) (slot' : Slot)
    (h' : kept.lookup slot' = kept'.lookup slot') :
    (keep slot r kept).lookup slot' = (keep slot r kept').lookup slot' := by
  by_cases hslot : slot' = slot
  · subst hslot
    rcases r with e | _ | pattern
    · exact h
    · exact h
    · simp [keep]
  · rw [lookup_keep_of_ne hslot, lookup_keep_of_ne hslot, h']

theorem fetchOver_run {m : Type → Type} [Monad m] [LawfulMonad m] (compile : Patterns m)
    (slot : Slot) (kept : Compiled) :
    (fetchOver compile slot).run kept =
      match kept.lookup slot with
      | some pattern => pure (.ok (some pattern), kept)
      | none => (fun r => (r, keep slot r kept)) <$> compile slot := by
  unfold fetchOver
  cases hl : kept.lookup slot with
  | some pattern => simp [hl]
  | none =>
    simp only [StateT.run_bind, StateT.run_get, pure_bind, hl, StateT.run_monadLift, monadLift_self,
      map_eq_pure_bind, bind_assoc]
    refine bind_congr fun r => ?_
    rcases r with e | _ | pattern <;> simp [keep]

end Matcher

/-! ### The record -/

theorem Plan.recorded_run (p : Plan) (slot : Slot) (log : List Compilation) :
    (p.recorded slot).run log = (p.pattern? slot,
      (p.source? slot).toList.map (fun s => ⟨slot, s.compile⟩) ++ log) := by
  unfold recorded pattern?
  cases p.source? slot <;> rfl

/-- What fetching with a record does to what is kept and to the record. -/
theorem fetchOver_recorded_run (p : Plan) (slot : Slot) (kept : Compiled) (log : List Compilation) :
    ((Matcher.fetchOver p.recorded slot).run kept).run log =
      match kept.lookup slot with
      | some pattern => ((.ok (some pattern), kept), log)
      | none => ((p.pattern? slot, Matcher.keep slot (p.pattern? slot) kept),
          (p.source? slot).toList.map (fun s => ⟨slot, s.compile⟩) ++ log) := by
  rw [Matcher.fetchOver_run]
  cases kept.lookup slot with
  | some pattern => rfl
  | none =>
    rw [StateT.run_map, Plan.recorded_run]
    rfl

/-- What is kept after some attempts. -/
def keptOf (log : List Compilation) : Compiled := log.filterMap Compilation.kept?

/-- Computations that agree but for the record, and the record accounts for what is kept. -/
def recording : Simulation (StateT Compiled (StateM (List Compilation))) (StateM Compiled) where
  Rel x y := ∀ log, ∃ log', (x.run (keptOf log)).run log = (y.run (keptOf log), log') ∧
    (y.run (keptOf log)).2 = keptOf log'
  ofPure a := fun log => ⟨log, rfl, rfl⟩
  ofBind := by
    intro α β x y f g hxy hfg log
    obtain ⟨log', hx, hy⟩ := hxy log
    obtain ⟨log'', hf, hg⟩ := hfg (y.run (keptOf log)).1 log'
    -- what the first part keeps is what its record accounts for, so the second part starts there
    rw [← hy] at hf hg
    refine ⟨log'', ?_, hg⟩
    rw [StateT.run_bind, StateT.run_bind, hx]
    exact hf

/-- An attempt to compile is kept just as the record accounts for it. -/
theorem keep_keptOf (p : Plan) (slot : Slot) (log : List Compilation) :
    Matcher.keep slot (p.pattern? slot) (keptOf log) =
      keptOf ((p.source? slot).toList.map (fun s => ⟨slot, s.compile⟩) ++ log) := by
  unfold Plan.pattern?
  cases p.source? slot with
  | none => rfl
  | some s =>
    dsimp only [Option.toList, List.map]
    generalize s.compile = outcome
    cases outcome <;> rfl

theorem fetch_recording (p : Plan) (slot : Slot) :
    recording.Rel (Matcher.fetchOver p.recorded slot) (Matcher.fetch p slot) := by
  intro log
  rw [← Matcher.fetchOver_patterns, fetchOver_recorded_run, Matcher.fetchOver_run]
  cases (keptOf log).lookup slot with
  | some pattern => exact ⟨log, rfl, rfl⟩
  | none => exact ⟨_, rfl, keep_keptOf p slot log⟩

/-! ### Sequences of questions -/

theorem answer_answers (p : Plan) (q : Question) :
    Answers p (q.answer (Matcher.fetch p) p) (q.answer p.patterns p : Id Answer) :=
  Simulation.answer (fetch_keeping p) p q

theorem answers_answers (p : Plan) (qs : List Question) :
    Answers p (Question.answers (Matcher.fetch p) p qs)
      (qs.map fun q => (q.answer p.patterns p : Id Answer)) := by
  have hq : Answers p _ (Question.answers p.patterns p qs : Id (List Answer)) :=
    Simulation.answers (fetch_keeping p) p qs
  have hmap : (Question.answers p.patterns p qs : Id (List Answer)) =
      qs.map fun q => (q.answer p.patterns p : Id Answer) := by
    clear hq
    induction qs with
    | nil => rfl
    | cons q qs ih => exact congrArg (_ :: ·) ih
  rwa [hmap] at hq

namespace Matcher

variable {m : Matcher}

theorem Sound.ask (hm : m.Sound p) (q : Question) :
    (m.ask q).1 = (q.answer p.patterns p : Id Answer) := by
  obtain rfl := hm.plan
  rw [ask_eq_run]
  exact (hm.run (answer_answers m.plan q)).1

theorem Sound.askAll (hm : m.Sound p) (qs : List Question) :
    (m.askAll qs).1 = qs.map (fun q => (q.answer p.patterns p : Id Answer)) ∧
      (m.askAll qs).2.Sound p ∧ m.compiled <:+ (m.askAll qs).2.compiled := by
  obtain rfl := hm.plan
  have hq := answers_answers m.plan qs
  rw [askAll_eq_run]
  exact ⟨(hm.run hq).1, (hm.run hq).2, hm.suffix_run hq⟩

end Matcher

namespace Plan

/-- A new matcher after some questions. -/
def matcherAfter (p : Plan) (qs : List Question) : Matcher := (Matcher.askAll ⟨p, []⟩ qs).2

theorem sound_matcherAfter (p : Plan) (qs : List Question) : (p.matcherAfter qs).Sound p :=
  (Matcher.Reachable.start.sound.askAll qs).2.1

/-- The answers of a new matcher and what it keeps in the end, with a record of all attempts to
compile. -/
def recordedAnswers (p : Plan) (qs : List Question) :
    (List Answer × Compiled) × List Compilation :=
  ((Question.answers (Matcher.fetchOver p.recorded) p qs).run []).run []

/-- **The record changes nothing**, and its successes are what is kept. -/
theorem recordedAnswers_eq (p : Plan) (qs : List Question) :
    (p.recordedAnswers qs).1 = ((Matcher.askAll ⟨p, []⟩ qs).1, (p.matcherAfter qs).compiled) ∧
      keptOf (p.recordedAnswers qs).2 = (p.matcherAfter qs).compiled := by
  obtain ⟨log, hrun, hkept⟩ := Simulation.answers (fetch_recording p) p qs []
  rw [matcherAfter, Matcher.askAll_eq_run]
  have hlog : p.recordedAnswers qs = _ := hrun
  rw [hlog]
  exact ⟨rfl, hkept.symm⟩

theorem compiled_suffix_append (p : Plan) (qs more : List Question) :
    (p.matcherAfter qs).compiled <:+ (p.matcherAfter (qs ++ more)).compiled := by
  rw [matcherAfter, matcherAfter, Matcher.askAll_append]
  exact ((p.sound_matcherAfter qs).askAll more).2.2

/-- A pattern that does not compile leaves its cell empty, and fails again when it is fetched. -/
theorem fetch_of_compile_eq_error {slot : Slot} {s : PatternSource} {e : Error}
    (hs : p.source? slot = some s) (he : s.compile = .error e) (hk : Kept p kept) :
    kept.lookup slot = none ∧ (Matcher.fetch p slot).run kept = (.error e, kept) := by
  have hpattern : p.pattern? slot = .error e := by rw [pattern?, hs]; dsimp only; rw [he]; rfl
  have hnone : kept.lookup slot = none := by
    cases hl : kept.lookup slot with
    | none => rfl
    | some pattern =>
      rw [hk.pattern?_of_lookup hl] at hpattern
      cases hpattern
  refine ⟨hnone, ?_⟩
  rw [fetch_run, hnone, hpattern]

end Plan

/-- **A matcher answers as if it were new**, whatever it was asked before, failing or not. What it
keeps in a cell is what the pattern of that cell compiles to, and stays there; a pattern that does
not compile leaves its cell empty and fails in the same way each time. A record of all attempts,
which changes no answer, shows that none succeeds twice for one pattern. -/
theorem askAll_as_if_fresh (p : Plan) (qs : List Question) :
    (Matcher.askAll ⟨p, []⟩ qs).1 = qs.map (fun q => (Matcher.ask ⟨p, []⟩ q).1) ∧
    (∀ slot pattern, (p.matcherAfter qs).cell slot = some pattern →
      (∃ s, p.source? slot = some s ∧ Pattern.compile s.text = .ok pattern) ∧
      ∀ more, (p.matcherAfter (qs ++ more)).cell slot = some pattern) ∧
    (∀ slot s e, p.source? slot = some s → s.compile = .error e →
      (p.matcherAfter qs).cell slot = none ∧
      (Matcher.fetch p slot).run (p.matcherAfter qs).compiled =
        (.error e, (p.matcherAfter qs).compiled)) ∧
    (p.recordedAnswers qs).1 =
      ((Matcher.askAll ⟨p, []⟩ qs).1, (p.matcherAfter qs).compiled) ∧
    (((p.recordedAnswers qs).2.filter Compilation.succeeds).map Compilation.slot).Nodup := by
  have hnew : Matcher.Sound p ⟨p, []⟩ := Matcher.Reachable.start.sound
  have hkept : ∀ qs, Kept p (p.matcherAfter qs).compiled := fun qs => (p.sound_matcherAfter qs).kept
  obtain ⟨hrecord, hsuccesses⟩ := p.recordedAnswers_eq qs
  refine ⟨?_, fun slot pattern hcell => ⟨?_, fun more => ?_⟩, fun slot s e hs he => ?_, hrecord, ?_⟩
  · rw [(hnew.askAll qs).1]
    exact List.map_congr_left fun q _ => (hnew.ask q).symm
  · exact Plan.pattern?_eq_ok_some_iff.1 ((hkept qs).pattern?_of_lookup hcell)
  · exact (hkept (qs ++ more)).lookup_of_suffix (p.compiled_suffix_append qs more) hcell
  · exact Plan.fetch_of_compile_eq_error hs he (hkept qs)
  · rw [← Compilation.map_fst_filterMap_kept?]
    have hnodup := (hkept qs).nodup
    rwa [← hsuccesses] at hnodup

/-- Three uses of a group that is not closed are three attempts; a pattern that compiles is
compiled once for four uses, also by a selection that fails, and stays in its cell. -/
theorem askAll_as_if_fresh_unclosed :
    ∃ (p : Plan) (qs : List Question) (pattern : Pattern),
      p.steps.map Step.files = [.pattern "a", .pattern "("] ∧
      qs = [.select ["a", "b"], .problems, .triggers 0 "a", .triggers 1 "a"] ∧
      (p.matcherAfter qs).cell (.stepFiles 0) = some pattern ∧
      (p.matcherAfter (qs ++ [.problems])).cell (.stepFiles 0) = some pattern ∧
      (p.matcherAfter qs).cell (.stepFiles 1) = none ∧
      (p.recordedAnswers qs).2.map Compilation.slot =
        [.stepFiles 1, .stepFiles 1, .stepFiles 1, .stepFiles 0] ∧
      (((p.recordedAnswers qs).2.filter Compilation.succeeds).map Compilation.slot).Nodup := by
  let p : Plan := { steps := [⟨"s", "1", "x", "x", [], .pattern "a", none, 0, 0⟩,
    ⟨"s", "1", "y", "y", [], .pattern "(", none, 0, 1⟩] }
  let qs : List Question := [.select ["a", "b"], .problems, .triggers 0 "a", .triggers 1 "a"]
  obtain ⟨-, hcell, hfail, -, honce⟩ := askAll_as_if_fresh p qs
  obtain ⟨pattern, hpattern⟩ : ∃ pattern, (p.matcherAfter qs).cell (.stepFiles 0) = some pattern :=
    Option.isSome_iff_exists.1 (by decide +kernel)
  obtain ⟨-, hstays⟩ := hcell (.stepFiles 0) pattern hpattern
  exact ⟨p, qs, pattern, rfl, rfl, hpattern, hstays [.problems],
    (hfail (.stepFiles 1) _ _ rfl rfl).1, by decide +kernel, honce⟩

end HookPlan
