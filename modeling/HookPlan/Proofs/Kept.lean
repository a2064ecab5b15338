import HookPlan.Proofs.Questions

/-!
# Kept patterns change no answer

A matcher answers from the patterns that it has kept, and keeps more of them as it goes. What
it has kept stays true to the plan, so it answers as if it compiled each pattern anew.

* `Kept`: what may be kept of a plan.
* `fetch_answers`: fetching a pattern is compiling it; `keeping` carries this over to questions.
* `Matcher.Reachable.sound`: the matchers that questions lead to have kept nothing else, so
  `Sound.triggers`, `Sound.select` and `Sound.problems` say what they answer.
-/

namespace HookPlan

variable {p : Plan} {α β : Type}

/-- What is kept of a plan: patterns of its slots, for each slot at most one. -/
structure Kept (p : Plan) (kept : Compiled) : Prop where
  ofPlan : ∀ x ∈ kept, p.pattern? x.1 = .ok (some x.2)
  nodup : (kept.map Prod.fst).Nodup

theorem Kept.nil (p : Plan) : Kept p [] := ⟨by simp, List.nodup_nil⟩

theorem Kept.pattern?_of_lookup {kept : Compiled} (hk : Kept p kept) {slot : Slot}
    {pattern : Pattern} (h : kept.lookup slot = some pattern) :
    p.pattern? slot = .ok (some pattern) := by
  obtain ⟨before, after, rfl, -⟩ := List.lookup_eq_some_iff.1 h
  exact hk.ofPlan (slot, pattern) (by simp)

/-! ### Questions -/

/-- A question that is answered with `a`, whatever is kept of the plan; it forgets nothing. -/
def Answers (p : Plan) (q : StateM Compiled α) (a : α) : Prop :=
  ∀ kept, Kept p kept →
    (q.run kept).1 = a ∧ Kept p (q.run kept).2 ∧ kept <:+ (q.run kept).2

theorem answers_pure (p : Plan) (a : α) : Answers p (pure a) a :=
  fun kept hk => ⟨rfl, hk, List.suffix_refl kept⟩

theorem Answers.bind {q : StateM Compiled α} {a : α} {f : α → StateM Compiled β} {b : β}
    (hq : Answers p q a) (hf : Answers p (f a) b) : Answers p (q >>= f) b := by
  intro kept hk
  obtain ⟨h1, h2, h3⟩ := hq kept hk
  subst h1
  obtain ⟨g1, g2, g3⟩ := hf _ h2
  exact ⟨g1, g2, h3.trans g3⟩

theorem fetch_run (p : Plan) (slot : Slot) (kept : Compiled) :
    (Matcher.fetch p slot).run kept =
      match kept.lookup slot, p.pattern? slot with
      | some pattern, _ => (.ok (some pattern), kept)
      | none, .ok (some pattern) => (.ok (some pattern), (slot, pattern) :: kept)
      | none, r => (r, kept) := by
  unfold Matcher.fetch
  cases hl : kept.lookup slot with
  | some pattern => simp [hl]; rfl
  | none =>
    rcases hp : p.pattern? slot with e | _ | pattern <;> simp [hl] <;> rfl

/-- **Fetching is compiling.** A pattern that is fetched is the one in the plan. -/
theorem fetch_answers (p : Plan) (slot : Slot) :
    Answers p (Matcher.fetch p slot) (p.pattern? slot) := by
  intro kept hk
  rw [fetch_run]
  cases hl : kept.lookup slot with
  | some pattern =>
    rw [hk.pattern?_of_lookup hl]
    exact ⟨rfl, hk, List.suffix_refl _⟩
  | none =>
    have hnew : slot ∉ kept.map Prod.fst := by
      intro hmem
      obtain ⟨x, hx, rfl⟩ := List.mem_map.1 hmem
      have := List.lookup_eq_none_iff.1 hl x hx
      simp at this
    rcases hp : p.pattern? slot with e | _ | pattern
    · exact ⟨rfl, hk, List.suffix_refl _⟩
    · exact ⟨rfl, hk, List.suffix_refl _⟩
    · refine ⟨rfl, ⟨?_, List.nodup_cons.2 ⟨hnew, hk.nodup⟩⟩, List.suffix_cons _ _⟩
      intro x hx
      rcases List.mem_cons.1 hx with rfl | hx
      · exact hp
      · exact hk.ofPlan x hx

/-- Asking with kept patterns is asking with patterns that are compiled each time. -/
def keeping (p : Plan) : Simulation (StateM Compiled) Id where
  Rel q a := Answers p q a.run
  ofPure a := answers_pure p a
  ofBind hq hf := hq.bind (hf _)

theorem fetch_keeping (p : Plan) (slot : Slot) :
    (keeping p).Rel (Matcher.fetch p slot) (p.patterns slot) := fetch_answers p slot

/-! ### Matchers -/

namespace Matcher

/-- The matchers of a plan that questions lead to, asked in any order, failing or not. -/
inductive Reachable (p : Plan) : Matcher → Prop where
  | start : Reachable p ⟨p, []⟩
  | triggers {m : Matcher} (h : Reachable p m) (index : ℕ) (path : String) :
    Reachable p (m.triggers index path).2
  | select {m : Matcher} (h : Reachable p m) (paths : List String) :
    Reachable p (m.select paths).2
  | problems {m : Matcher} (h : Reachable p m) : Reachable p m.problems.2

/-- What every question keeps: the plan, and only patterns of it. -/
structure Sound (p : Plan) (m : Matcher) : Prop where
  plan : m.plan = p
  kept : Kept p m.compiled

/-- A question to a sound matcher is answered as if nothing were kept, and leaves the matcher
sound. -/
theorem Sound.run {m : Matcher} (hm : m.Sound p) {q : Patterns (StateM Compiled) → StateM Compiled α}
    {a : α} (hq : Answers p (q (fetch p)) a) : (m.run q).1 = a ∧ (m.run q).2.Sound p := by
  obtain ⟨rfl, hk⟩ := hm
  obtain ⟨h1, h2, -⟩ := hq m.compiled hk
  exact ⟨h1, rfl, h2⟩

theorem Sound.suffix_run {m : Matcher} (hm : m.Sound p)
    {q : Patterns (StateM Compiled) → StateM Compiled α} {a : α}
    (hq : Answers p (q (fetch p)) a) : m.compiled <:+ (m.run q).2.compiled := by
  obtain ⟨rfl, hk⟩ := hm
  exact (hq m.compiled hk).2.2

theorem Sound.triggers {m : Matcher} (hm : m.Sound p) (index : ℕ) (path : String) :
    (m.triggers index path).1 = p.triggers index path ∧ (m.triggers index path).2.Sound p := by
  obtain rfl := hm.plan
  exact hm.run (Simulation.triggers (fetch_keeping m.plan) m.plan.size index path)

theorem Sound.select {m : Matcher} (hm : m.Sound p) (paths : List String) :
    (m.select paths).1 = p.select paths ∧ (m.select paths).2.Sound p := by
  obtain rfl := hm.plan
  exact hm.run (Simulation.selectFrom (fetch_keeping m.plan) m.plan.size paths 0 m.plan.steps)

theorem Sound.problems {m : Matcher} (hm : m.Sound p) :
    m.problems.1 = p.problems ∧ m.problems.2.Sound p := by
  obtain rfl := hm.plan
  exact hm.run (Simulation.problems (fetch_keeping m.plan) m.plan.slots)

/-- **Every reachable matcher is sound.** -/
theorem Reachable.sound {m : Matcher} (hm : Reachable p m) : m.Sound p := by
  induction hm with
  | start => exact ⟨rfl, Kept.nil p⟩
  | triggers _ index path ih => exact (ih.triggers index path).2
  | select _ paths ih => exact (ih.select paths).2
  | problems _ ih => exact ih.problems.2

end Matcher

theorem Plan.check_problems (p : Plan) : p.check.problems = p.problems :=
  (Matcher.Reachable.start (p := p)).sound.problems.1

end HookPlan
