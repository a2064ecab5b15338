import HookPlan.Proofs.Restriction
import HookPlan.Proofs.Resolution
import HookPlan.Proofs.Validity

/-!
# Whom the error of a pattern blames

An error of a pattern carries an entry that was copied from step to step: out of the
configuration, through any number of restrictions of the plan, into the slots of a matcher. It
still points at the invocation whose pattern it is about.

* `Plan.Narrows`: the plans that restrictions lead to; none of them has a new step or pattern.
* `Configuration.Blamed`: the errors that point at a pattern in force where they say.
* `blamed_of_complains`: whatever a matcher complains of is one of these.
-/

namespace HookPlan

variable {cat : Catalog} {c : Configuration} {p q : Plan} {e : Error}

/-! ### Restricted plans -/

/-- The plans that a plan is restricted to, one hook after another. -/
inductive Plan.Narrows (p : Plan) : Plan → Prop where
  | refl : p.Narrows p
  | retain {q r : Plan} {id : String} (h : p.Narrows q) (hr : q.retain id = .ok r) : p.Narrows r

namespace Plan

/-- Restricting a plan adds no step and leaves its own pattern alone. -/
theorem Narrows.sublist (h : p.Narrows q) : q.steps.Sublist p.steps ∧ q.exclude = p.exclude := by
  induction h with
  | refl => exact ⟨List.Sublist.refl _, rfl⟩
  | retain _ hr ih =>
    obtain ⟨rfl, -⟩ := retain_eq_ok_iff.1 hr
    exact ⟨List.filter_sublist.trans ih.1, ih.2⟩

theorem mem_patternSources {s : PatternSource} :
    s ∈ p.patternSources ↔ p.exclude = some s.text ∧ s.entry = {} ∨
      ∃ step ∈ p.steps, s.entry = step.entry ∧
        (step.files = .pattern s.text ∨ step.exclude = some s.text) := by
  obtain ⟨entry, text⟩ := s
  have hfiles : ∀ step : Step, step.files.pattern? = some text ↔ step.files = .pattern text := by
    intro step
    cases step.files <;> simp [FileFilter.pattern?]
  simp only [patternSources, Step.patternSources, List.mem_append, List.mem_map, Option.mem_toList,
    List.mem_flatMap, PatternSource.mk.injEq]
  constructor
  · rintro (⟨t, ht, rfl, rfl⟩ | ⟨step, hstep, ⟨t, ht, rfl, rfl⟩ | ⟨t, ht, rfl, rfl⟩⟩)
    · exact Or.inl ⟨ht, rfl⟩
    · exact Or.inr ⟨step, hstep, rfl, Or.inl ((hfiles step).1 ht)⟩
    · exact Or.inr ⟨step, hstep, rfl, Or.inr ht⟩
  · rintro (⟨ht, rfl⟩ | ⟨step, hstep, rfl, ht | ht⟩)
    · exact Or.inl ⟨text, ht, rfl, rfl⟩
    · exact Or.inr ⟨step, hstep, Or.inl ⟨text, (hfiles step).2 ht, rfl, rfl⟩⟩
    · exact Or.inr ⟨step, hstep, Or.inr ⟨text, ht, rfl, rfl⟩⟩

/-- Every problem of a plan is about one of its patterns, which does not compile. -/
theorem exists_source_of_mem_problems (h : e ∈ p.problems) :
    ∃ s ∈ p.patternSources, ∃ fault, Pattern.compile s.text = .error fault ∧
      e = .invalidPattern s.entry s.text fault := by
  rw [problems_eq, List.mem_filterMap] at h
  obtain ⟨s, hs, hse⟩ := h
  unfold PatternSource.problem? at hse
  cases hc : Pattern.compile s.text with
  | ok pattern => rw [hc] at hse; cases hse
  | error fault => rw [hc] at hse; cases hse; exact ⟨s, hs, fault, hc, rfl⟩

end Plan

/-! ### Steps and invocations -/

/-- The text of a pattern that holds for an invocation: the declared one, or the one supplied for
want of it. -/
inductive InForce (declared supplied : Option String) (text : String) : Prop where
  | ofDeclared (h : declared = some text)
  | ofSupplied (hd : declared = none) (h : supplied = some text)

theorem inForce_of_settled {α : Type} {declared supplied : Option String} {make : String → α}
    {fixed : α} (hmake : Function.Injective make) {text : String} (hfixed : make text ≠ fixed)
    (h : Settled (declared.map make) (supplied.map make) fixed (make text)) :
    InForce declared supplied text := by
  generalize ha : make text = a at h
  cases h with
  | ofDeclared h =>
    obtain ⟨t, ht, hta⟩ := Option.map_eq_some_iff.1 h
    obtain rfl := hmake (hta.trans ha.symm)
    exact .ofDeclared ht
  | ofSupplied hd h =>
    obtain ⟨t, ht, hta⟩ := Option.map_eq_some_iff.1 h
    obtain rfl := hmake (hta.trans ha.symm)
    exact .ofSupplied (Option.map_eq_none_iff.1 hd) ht
  | ofFixed hd h => exact absurd ha hfixed

theorem Step.Realizes.inForce {step : Step} {s : Source} {h : Invocation} {d : Option Definition}
    (hr : step.Realizes s h d) {text : String}
    (ht : step.files = .pattern text ∨ step.exclude = some text) :
    InForce h.files (d.bind (·.files)) text ∨ InForce h.exclude (d.bind (·.exclude)) text := by
  rcases ht with ht | ht
  · have hf := hr.files
    rw [ht] at hf
    exact Or.inl (inForce_of_settled (fun _ _ => FileFilter.pattern.inj) (by simp) hf)
  · have he := hr.exclude
    rw [ht] at he
    exact Or.inr (inForce_of_settled (Option.some_injective _) (by simp) he)

/-- The entry that names an invocation in full. -/
def Invocation.entry (h : Invocation) (s : Source) (i j : ℕ) : EntryRef where
  repoIndex := some i
  location := some s.location
  revision := some s.revision
  hookIndex := some j
  hookId := some h.id

namespace Configuration

/-- The errors of patterns that point where they belong: nowhere if the configuration's own
pattern does not compile, else at the invocation for which a pattern that does not is in force. -/
inductive Blamed (cat : Catalog) (c : Configuration) : Error → Prop where
  | whole {text : String} {fault : Pattern.Fault} (h : c.exclude = some text)
    (hc : Pattern.compile text = .error fault) : Blamed cat c (.invalidPattern {} text fault)
  | hook {i j : ℕ} {s : Source} {h : Invocation} {d : Option Definition} {text : String}
    {fault : Pattern.Fault} (hi : c.Invokes i j s h) (hd : cat s.location s.revision h.id = .ok d)
    (ht : InForce h.files (d.bind (·.files)) text ∨ InForce h.exclude (d.bind (·.exclude)) text)
    (hc : Pattern.compile text = .error fault) :
    Blamed cat c (.invalidPattern (h.entry s i j) text fault)

/-- A step stands where its invocation does, and holds what that declares or is supplied with. -/
theorem exists_invokes_of_mem_steps (hp : c.resolve cat = .ok p) {step : Step}
    (hs : step ∈ p.steps) :
    ∃ s h d, c.Invokes step.repoIndex step.hookIndex s h ∧
      cat s.location s.revision h.id = .ok d ∧ step.Realizes s h d := by
  obtain ⟨-, hsteps, -⟩ := resolve_eq_ok_iff.1 hp
  obtain ⟨x, hx, hxs⟩ := exists_of_mem_right hsteps hs
  obtain ⟨d, hd, rfl⟩ := stepAt_eq_ok_iff.1 hxs
  exact ⟨x.outer, x.inner, d, mem_places.1 hx, hd, x.inner.step_realizes _ _ _ _⟩

/-- A configuration that is valid has no blank text that its entries would leave out. -/
theorem Invokes.entry_eq {i j : ℕ} {s : Source} {h : Invocation} (hi : c.Invokes i j s h)
    (hv : c.validate = .ok ()) :
    (EntryRef.source i s.location s.revision).hook j h.id = h.entry s i j := by
  have hs : s.Valid := validate_eq_ok_iff.1 hv s (List.mem_of_getElem? hi.1)
  have key : ∀ {t : String}, Unicode.isBlankText t = false → EntryRef.nonEmpty t = some t := by
    intro t ht
    rw [EntryRef.nonEmpty, if_neg (by simpa using ne_empty_of_not_blank ht)]
  rw [EntryRef.source, EntryRef.hook, key hs.location, key hs.revision,
    key (hs.ids h (List.mem_of_getElem? hi.2))]
  rfl

/-- The problems of a plan are blamed on the configuration that it was resolved from, also after
it was restricted. -/
theorem blamed_of_mem_problems (hp : c.resolve cat = .ok p) (hq : p.Narrows q)
    (he : e ∈ q.problems) : c.Blamed cat e := by
  obtain ⟨hsub, hex⟩ := hq.sublist
  obtain ⟨hv, -, hexclude, -⟩ := resolve_eq_ok_iff.1 hp
  obtain ⟨⟨entry, text⟩, hs, fault, hc, rfl⟩ := Plan.exists_source_of_mem_problems he
  rcases Plan.mem_patternSources.1 hs with ⟨ht, hentry⟩ | ⟨step, hstep, hentry, ht⟩
  · cases hentry
    exact .whole (by rw [← hexclude, ← hex, ht]) hc
  · obtain ⟨s, h, d, hi, hd, hr⟩ := exists_invokes_of_mem_steps hp (hsub.subset hstep)
    have hplace : entry = h.entry s step.repoIndex step.hookIndex := by
      rw [← hi.entry_eq hv, ← hr.location, ← hr.revision, ← hr.hookId]
      exact hentry
    rw [hplace]
    exact .hook hi hd (hr.inForce ht) hc

end Configuration

/-! ### Complaints -/

/-- The errors that a matcher answers with, and those of a check of its plan. -/
inductive Matcher.Complains (m : Matcher) (e : Error) : Prop where
  | triggers {i : ℕ} {path : String} (h : (m.triggers i path).1 = .error e)
  | select {paths : List String} (h : (m.select paths).1 = .error e)
  | problems (h : e ∈ m.problems.1)
  | check (h : e ∈ m.plan.check.problems)

theorem Matcher.Complains.mem_problems {m : Matcher} (hm : m.Reachable q) (h : m.Complains e) :
    e ∈ q.problems := by
  cases h with
  | triggers h =>
    rw [(hm.sound.triggers _ _).1] at h
    exact Plan.mem_problems_of_triggers_eq_error h
  | select h =>
    rw [(hm.sound.select _).1] at h
    exact Plan.mem_problems_of_select_eq_error h
  | problems h => rwa [hm.sound.problems.1] at h
  | check h => rwa [hm.sound.plan, Plan.check_problems] at h

/-- **The error of a pattern blames the right place.** Take the plan of a configuration, restrict
it any number of times and put any questions to a matcher of what is left. Each error then has no
entry and is about the configuration's own pattern, or has the indices and the names of an
invocation and is about a pattern in force there; and that pattern does not compile. -/
theorem blamed_of_complains (hp : c.resolve cat = .ok p) (hq : p.Narrows q) {m : Matcher}
    (hm : m.Reachable q) (he : m.Complains e) : c.Blamed cat e :=
  Configuration.blamed_of_mem_problems hp hq (he.mem_problems hm)

/-- The second hook of the second source is the first step of a restricted plan. Its supplied
pattern does not compile, and is blamed on where it stands in the configuration. -/
theorem blamed_of_complains_restricted :
    ∃ (p q : Plan) (m : Matcher) (e : Error),
      Configuration.resolve
        (fun _ _ id => .ok (if id = "y" then some { id, files := some "(" } else none))
        { sources := [⟨"a", "1", [{ id := "x" }]⟩, ⟨"b", "2", [{ id := "x" }, { id := "y" }]⟩] } =
          .ok p ∧
      p.retain "y" = .ok q ∧ m.Reachable q ∧ (m.triggers 0 "z").1 = .error e ∧
      e.entry? = some (Invocation.entry { id := "y" } ⟨"b", "2", []⟩ 1 1) ∧
      Configuration.Blamed
        (fun _ _ id => .ok (if id = "y" then some { id, files := some "(" } else none))
        { sources := [⟨"a", "1", [{ id := "x" }]⟩, ⟨"b", "2", [{ id := "x" }, { id := "y" }]⟩] }
        e := by
  have hp : Configuration.resolve
      (fun _ _ id => .ok (if id = "y" then some { id, files := some "(" } else none))
      { sources := [⟨"a", "1", [{ id := "x" }]⟩, ⟨"b", "2", [{ id := "x" }, { id := "y" }]⟩] } =
        .ok _ := rfl
  refine ⟨_, _, _, _, hp, rfl, .start, rfl, rfl, ?_⟩
  exact blamed_of_complains hp (.retain .refl (show Plan.retain _ "y" = _ from rfl)) .start
    (.triggers (show (Matcher.triggers _ 0 "z").1 = _ from rfl))

end HookPlan
