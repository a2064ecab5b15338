import HookPlan.Proofs.Traversal
import HookPlan.Resolve

/-!
# What resolution yields

Resolution walks through the invocations of a configuration that was found valid, and asks the
catalog about each.

* `resolve_all_or_nothing`: a broken rule wins over every lookup that fails; of these the one
  at the least position wins; and only without both is there a plan.
* `resolve_steps`: the steps of a plan are the invocations in their order, each with what it
  declares, else with what the catalog supplies, else with a fixed value.
-/

namespace HookPlan

open Cell (cells cellsFrom rowFrom)

variable {cat : Catalog} {c : Configuration} {p : Plan}

/-! ### The walk -/

namespace Configuration

/-- `h` is the invocation with index `j` in the source `s` with index `i`. -/
def Invokes (c : Configuration) (i j : ℕ) (s : Source) (h : Invocation) : Prop :=
  c.sources[i]? = some s ∧ s.hooks[j]? = some h

/-- The invocations with their places, in the order of the configuration. -/
def places (c : Configuration) : List (Cell Source Invocation) := cells Source.hooks c.sources

theorem mem_places {x : Cell Source Invocation} :
    x ∈ c.places ↔ c.Invokes x.row x.column x.outer x.inner := Cell.mem_cells

theorem length_places (c : Configuration) : c.places.length = c.invocationCount := by
  rw [invocationCount, ← Cell.map_inner_cells Source.hooks c.sources, List.length_map]
  rfl

/-- The step of the invocation at a place. -/
def stepAt (cat : Catalog) (x : Cell Source Invocation) : Except Error Step :=
  x.outer.resolveHook cat x.row x.column x.inner

theorem stepAt_eq_ok_iff {x : Cell Source Invocation} {step : Step} :
    stepAt cat x = .ok step ↔ ∃ d, cat x.outer.location x.outer.revision x.inner.id = .ok d ∧
      step = x.inner.step x.outer x.row x.column d := by
  unfold stepAt Source.resolveHook
  cases cat x.outer.location x.outer.revision x.inner.id <;> simp [eq_comm]

theorem stepAt_eq_error_iff {x : Cell Source Invocation} {e : Error} :
    stepAt cat x = .error e ↔
      ∃ reason, cat x.outer.location x.outer.revision x.inner.id = .error reason ∧
        e = .unresolvable ((EntryRef.source x.row x.outer.location x.outer.revision).hook
          x.column x.inner.id) reason := by
  unfold stepAt Source.resolveHook
  cases cat x.outer.location x.outer.revision x.inner.id <;> simp [eq_comm]

theorem resolveFrom_eq_mapM (cat : Catalog) (s : Source) (i j : ℕ) (hs : List Invocation) :
    s.resolveFrom cat i j hs = (rowFrom i s j hs).mapM (stepAt cat) := by
  induction hs generalizing j with
  | nil => rfl
  | cons h hs ih =>
    rw [Source.resolveFrom, Cell.rowFrom_cons, List.mapM_cons, ih]
    rfl

/-- **Resolution is one walk** through the places of a configuration. -/
theorem stepsFrom_eq_mapM (cat : Catalog) (i : ℕ) (ss : List Source) :
    stepsFrom cat i ss = (cellsFrom Source.hooks i ss).mapM (stepAt cat) := by
  induction ss generalizing i with
  | nil => rfl
  | cons s ss ih =>
    rw [stepsFrom, Cell.cellsFrom_cons, List.mapM_append, ih, Source.resolve, resolveFrom_eq_mapM]

theorem resolve_eq (cat : Catalog) (c : Configuration) :
    c.resolve cat = do
      c.validate
      let steps ← c.places.mapM (stepAt cat)
      return ⟨steps, c.exclude, c.failFast⟩ := by
  rw [resolve, stepsFrom_eq_mapM]
  rfl

theorem resolve_eq_ok_iff :
    c.resolve cat = .ok p ↔ c.validate = .ok () ∧
      List.Forall₂ (fun x step => stepAt cat x = .ok step) c.places p.steps ∧
      p.exclude = c.exclude ∧ p.failFast = c.failFast := by
  simp only [resolve_eq, bind_eq_ok_iff, mapM_eq_ok_iff]
  constructor
  · rintro ⟨⟨⟩, hv, steps, hs, h⟩
    cases h
    exact ⟨hv, hs, rfl, rfl⟩
  · rintro ⟨hv, hs, he, hf⟩
    refine ⟨(), hv, p.steps, hs, ?_⟩
    rw [← he, ← hf]
    rfl

theorem resolve_eq_error_iff {e : Error} :
    c.resolve cat = .error e ↔ c.validate = .error e ∨
      c.validate = .ok () ∧ c.places.mapM (stepAt cat) = .error e := by
  simp only [resolve_eq, bind_eq_error_iff]
  constructor
  · rintro (h | ⟨⟨⟩, hv, h | ⟨steps, -, h⟩⟩)
    · exact Or.inl h
    · exact Or.inr ⟨hv, h⟩
    · cases h
  · rintro (h | ⟨hv, h⟩)
    · exact Or.inl h
    · exact Or.inr ⟨(), hv, Or.inl h⟩

/-- Only a lookup can fail once a configuration is valid. -/
theorem walk_eq_error_of_valid {e : Error} (hv : c.validate = .ok ())
    (he : c.resolve cat = .error e) : c.places.mapM (stepAt cat) = .error e := by
  obtain hinvalid | ⟨-, hw⟩ := resolve_eq_error_iff.1 he
  · rw [hv] at hinvalid
    cases hinvalid
  · exact hw

/-! ### Which error wins -/

/-- The positions of the invocations that the catalog has no answer for. -/
def failures (cat : Catalog) (c : Configuration) : Set (ℕ ×ₗ ℕ) :=
  {x | ∃ s h reason, c.Invokes (ofLex x).1 (ofLex x).2 s h ∧
    cat s.location s.revision h.id = .error reason}

theorem faults_places : Cell.faults (stepAt cat) c.places = c.failures cat := by
  ext y
  constructor
  · rintro ⟨x, hx, rfl, e, he⟩
    obtain ⟨reason, hr, -⟩ := stepAt_eq_error_iff.1 he
    exact ⟨x.outer, x.inner, reason, mem_places.1 hx, hr⟩
  · rintro ⟨s, h, reason, hinv, hr⟩
    exact ⟨⟨_, _, s, h⟩, mem_places.2 hinv, rfl, _, stepAt_eq_error_iff.2 ⟨reason, hr, rfl⟩⟩

/-- **The walk fails as the least failing lookup does.** -/
theorem walk_eq_error_iff {e : Error} :
    c.places.mapM (stepAt cat) = .error e ↔
      ∃ i j s h reason, IsLeast (c.failures cat) (toLex (i, j)) ∧ c.Invokes i j s h ∧
        cat s.location s.revision h.id = .error reason ∧
        e = .unresolvable ((EntryRef.source i s.location s.revision).hook j h.id) reason := by
  rw [← faults_places]
  constructor
  · intro he
    obtain ⟨x, hx, hl, hxe⟩ := Cell.mapM_cells_eq_error_iff.1 he
    obtain ⟨reason, hr, rfl⟩ := stepAt_eq_error_iff.1 hxe
    exact ⟨x.row, x.column, x.outer, x.inner, reason, hl, mem_places.1 hx, hr, rfl⟩
  · rintro ⟨i, j, s, h, reason, hl, hinv, hr, rfl⟩
    exact Cell.mapM_cells_eq_error_iff.2
      ⟨⟨i, j, s, h⟩, mem_places.2 hinv, hl, stepAt_eq_error_iff.2 ⟨reason, hr, rfl⟩⟩

/-- The walk succeeds iff no lookup fails. -/
theorem walk_isOk_iff :
    (∃ steps, c.places.mapM (stepAt cat) = .ok steps) ↔ c.failures cat = ∅ := by
  rw [Cell.exists_mapM_eq_ok_iff_faults, faults_places]

theorem failures_declaredOnly (c : Configuration) : c.failures .declaredOnly = ∅ := by
  ext x
  simp [failures, Catalog.declaredOnly]

/-- **Resolution is all or nothing.** A rule that the configuration breaks is the error,
whatever the catalog answers. Otherwise the lookup that fails at the least position is. Without
either there is a plan, so without a catalog only a broken rule is an error. -/
theorem resolve_all_or_nothing (cat : Catalog) (c : Configuration) :
    (∀ e, c.validate = .error e → c.resolve cat = .error e) ∧
    (c.validate = .ok () → (c.failures cat).Nonempty →
      ∃ i j s h reason, IsLeast (c.failures cat) (toLex (i, j)) ∧ c.Invokes i j s h ∧
        cat s.location s.revision h.id = .error reason ∧
        c.resolve cat = .error (.unresolvable
          ((EntryRef.source i s.location s.revision).hook j h.id) reason)) ∧
    ((∃ p, c.resolve cat = .ok p) ↔ c.validate = .ok () ∧ c.failures cat = ∅) ∧
    ∀ e, c.resolve .declaredOnly = .error e ↔ c.validate = .error e := by
  have hplan : ∀ cat, (∃ p, c.resolve cat = .ok p) ↔ c.validate = .ok () ∧ c.failures cat = ∅ := by
    intro cat
    rw [← walk_isOk_iff]
    constructor
    · rintro ⟨p, hp⟩
      obtain ⟨hv, hs, -⟩ := resolve_eq_ok_iff.1 hp
      exact ⟨hv, p.steps, mapM_eq_ok_iff.2 hs⟩
    · rintro ⟨hv, steps, hs⟩
      exact ⟨⟨steps, c.exclude, c.failFast⟩,
        resolve_eq_ok_iff.2 ⟨hv, mapM_eq_ok_iff.1 hs, rfl, rfl⟩⟩
  refine ⟨fun e h => resolve_eq_error_iff.2 (Or.inl h), ?_, hplan cat, fun e => ⟨fun h => ?_,
    fun h => resolve_eq_error_iff.2 (Or.inl h)⟩⟩
  · intro hv hne
    -- a walk that meets a failing lookup cannot succeed, so it fails as the least one
    cases hw : c.places.mapM (stepAt cat) with
    | ok steps => exact absurd (walk_isOk_iff.1 ⟨steps, hw⟩) hne.ne_empty
    | error e =>
      obtain ⟨i, j, s, h, reason, hl, hinv, hr, rfl⟩ := walk_eq_error_iff.1 hw
      exact ⟨i, j, s, h, reason, hl, hinv, hr, resolve_eq_error_iff.2 (Or.inr ⟨hv, hw⟩)⟩
  · obtain hv | ⟨hv, -⟩ := resolve_eq_error_iff.1 h
    · exact hv
    · obtain ⟨p, hp⟩ := (hplan .declaredOnly).2 ⟨hv, failures_declaredOnly c⟩
      rw [hp] at h
      cases h

/-- A blank revision in the last source wins over a lookup that fails in the first; once it is
filled in, a lookup is the error. -/
theorem resolve_all_or_nothing_blank_revision :
    (∃ e, validate { sources := [⟨"a", "1", [{ id := "x" }]⟩, ⟨"b", " ", [{ id := "y" }]⟩] } =
        .error e ∧
      resolve (fun _ _ _ => .error "unknown")
        { sources := [⟨"a", "1", [{ id := "x" }]⟩, ⟨"b", " ", [{ id := "y" }]⟩] } = .error e) ∧
    ∃ i j s h, Invokes { sources := [⟨"a", "1", [{ id := "x" }]⟩, ⟨"b", "2", [{ id := "y" }]⟩] }
        i j s h ∧
      resolve (fun _ _ _ => .error "unknown")
          { sources := [⟨"a", "1", [{ id := "x" }]⟩, ⟨"b", "2", [{ id := "y" }]⟩] } =
        .error (.unresolvable ((EntryRef.source i s.location s.revision).hook j h.id) "unknown") := by
  constructor
  · exact ⟨_, rfl, (resolve_all_or_nothing _ _).1 _ rfl⟩
  · obtain ⟨i, j, s, h, reason, -, hinv, hr, he⟩ :=
      (resolve_all_or_nothing (fun _ _ _ => .error "unknown")
        { sources := [⟨"a", "1", [{ id := "x" }]⟩, ⟨"b", "2", [{ id := "y" }]⟩] }).2.1 rfl
        ⟨toLex (0, 0), _, _, _, ⟨rfl, rfl⟩, rfl⟩
    cases hr
    exact ⟨i, j, s, h, hinv, he⟩

end Configuration

/-! ### What a step holds -/

/-- How the value of a field is settled: what is declared, else what is supplied, else a fixed
value. A declared value counts even if it is empty. -/
inductive Settled {α : Type} (declared supplied : Option α) (fixed : α) : α → Prop where
  | ofDeclared {v : α} (h : declared = some v) : Settled declared supplied fixed v
  | ofSupplied {v : α} (hd : declared = none) (h : supplied = some v) :
    Settled declared supplied fixed v
  | ofFixed (hd : declared = none) (h : supplied = none) : Settled declared supplied fixed fixed

theorem settled_getD {α : Type} (declared supplied : Option α) (fixed : α) :
    Settled declared supplied fixed ((declared <|> supplied).getD fixed) := by
  cases declared with
  | some v => exact .ofDeclared rfl
  | none =>
    cases supplied with
    | some v => exact .ofSupplied rfl rfl
    | none => exact .ofFixed rfl rfl

namespace Step

def position (step : Step) : ℕ ×ₗ ℕ := toLex (step.repoIndex, step.hookIndex)

/-- A step that runs the invocation `h` of the source `s`, whose defaults are `d`. -/
structure Realizes (step : Step) (s : Source) (h : Invocation) (d : Option Definition) : Prop where
  location : step.location = s.location
  revision : step.revision = s.revision
  hookId : step.hookId = h.id
  name : Settled h.name (d.bind (·.name)) h.id step.name
  args : Settled h.args (d.map (·.args)) [] step.args
  files : Settled (h.files.map FileFilter.pattern) ((d.bind (·.files)).map FileFilter.pattern) .all
    step.files
  exclude : Settled (h.exclude.map some) ((d.bind (·.exclude)).map some) none step.exclude

end Step

theorem Invocation.step_realizes (h : Invocation) (s : Source) (i j : ℕ) (d : Option Definition) :
    (h.step s i j d).Realizes s h d where
  location := rfl
  revision := rfl
  hookId := rfl
  name := settled_getD _ _ _
  args := settled_getD _ _ _
  files := by
    have hf : (h.step s i j d).files =
        (h.files.map FileFilter.pattern <|>
          (d.bind (·.files)).map FileFilter.pattern).getD .all := by
      cases hh : h.files <;> cases hd : d.bind (·.files) <;>
        simp [Invocation.step, hh, hd, FileFilter.ofDeclared]
    rw [hf]
    exact settled_getD _ _ _
  exclude := by
    have he : (h.step s i j d).exclude =
        (h.exclude.map some <|> (d.bind (·.exclude)).map some).getD none := by
      cases hh : h.exclude <;> cases hd : d.bind (·.exclude) <;> simp [Invocation.step, hh, hd]
    rw [he]
    exact settled_getD _ _ _

namespace Configuration

theorem map_position_steps (h : c.resolve cat = .ok p) :
    p.steps.map Step.position = c.places.map Cell.position := by
  obtain ⟨-, hs, -⟩ := resolve_eq_ok_iff.1 h
  have key : List.Forall₂ (· = ·) (c.places.map Cell.position) (p.steps.map Step.position) := by
    rw [List.forall₂_map_left_iff, List.forall₂_map_right_iff]
    refine hs.imp fun x step hstep => ?_
    obtain ⟨d, -, rfl⟩ := stepAt_eq_ok_iff.1 hstep
    rfl
  rw [List.forall₂_eq_eq_eq] at key
  exact key.symm

/-- **The steps of a plan are the invocations.** There are as many of both; the positions of
the steps rise strictly and are exactly those of the invocations; and the step at a position
holds what the invocation there declares, else what the catalog supplies. -/
theorem resolve_steps (h : c.resolve cat = .ok p) :
    p.size = c.invocationCount ∧
    (p.steps.map Step.position).SortedLT ∧
    (∀ i j, toLex (i, j) ∈ p.steps.map Step.position ↔ ∃ s h, c.Invokes i j s h) ∧
    (∀ step ∈ p.steps, ∃ s h d, c.Invokes step.repoIndex step.hookIndex s h ∧
      cat s.location s.revision h.id = .ok d ∧ step.Realizes s h d) ∧
    p.exclude = c.exclude ∧ p.failFast = c.failFast := by
  obtain ⟨-, hs, he, hf⟩ := resolve_eq_ok_iff.1 h
  have hpos := map_position_steps h
  refine ⟨?_, ?_, ?_, ?_, he, hf⟩
  · rw [Plan.size, ← length_places, hs.length_eq]
  · rw [hpos, List.sortedLT_iff_pairwise, List.pairwise_map]
    exact Cell.cells_sorted _ _
  · intro i j
    rw [hpos, List.mem_map]
    constructor
    · rintro ⟨x, hx, hxp⟩
      cases hxp
      exact ⟨x.outer, x.inner, mem_places.1 hx⟩
    · rintro ⟨s, hk, hinv⟩
      exact ⟨⟨i, j, s, hk⟩, mem_places.2 hinv, rfl⟩
  · intro step hstep
    obtain ⟨x, hx, hxs⟩ := exists_of_mem_right hs hstep
    obtain ⟨d, hd, rfl⟩ := stepAt_eq_ok_iff.1 hxs
    exact ⟨x.outer, x.inner, d, mem_places.1 hx, hd, x.inner.step_realizes _ _ _ _⟩

/-- A source that is listed twice, and twice the same hook in it, make three steps. -/
theorem resolve_steps_repeated :
    ∃ p, Configuration.resolve
        (fun _ _ _ => .ok (some { id := "x", name := some "X", args := ["-v"] }))
        { failFast := true
          sources := [⟨"a", "1", [{ id := "x", args := some [] }, { id := "x" }]⟩,
            ⟨"a", "1", [{ id := "x", name := some "" }]⟩] } = .ok p ∧
      p.size = 3 ∧ (p.steps.map Step.position).SortedLT ∧
      toLex (1, 0) ∈ p.steps.map Step.position ∧ p.failFast = true := by
  have h : Configuration.resolve
      (fun _ _ _ => .ok (some { id := "x", name := some "X", args := ["-v"] }))
      { failFast := true
        sources := [⟨"a", "1", [{ id := "x", args := some [] }, { id := "x" }]⟩,
          ⟨"a", "1", [{ id := "x", name := some "" }]⟩] } = .ok _ := rfl
  obtain ⟨hsize, hsorted, hpos, -, -, hfast⟩ := resolve_steps h
  exact ⟨_, h, hsize, hsorted, (hpos 1 0).2 ⟨_, _, rfl, rfl⟩, hfast⟩

end Configuration

end HookPlan
