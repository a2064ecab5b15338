import HookPlan.Proofs.Kept
import HookPlan.Proofs.Trigger

/-!
# What a selection lists

A selection is a walk through the steps of a plan, and for each step through the paths.

* `selectFrom_eq_error_iff`: the walk fails as its first pair that cannot be decided does.
* `exists_select_eq_ok_iff`: it succeeds iff all pairs can be decided.
* `selectFrom_eq_ok`: then it lists the steps that some path triggers, each with its paths.
* `select_agrees_with_triggers`: both, of a matcher that was asked other questions before.
-/

namespace HookPlan

open Cell (cells cellsFrom rowFrom)

variable {p : Plan} {paths : List String} {found : List Selection} {e : Error}

/-- The pairs of a step and a path, by their indices, that a question has no answer for. -/
def undecided (ask : ℕ → String → Except Error Bool) (size : ℕ) (paths : List String) :
    Set (ℕ ×ₗ ℕ) :=
  {x | (ofLex x).1 < size ∧
    ∃ path e, paths[(ofLex x).2]? = some path ∧ ask (ofLex x).1 path = .error e}

namespace Plan

/-- Whether a path triggers the step at a place. -/
def triggerAt (p : Plan) (x : Cell Step String) : Except Error Bool := p.triggers x.row x.inner

def isTriggered (p : Plan) (i : ℕ) (path : String) : Bool :=
  (p.triggers i path).toOption == some true

theorem isTriggered_iff {i : ℕ} {path : String} :
    p.isTriggered i path = true ↔ p.triggers i path = .ok true := by
  unfold isTriggered
  cases p.triggers i path <;> simp [Except.toOption]

/-- The paths that trigger a step, in the form in which they were matched. -/
def pathsOf (p : Plan) (paths : List String) (i : ℕ) : List String :=
  (paths.filter (p.isTriggered i)).map normalizePath

theorem isEmpty_pathsOf (p : Plan) (paths : List String) (i : ℕ) :
    (p.pathsOf paths i).isEmpty = !paths.any (p.isTriggered i) := by
  rw [pathsOf, Bool.eq_iff_iff]
  simp [List.filter_eq_nil_iff]

/-! ### One step -/

theorem triggering_eq_ok {i : ℕ} {paths found : List String}
    (h : p.triggering i paths = .ok found) : found = p.pathsOf paths i := by
  induction paths generalizing found with
  | nil => cases h; rfl
  | cons path paths ih =>
    rw [triggering_cons] at h
    obtain ⟨isTriggered, hb, h⟩ := bind_eq_ok_iff.1 h
    obtain ⟨more, hmore, h⟩ := bind_eq_ok_iff.1 h
    have hi : p.isTriggered i path = isTriggered := by
      cases isTriggered <;> simp [Plan.isTriggered, hb, Except.toOption]
    cases h
    rw [ih hmore, pathsOf, pathsOf, List.filter_cons, hi]
    cases isTriggered <;> rfl

theorem triggering_eq_error_iff (i : ℕ) (step : Step) (j : ℕ) :
    p.triggering i paths = .error e ↔ (rowFrom i step j paths).mapM p.triggerAt = .error e := by
  induction paths generalizing j with
  | nil => exact ⟨nofun, nofun⟩
  | cons path paths ih =>
    rw [triggering_cons, Cell.rowFrom_cons, List.mapM_cons, bind_eq_error_iff, bind_eq_error_iff]
    simp only [bind_pure_eq_error_iff, ih (j + 1)]
    rfl

theorem exists_triggering_eq_ok_iff (i : ℕ) (step : Step) (j : ℕ) :
    (∃ found, p.triggering i paths = .ok found) ↔
      ∃ bs, (rowFrom i step j paths).mapM p.triggerAt = .ok bs := by
  cases ht : p.triggering i paths with
  | error e => simp [(triggering_eq_error_iff i step j).1 ht]
  | ok found =>
    cases hw : (rowFrom i step j paths).mapM p.triggerAt with
    | error e => rw [(triggering_eq_error_iff i step j).2 hw] at ht; cases ht
    | ok bs => simp

/-! ### All steps -/

/-- **A selection fails as its walk does.** -/
theorem selectFrom_eq_error_iff {i : ℕ} {steps : List Step} :
    p.selectFrom paths i steps = .error e ↔
      (cellsFrom (fun _ => paths) i steps).mapM p.triggerAt = .error e := by
  induction steps generalizing i with
  | nil => exact ⟨nofun, nofun⟩
  | cons step steps ih =>
    rw [selectFrom_cons, Cell.cellsFrom_cons, List.mapM_append, bind_eq_error_iff,
      bind_eq_error_iff, triggering_eq_error_iff i step 0]
    -- what was found at the first step has no part in how the others fail
    simp only [bind_pure_eq_error_iff, exists_and_right, ih]
    rw [exists_triggering_eq_ok_iff i step 0]

/-- **A selection that succeeds** lists the steps that some path triggers. -/
theorem selectFrom_eq_ok {i : ℕ} {steps : List Step}
    (h : p.selectFrom paths i steps = .ok found) :
    found = ((steps.zipIdx i).filter fun x => paths.any (p.isTriggered x.2)).map
      fun x => ⟨x.1, p.pathsOf paths x.2⟩ := by
  induction steps generalizing i found with
  | nil => cases h; rfl
  | cons step steps ih =>
    rw [selectFrom_cons] at h
    obtain ⟨hits, hhits, h⟩ := bind_eq_ok_iff.1 h
    obtain ⟨more, hmore, h⟩ := bind_eq_ok_iff.1 h
    obtain rfl := triggering_eq_ok hhits
    cases h
    rw [ih hmore, List.zipIdx_cons, List.filter_cons, isEmpty_pathsOf]
    cases paths.any (p.isTriggered i) <;> rfl

theorem faults_pairs (p : Plan) (paths : List String) :
    Cell.faults p.triggerAt (cells (fun _ => paths) p.steps) =
      undecided p.triggers p.size paths := by
  ext y
  constructor
  · rintro ⟨x, hx, rfl, e, he⟩
    obtain ⟨hrow, hcol⟩ := Cell.mem_cells.1 hx
    exact ⟨(List.getElem?_eq_some_iff.1 hrow).1, x.inner, e, hcol, he⟩
  · rintro ⟨hi, path, e, hpath, he⟩
    exact ⟨⟨_, _, p.steps[(ofLex y).1], path⟩,
      Cell.mem_cells.2 ⟨List.getElem?_eq_getElem hi, hpath⟩, rfl, e, he⟩

/-- **A selection fails as the least pair that cannot be decided does.** -/
theorem select_eq_error_iff :
    p.select paths = .error e ↔ ∃ i k path,
      IsLeast (undecided p.triggers p.size paths) (toLex (i, k)) ∧
        paths[k]? = some path ∧ p.triggers i path = .error e := by
  rw [select_eq, selectFrom_eq_error_iff, ← cells, Cell.mapM_cells_eq_error_iff, faults_pairs]
  constructor
  · rintro ⟨x, hx, hl, he⟩
    exact ⟨x.row, x.column, x.inner, hl, (Cell.mem_cells.1 hx).2, he⟩
  · rintro ⟨i, k, path, hl, hpath, he⟩
    have hstep := List.getElem?_eq_getElem (l := p.steps) hl.1.1
    exact ⟨⟨i, k, _, path⟩, Cell.mem_cells.2 ⟨hstep, hpath⟩, hl, he⟩

theorem exists_select_eq_error_iff :
    (∃ e, p.select paths = .error e) ↔
      ∃ i < p.size, ∃ path ∈ paths, ∃ e, p.triggers i path = .error e := by
  constructor
  · rintro ⟨e, h⟩
    obtain ⟨i, k, path, hl, hpath, he⟩ := select_eq_error_iff.1 h
    exact ⟨i, hl.1.1, path, List.mem_of_getElem? hpath, e, he⟩
  · rintro ⟨i, hi, path, hpath, e, he⟩
    obtain ⟨k, hk⟩ := List.mem_iff_getElem?.1 hpath
    have hmem : toLex (i, k) ∈ undecided p.triggers p.size paths := ⟨hi, path, e, hk, he⟩
    rw [← faults_pairs] at hmem
    rw [select_eq]
    cases hw : (cells (fun _ => paths) p.steps).mapM p.triggerAt with
    | error e' => exact ⟨e', selectFrom_eq_error_iff.2 hw⟩
    | ok bs =>
      -- a walk that succeeds leaves no pair undecided
      rw [Cell.exists_mapM_eq_ok_iff_faults.1 ⟨bs, hw⟩] at hmem
      exact absurd hmem (Set.notMem_empty _)

/-- A selection succeeds unless some path cannot be decided. -/
theorem exists_select_eq_ok_iff :
    (∃ found, p.select paths = .ok found) ↔
      ∀ path ∈ paths, ∀ i < p.size, ∃ b, p.triggers i path = .ok b := by
  simp only [exists_eq_ok_iff, exists_select_eq_error_iff]
  constructor
  · intro h path hpath i hi he
    exact h ⟨i, hi, path, hpath, he⟩
  · rintro h ⟨i, hi, path, hpath, he⟩
    exact h path hpath i hi he

/-- The steps of a selection that succeeds, by their indices. -/
theorem exists_indices_of_select_eq_ok (h : p.select paths = .ok found) :
    ∃ indices : List ℕ, indices.SortedLT ∧
      (∀ i, i ∈ indices ↔ i < p.size ∧ ∃ path ∈ paths, p.triggers i path = .ok true) ∧
      List.Forall₂ (fun i s => p.steps[i]? = some s.step ∧ s.paths = p.pathsOf paths i)
        indices found := by
  rw [select_eq] at h
  rw [selectFrom_eq_ok h]
  set hits := p.steps.zipIdx.filter fun x => paths.any (p.isTriggered x.2) with hhits
  have hin : ∀ x ∈ hits, p.steps[x.2]? = some x.1 := fun x hx =>
    List.mem_zipIdx_iff_getElem?.1 (List.mem_of_mem_filter hx)
  refine ⟨hits.map Prod.snd, ?_, ?_, ?_⟩
  · have hsub : (hits.map Prod.snd).Sublist (p.steps.zipIdx.map Prod.snd) :=
      List.filter_sublist.map _
    rw [List.zipIdx_map_snd] at hsub
    exact (List.Pairwise.sublist hsub List.pairwise_lt_range').sortedLT
  · intro i
    simp only [hhits, List.mem_map, List.mem_filter, List.any_eq_true, isTriggered_iff]
    constructor
    · rintro ⟨x, ⟨hx, ht⟩, rfl⟩
      exact ⟨(List.getElem?_eq_some_iff.1 (List.mem_zipIdx_iff_getElem?.1 hx)).1, ht⟩
    · rintro ⟨hi, ht⟩
      have hmem := List.mk_mem_zipIdx_iff_getElem?.2 (List.getElem?_eq_getElem hi)
      exact ⟨(p.steps[i], i), ⟨hmem, ht⟩, rfl⟩
  · rw [List.forall₂_map_left_iff, List.forall₂_map_right_iff, List.forall₂_same]
    exact fun x hx => ⟨hin x hx, rfl⟩

end Plan

/-! ### Selections and single questions -/

/-- **A selection agrees with the questions that it is made of**, asked one by one. It fails iff
one of them does, and then as the one with the least step and for it the least path. Otherwise
it lists the steps that some path triggers, once each and in the order of the plan, and each
with the normalized forms of all paths that trigger it, in their order. Without any paths it is
empty, whatever the patterns are. -/
theorem select_agrees_with_triggers {m : Matcher} (hm : m.Reachable p) (paths : List String) :
    ((∃ e, (m.select paths).1 = .error e) ↔
      ∃ i < p.size, ∃ path ∈ paths, ∃ e, (m.triggers i path).1 = .error e) ∧
    (∀ i k path e,
      IsLeast (undecided (fun i path => (m.triggers i path).1) p.size paths) (toLex (i, k)) →
      paths[k]? = some path → (m.triggers i path).1 = .error e →
      (m.select paths).1 = .error e) ∧
    (∀ found, (m.select paths).1 = .ok found → ∃ indices : List ℕ, indices.SortedLT ∧
      (∀ i, i ∈ indices ↔ i < p.size ∧ ∃ path ∈ paths, (m.triggers i path).1 = .ok true) ∧
      List.Forall₂ (fun i s => p.steps[i]? = some s.step ∧
        s.paths = (paths.filter fun path =>
          (m.triggers i path).1.toOption == some true).map normalizePath) indices found) ∧
    (m.select []).1 = .ok [] := by
  have hsel : ∀ paths, (m.select paths).1 = p.select paths := fun paths =>
    (hm.sound.select paths).1
  have htrig : ∀ i path, (m.triggers i path).1 = p.triggers i path := fun i path =>
    (hm.sound.triggers i path).1
  simp only [hsel, htrig]
  refine ⟨Plan.exists_select_eq_error_iff, ?_,
    fun found h => Plan.exists_indices_of_select_eq_ok h, ?_⟩
  · intro i k path e hl hpath he
    exact Plan.select_eq_error_iff.2 ⟨i, k, path, hl, hpath, he⟩
  · cases hs : p.select [] with
    | error e =>
      obtain ⟨i, -, path, hpath, -⟩ := Plan.exists_select_eq_error_iff.1 ⟨e, hs⟩
      cases hpath
    | ok found =>
      obtain ⟨indices, -, hin, hall⟩ := Plan.exists_indices_of_select_eq_ok hs
      -- no index can be listed, since each needs a path
      have hnil : indices = [] := List.eq_nil_iff_forall_not_mem.2 fun i hi => by
        obtain ⟨-, path, hpath, -⟩ := (hin i).1 hi
        cases hpath
      subst hnil
      cases hall
      rfl

/-- Two paths of three trigger a step, and one of them twice; the other step is not listed. -/
theorem select_agrees_with_triggers_repeated :
    ∃ (p : Plan) (m : Matcher) (found : List Selection),
      p.steps.map Step.files = [.pattern "z", .all] ∧
      m = (Matcher.triggers ⟨p, []⟩ 0 "b").2 ∧ m.Reachable p ∧
      (m.select ["./b", "a", "b"]).1 = .ok found ∧
      found.map Selection.paths = [["b", "b"]] ∧
      ∃ indices : List ℕ, indices.SortedLT ∧ 1 ∈ indices ∧ indices.length = found.length := by
  have hm : Matcher.Reachable
      { steps := [⟨"s", "1", "x", "x", [], .pattern "z", none, 0, 0⟩,
          ⟨"s", "1", "y", "y", [], .all, some "a", 0, 1⟩] } _ := .triggers .start 0 "b"
  obtain ⟨indices, hsorted, hin, hall⟩ :=
    (select_agrees_with_triggers hm ["./b", "a", "b"]).2.2.1 _ rfl
  exact ⟨_, _, _, rfl, rfl, hm, rfl, rfl, indices, hsorted,
    (hin 1).2 ⟨by decide, "b", by decide, rfl⟩, hall.length_eq⟩

end HookPlan
