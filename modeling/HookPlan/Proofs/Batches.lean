import HookPlan.Proofs.Selection

/-!
# Selections from several lists

A selection asks about each path by itself. So a long list may be split, or put in another order:
whether a selection fails and which steps it lists does not depend on that, and the paths of a step
stand in the order of the list.

* `Plan.listing`: the selection in which each step, by its index, has certain paths.
* `Plan.select_eq_ok`: a selection that succeeds is the listing of the paths that trigger each step.
* `Plan.pathsOf_append`, `Plan.pathsOf_perm`: those of two lists, and of a list in another order.
* `select_batches`: so selections from parts of a list are put together step by step.
-/

namespace HookPlan

variable {p : Plan} {paths paths' : List String} {found found' : List Selection}

namespace Plan

/-- The selection in which each step, by its index, has certain paths. Steps without any are left
out. -/
def listing (p : Plan) (pathsAt : ℕ → List String) : List Selection :=
  p.steps.zipIdx.filterMap fun x =>
    if (pathsAt x.2).isEmpty then none else some ⟨x.1, pathsAt x.2⟩

/-- **A selection that succeeds** lists for each step the paths that trigger it. -/
theorem select_eq_ok (h : p.select paths = .ok found) : found = p.listing (p.pathsOf paths) := by
  rw [select_eq] at h
  rw [selectFrom_eq_ok h, listing]
  induction p.steps.zipIdx with
  | nil => rfl
  | cons x rest ih =>
    rw [List.filter_cons, List.filterMap_cons, isEmpty_pathsOf]
    cases paths.any (p.isTriggered x.2) with
    | false => exact ih
    | true => exact congrArg _ ih

/-! ### Two lists -/

theorem pathsOf_append (p : Plan) (paths paths' : List String) (i : ℕ) :
    p.pathsOf (paths ++ paths') i = p.pathsOf paths i ++ p.pathsOf paths' i := by
  rw [pathsOf, List.filter_append, List.map_append]
  rfl

/-- **A selection from two lists** succeeds iff those from each of them do, and puts together what
they list for each step. -/
theorem exists_select_append_iff :
    (∃ found, p.select (paths ++ paths') = .ok found) ↔
      (∃ found, p.select paths = .ok found) ∧ ∃ found, p.select paths' = .ok found := by
  simp only [exists_select_eq_ok_iff, List.forall_mem_append]

theorem select_append (h : p.select paths = .ok found) (h' : p.select paths' = .ok found') :
    p.select (paths ++ paths') =
      .ok (p.listing fun i => p.pathsOf paths i ++ p.pathsOf paths' i) := by
  obtain ⟨both, hboth⟩ := exists_select_append_iff.2 ⟨⟨found, h⟩, found', h'⟩
  rw [hboth, select_eq_ok hboth, funext (p.pathsOf_append paths paths')]

/-! ### Another order -/

theorem exists_select_iff_of_perm (h : paths.Perm paths') :
    (∃ found, p.select paths = .ok found) ↔ ∃ found, p.select paths' = .ok found := by
  simp only [exists_select_eq_ok_iff, h.mem_iff]

theorem pathsOf_perm (p : Plan) (h : paths.Perm paths') (i : ℕ) :
    (p.pathsOf paths i).Perm (p.pathsOf paths' i) :=
  (h.filter _).map _

/-- Listings with the same paths, in another order, list the same steps. -/
theorem forall₂_listing (p : Plan) {a b : ℕ → List String} (h : ∀ i, (a i).Perm (b i)) :
    List.Forall₂ (fun s t => s.step = t.step ∧ s.paths.Perm t.paths) (p.listing a)
      (p.listing b) := by
  unfold listing
  induction p.steps.zipIdx with
  | nil => exact .nil
  | cons x rest ih =>
    have hempty : (a x.2).isEmpty = (b x.2).isEmpty := (h x.2).isEmpty_eq
    rw [List.filterMap_cons, List.filterMap_cons, hempty]
    cases (b x.2).isEmpty with
    | true => exact ih
    | false => exact .cons ⟨rfl, h x.2⟩ ih

end Plan

/-- **A selection may be made in parts and in any order.** It succeeds on two lists together iff it
succeeds on each of them, and then each step, by its index, has its paths from the first followed by
those from the second; a step that has none is not listed. From a list in another order the same
steps are selected, each with the same paths in another order. All this holds whatever the matchers
were asked before, so the parts may be put to one matcher. -/
theorem select_batches {l m n : Matcher} (hl : l.Reachable p) (hm : m.Reachable p)
    (hn : n.Reachable p) (paths : List String) :
    (∀ paths', ((∃ found, (l.select (paths ++ paths')).1 = .ok found) ↔
        (∃ found, (m.select paths).1 = .ok found) ∧ ∃ found, (n.select paths').1 = .ok found) ∧
      ∀ found found', (m.select paths).1 = .ok found → (n.select paths').1 = .ok found' →
        found = p.listing (p.pathsOf paths) ∧ found' = p.listing (p.pathsOf paths') ∧
        (l.select (paths ++ paths')).1 =
          .ok (p.listing fun i => p.pathsOf paths i ++ p.pathsOf paths' i)) ∧
    ∀ paths', paths'.Perm paths →
      ((∃ found, (n.select paths').1 = .ok found) ↔ ∃ found, (m.select paths).1 = .ok found) ∧
      ∀ found found', (m.select paths).1 = .ok found → (n.select paths').1 = .ok found' →
        found = p.listing (p.pathsOf paths) ∧ found' = p.listing (p.pathsOf paths') ∧
        (∀ i, (p.pathsOf paths' i).Perm (p.pathsOf paths i)) ∧
        List.Forall₂ (fun s t => s.step = t.step ∧ s.paths.Perm t.paths) found' found := by
  have hl : ∀ paths, (l.select paths).1 = p.select paths := fun paths => (hl.sound.select paths).1
  have hm : ∀ paths, (m.select paths).1 = p.select paths := fun paths => (hm.sound.select paths).1
  have hn : ∀ paths, (n.select paths).1 = p.select paths := fun paths => (hn.sound.select paths).1
  simp only [hl, hm, hn]
  refine ⟨fun paths' => ⟨Plan.exists_select_append_iff, fun found found' h h' => ?_⟩,
    fun paths' hperm => ⟨Plan.exists_select_iff_of_perm hperm, fun found found' h h' => ?_⟩⟩
  · exact ⟨Plan.select_eq_ok h, Plan.select_eq_ok h', Plan.select_append h h'⟩
  · refine ⟨Plan.select_eq_ok h, Plan.select_eq_ok h', p.pathsOf_perm hperm, ?_⟩
    rw [Plan.select_eq_ok h, Plan.select_eq_ok h']
    exact p.forall₂_listing (p.pathsOf_perm hperm)

/-- Two parts, put to one matcher, of which one names a path twice: a step has its paths from both,
one has them from the second only, and one is not listed. -/
theorem select_batches_twice :
    ∃ (p : Plan) (l m n : Matcher) (s t : Step), p.steps.map Step.files =
        [.pattern "a", .pattern "z", .pattern "b"] ∧ p.steps[0]? = some s ∧ p.steps[2]? = some t ∧
      m = ⟨p, []⟩ ∧ n = (m.select ["./a", "a"]).2 ∧ l = (n.select ["b", "ab"]).2 ∧ l.Reachable p ∧
      (m.select ["./a", "a"]).1 = .ok [⟨s, ["a", "a"]⟩] ∧
      (n.select ["b", "ab"]).1 = .ok [⟨s, ["ab"]⟩, ⟨t, ["b", "ab"]⟩] ∧
      (l.select ["./a", "a", "b", "ab"]).1 = .ok [⟨s, ["a", "a", "ab"]⟩, ⟨t, ["b", "ab"]⟩] ∧
      ∃ found, (l.select ["ab", "b"]).1 = .ok found ∧ found.map Selection.step = [s, t] := by
  let s : Step := ⟨"s", "1", "x", "x", [], .pattern "a", none, 0, 0⟩
  let t : Step := ⟨"s", "1", "z", "z", [], .pattern "b", none, 0, 2⟩
  let p : Plan := { steps := [s, ⟨"s", "1", "y", "y", [], .pattern "z", none, 0, 1⟩, t] }
  have hm : Matcher.Reachable p ⟨p, []⟩ := .start
  have hn := hm.select ["./a", "a"]
  have hl := hn.select ["b", "ab"]
  have hfirst : (Matcher.select ⟨p, []⟩ ["./a", "a"]).1 = .ok [⟨s, ["a", "a"]⟩] := by
    decide +kernel
  have hsecond : ((Matcher.select ⟨p, []⟩ ["./a", "a"]).2.select ["b", "ab"]).1 =
      .ok [⟨s, ["ab"]⟩, ⟨t, ["b", "ab"]⟩] := by
    decide +kernel
  refine ⟨p, _, _, _, s, t, rfl, rfl, rfl, rfl, rfl, rfl, hl, hfirst, hsecond, ?_, ?_⟩
  · obtain ⟨-, -, hboth⟩ :=
      ((select_batches hl hm hn ["./a", "a"]).1 ["b", "ab"]).2 _ _ hfirst hsecond
    exact hboth.trans (by decide +kernel)
  · obtain ⟨hiff, hperm⟩ := (select_batches hn hn hl ["b", "ab"]).2 ["ab", "b"] (.swap _ _ _)
    obtain ⟨found, hfound⟩ := hiff.2 ⟨_, hsecond⟩
    obtain ⟨-, -, -, hall⟩ := hperm _ _ hsecond hfound
    refine ⟨found, hfound, ?_⟩
    have hsteps := List.forall₂_map_left_iff.2 (List.forall₂_map_right_iff.2
      (hall.imp fun _ _ h => h.1))
    exact List.forall₂_eq_eq_eq ▸ hsteps

end HookPlan
