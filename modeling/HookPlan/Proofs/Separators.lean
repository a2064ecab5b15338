import HookPlan.Proofs.Selection

/-!
# Slashes and backslashes in paths

Patterns see a path with slashes for its backslashes, and without a leading `./`. The latter is
looked for first, in the path as it was given, so it is not found where it is written `.\`.

* `slashed`, `startsHere`: the two things that matter about a path.
* `toList_normalizePath`: nothing else does, since the form that patterns see is made of these.
* `Plan.select_congr_paths`: a plan sees nothing of a path but that form.
* `triggers_slashed`: paths that differ in their separators get the same answers, as long as they
  both start with `./` or both do not.
* `triggers_backslash_here`: one that starts with `.\` may get another answer.
-/

namespace HookPlan

variable {p : Plan} {path path' : String} {paths paths' : List String}

/-- A path with a slash for each backslash. -/
def slashed (path : String) : String :=
  String.ofList (path.toList.map fun c => if c == '\\' then '/' else c)

/-- Whether a path starts with `./`, not counting `.\`. -/
def startsHere (path : String) : Bool := ['.', '/'].isPrefixOf path.toList

/-! ### The form that patterns see -/

theorem dropHere_eq (cs : List Char) :
    dropHere cs = if ['.', '/'].isPrefixOf cs then cs.drop 2 else cs := by
  unfold dropHere
  split
  · rfl
  · rename_i hne
    rw [if_neg]
    intro h
    obtain ⟨rest, rfl⟩ := List.isPrefixOf_iff_prefix.1 h
    exact hne rest rfl

/-- **The form of a path that patterns see**: that with slashes, less two characters if the path
starts with `./`. -/
theorem toList_normalizePath (path : String) :
    (normalizePath path).toList =
      if startsHere path then (slashed path).toList.drop 2 else (slashed path).toList := by
  unfold normalizePath slashed startsHere
  rw [dropHere_eq, String.toList_ofList, String.toList_ofList]
  split
  · rw [List.map_drop]
  · rfl

theorem normalizePath_congr (hslashed : slashed path = slashed path')
    (hstart : startsHere path = startsHere path') : normalizePath path = normalizePath path' := by
  rw [← String.toList_inj, toList_normalizePath, toList_normalizePath, hslashed, hstart]

/-- A leading `.\` is not dropped: the path is seen as one that has another `./` before it. -/
theorem normalizePath_of_not_startsHere (hslashed : slashed path = slashed path')
    (hstart' : startsHere path' = false) : normalizePath path' = normalizePath ("./" ++ path) := by
  have hstart : startsHere ("./" ++ path) = true := by
    rw [startsHere, String.toList_append]
    exact List.isPrefixOf_iff_prefix.2 (List.prefix_append _ _)
  have hdrop : (slashed ("./" ++ path)).toList.drop 2 = (slashed path).toList := by
    simp [slashed, String.toList_append]
  rw [← String.toList_inj, toList_normalizePath, toList_normalizePath, hstart, hstart', hdrop,
    hslashed]
  rfl

/-! ### What a plan sees -/

namespace Plan

theorem triggers_congr_path (h : normalizePath path = normalizePath path') (i : ℕ) :
    p.triggers i path = p.triggers i path' := by
  rw [triggers_eq, triggers_eq, h]

theorem triggering_congr_paths
    (h : List.Forall₂ (fun path path' => normalizePath path = normalizePath path') paths paths')
    (i : ℕ) : p.triggering i paths = p.triggering i paths' :=
  triggering_congr_of_forall₂ (h.imp fun _ _ hpath => ⟨triggers_congr_path hpath i, hpath⟩)

theorem selectFrom_congr_paths
    (h : List.Forall₂ (fun path path' => normalizePath path = normalizePath path') paths paths')
    (i : ℕ) (steps : List Step) : p.selectFrom paths i steps = p.selectFrom paths' i steps := by
  induction steps generalizing i with
  | nil => rfl
  | cons step steps ih => rw [selectFrom_cons, selectFrom_cons, triggering_congr_paths h, ih]

/-- **A plan sees nothing of a path but the form in which it is matched.** -/
theorem select_congr_paths
    (h : List.Forall₂ (fun path path' => normalizePath path = normalizePath path') paths paths') :
    p.select paths = p.select paths' :=
  selectFrom_congr_paths h 0 p.steps

end Plan

/-- **Paths that differ in their separators alone get the same answers**, in the same words, if both
start with `./` or both do not. One that does not gets the answers for the other with another `./`
before it, so a leading `.\` is not the same as `./`. -/
theorem triggers_slashed {m n : Matcher} (hm : m.Reachable p) (hn : n.Reachable p) :
    (∀ i path path', slashed path = slashed path' → startsHere path = startsHere path' →
      (m.triggers i path).1 = (n.triggers i path').1) ∧
    (∀ paths paths', List.Forall₂ (fun path path' =>
        slashed path = slashed path' ∧ startsHere path = startsHere path') paths paths' →
      (m.select paths).1 = (n.select paths').1) ∧
    ∀ i path path', slashed path = slashed path' → startsHere path' = false →
      (n.triggers i path').1 = (m.triggers i ("./" ++ path)).1 := by
  refine ⟨fun i path path' hslashed hstart => ?_, fun paths paths' h => ?_,
    fun i path path' hslashed hstart' => ?_⟩
  · rw [(hm.sound.triggers i path).1, (hn.sound.triggers i path').1]
    exact Plan.triggers_congr_path (normalizePath_congr hslashed hstart) i
  · rw [(hm.sound.select paths).1, (hn.sound.select paths').1]
    exact Plan.select_congr_paths (h.imp fun _ _ h => normalizePath_congr h.1 h.2)
  · rw [(hm.sound.triggers i _).1, (hn.sound.triggers i path').1]
    exact Plan.triggers_congr_path (normalizePath_of_not_startsHere hslashed hstart') i

/-- Both separators in one path, after `./` and without it. -/
theorem triggers_slashed_mixed :
    ∃ (p : Plan) (m : Matcher), p.steps.map Step.files = [.pattern "^a"] ∧
      m = (Matcher.select ⟨p, []⟩ ["a"]).2 ∧ m.Reachable p ∧
      (m.triggers 0 "./a\\b").1 = .ok true ∧
      (m.select ["./a/b\\c", "a/b"]).1 = (m.select ["./a\\b\\c", "a\\b"]).1 ∧
      (m.triggers 0 ".\\a\\b").1 = (m.triggers 0 "././a/b").1 := by
  let p : Plan := { steps := [⟨"s", "1", "x", "x", [], .pattern "^a", none, 0, 0⟩] }
  have hm : Matcher.Reachable p _ := .select .start ["a"]
  have hplain : (Matcher.triggers ⟨p, []⟩ 0 "./a/b").1 = .ok true := rfl
  refine ⟨p, _, rfl, rfl, hm, ?_, ?_, ?_⟩
  · rw [(triggers_slashed hm .start).1 0 "./a\\b" "./a/b" (by decide) (by decide), hplain]
  · exact (triggers_slashed hm hm).2.1 _ _ (.cons (by decide) (.cons (by decide) .nil))
  · exact (triggers_slashed hm hm).2.2 0 "./a/b" ".\\a\\b" (by decide) (by decide)

/-- **A leading `.\` is not taken as `./` is**: with slashes these are the same path, but one of
them triggers a step that the other does not trigger. -/
theorem triggers_backslash_here :
    ∃ (p : Plan) (s : Step), p.steps = [s] ∧ s.files = .pattern "^a" ∧
      slashed "./a" = slashed ".\\a" ∧
      (Matcher.triggers ⟨p, []⟩ 0 "./a").1 = .ok true ∧
      (Matcher.triggers ⟨p, []⟩ 0 ".\\a").1 = .ok false ∧
      (Matcher.select ⟨p, []⟩ ["./a"]).1 = .ok [⟨s, ["a"]⟩] ∧
      (Matcher.select ⟨p, []⟩ [".\\a"]).1 = .ok [] :=
  ⟨{ steps := [_] }, ⟨"s", "1", "x", "x", [], .pattern "^a", none, 0, 0⟩, rfl, rfl, by decide, rfl,
    rfl, rfl, rfl⟩

end HookPlan
