import HookPlan.Proofs.Resolution
import HookPlan.Proofs.Validity

/-!
# Plans written back into their configurations

Whatever a step holds can be declared by the invocation that it comes from. Once every invocation
declares what its step holds, nothing is left open that a catalog could change: what a catalog
supplied is as good as declared, and where it supplied nothing it supplies nothing again.

* `Invocation.declaring`, `Configuration.materialized`: a configuration with the values of a plan.
* `Invocation.step_declaring`: a step that is declared is made again.
* `places_materialized`: the places are those of the configuration, each with its step declared.
* `resolve_materialized`: the same plan again, with the catalog it was made with and with none.
-/

namespace HookPlan

variable {cat : Catalog} {c : Configuration} {p : Plan}

/-! ### Declaring what a step holds -/

/-- The same invocation, which declares what a step holds. A pattern that the step lacks stays
undeclared. -/
def Invocation.declaring (h : Invocation) (step : Step) : Invocation :=
  { h with
    name := some step.name
    args := some step.args
    files := step.files.pattern?
    exclude := step.exclude }

/-- The step at a position. -/
def Plan.step? (p : Plan) (i j : ℕ) : Option Step :=
  p.steps.find? fun step => step.repoIndex == i && step.hookIndex == j

/-- The source with index `i`, each of whose invocations declares what its step holds. -/
def Source.materialized (p : Plan) (i : ℕ) (s : Source) : Source :=
  { s with hooks := s.hooks.mapIdx fun j h => (p.step? i j).elim h h.declaring }

/-- The configuration in which each invocation declares what its step holds. -/
def Configuration.materialized (c : Configuration) (p : Plan) : Configuration :=
  { c with sources := c.sources.mapIdx (Source.materialized p) }

theorem FileFilter.pattern?_ofDeclared (o : Option String) : (ofDeclared o).pattern? = o := by
  cases o <;> rfl

/-- What was settled once is not settled otherwise by the same default or by none. -/
theorem orElse_absorb {α : Type} (declared : Option α) {supplied again : Option α}
    (h : again = none ∨ again = supplied) :
    ((declared <|> supplied) <|> again) = (declared <|> supplied) := by
  cases declared with
  | some v => rfl
  | none =>
    rcases h with rfl | rfl
    · cases supplied <;> rfl
    · cases again <;> rfl

/-- **A step that is declared is made again**, with the defaults it was made with or without any. -/
theorem Invocation.step_declaring (h : Invocation) {s s' : Source} {i j : ℕ}
    {d d' : Option Definition} (hlocation : s'.location = s.location)
    (hrevision : s'.revision = s.revision) (hd : d' = none ∨ d' = d) :
    (h.declaring (h.step s i j d)).step s' i j d' = h.step s i j d := by
  have hfiles : d'.bind (·.files) = none ∨ d'.bind (·.files) = d.bind (·.files) :=
    hd.imp (congrArg (Option.bind · _)) (congrArg (Option.bind · _))
  have hexclude : d'.bind (·.exclude) = none ∨ d'.bind (·.exclude) = d.bind (·.exclude) :=
    hd.imp (congrArg (Option.bind · _)) (congrArg (Option.bind · _))
  unfold declaring step
  dsimp only
  rw [FileFilter.pattern?_ofDeclared, orElse_absorb h.files hfiles,
    orElse_absorb h.exclude hexclude, hlocation, hrevision]
  rfl

/-! ### Places -/

namespace Cell

variable {α β : Type}

theorem zipIdx_mapIdx (g : ℕ → α → α) (as : List α) :
    (as.mapIdx g).zipIdx = as.zipIdx.map fun a => (g a.2 a.1, a.2) := by
  refine List.ext_getElem? fun i => ?_
  simp only [List.getElem?_zipIdx, List.getElem?_mapIdx, List.getElem?_map, Option.map_map,
    Nat.zero_add]
  rfl

/-- A nested list whose members are changed by their indices has changed cells at the same
positions. -/
theorem cells_mapIdx {f : α → List β} {g : ℕ → α → α} {k : ℕ → ℕ → β → β}
    (hf : ∀ i a, f (g i a) = (f a).mapIdx (k i)) (as : List α) :
    cells f (as.mapIdx g) = (cells f as).map fun x =>
      ⟨x.row, x.column, g x.row x.outer, k x.row x.column x.inner⟩ := by
  unfold cells cellsFrom rowFrom
  rw [zipIdx_mapIdx, List.flatMap_map, List.map_flatMap]
  refine List.flatMap_congr fun a _ => ?_
  dsimp only
  rw [hf, zipIdx_mapIdx, List.map_map, List.map_map]
  rfl

end Cell

namespace Configuration

/-- A place, whose invocation declares what its step holds. -/
def declaredPlace (p : Plan) (x : Cell Source Invocation) : Cell Source Invocation where
  row := x.row
  column := x.column
  outer := x.outer.materialized p x.row
  inner := (p.step? x.row x.column).elim x.inner x.inner.declaring

theorem places_materialized (c : Configuration) (p : Plan) :
    (c.materialized p).places = c.places.map (declaredPlace p) :=
  Cell.cells_mapIdx (f := Source.hooks) (g := Source.materialized p)
    (k := fun i j h => (p.step? i j).elim h h.declaring) (fun _ _ => rfl) c.sources

/-- Each step of a plan is the one at its position. -/
theorem step?_eq_some (h : c.resolve cat = .ok p) {step : Step} (hs : step ∈ p.steps) :
    p.step? step.repoIndex step.hookIndex = some step := by
  -- the first step found there is the one meant, since no two have the same position
  have hnodup : (p.steps.map Step.position).Nodup := by
    rw [map_position_steps h, List.nodup_iff_pairwise_ne, List.pairwise_map]
    exact (Cell.cells_sorted _ _).imp fun hlt => ne_of_lt hlt
  unfold Plan.step?
  cases hfind : p.steps.find? _ with
  | none => exact absurd (List.find?_eq_none.1 hfind step hs) (by simp)
  | some found =>
    have hpos : found.repoIndex = step.repoIndex ∧ found.hookIndex = step.hookIndex := by
      simpa using List.find?_some hfind
    have hsame : found.position = step.position := by
      rw [Step.position, Step.position, hpos.1, hpos.2]
    rw [List.inj_on_of_nodup_map hnodup (List.mem_of_find?_eq_some hfind) hs hsame]

/-- Validity is about locations, revisions and ids, none of which is changed. -/
theorem validate_materialized (h : c.validate = .ok ()) : (c.materialized p).validate = .ok () := by
  rw [validate_eq_ok_iff] at h ⊢
  intro s' hs'
  obtain ⟨i, hi, rfl⟩ := List.mem_mapIdx.1 hs'
  have hvalid := h _ (List.getElem_mem hi)
  refine ⟨hvalid.location, hvalid.revision, ?_, ?_⟩
  · simpa [Source.materialized] using hvalid.hooks
  · intro h' hh'
    obtain ⟨j, hj, rfl⟩ := List.mem_mapIdx.1 hh'
    have hid := hvalid.ids _ (List.getElem_mem hj)
    cases p.step? i j with
    | none => exact hid
    | some step => exact hid

/-- The walk through a materialized configuration makes the same steps, with any catalog that
answers each invocation as before or with nothing. -/
theorem walk_materialized (h : c.resolve cat = .ok p) {again : Catalog}
    (hagain : ∀ i j s k d, c.Invokes i j s k → cat s.location s.revision k.id = .ok d →
      again s.location s.revision k.id = .ok none ∨ again s.location s.revision k.id = .ok d) :
    List.Forall₂ (fun x step => stepAt again x = .ok step) (c.materialized p).places p.steps := by
  obtain ⟨-, hs, -⟩ := resolve_eq_ok_iff.1 h
  obtain ⟨hlength, hzip⟩ := List.forall₂_iff_zip.1 hs
  rw [places_materialized, List.forall₂_map_left_iff, List.forall₂_iff_zip]
  refine ⟨hlength, fun {x step} hmem => ?_⟩
  obtain ⟨hx, hstep⟩ := List.of_mem_zip hmem
  obtain ⟨d, hd, rfl⟩ := stepAt_eq_ok_iff.1 (hzip hmem)
  have hfound : p.step? x.row x.column = some (x.inner.step x.outer x.row x.column d) :=
    step?_eq_some h hstep
  rw [stepAt_eq_ok_iff, declaredPlace, hfound]
  -- what the catalog says the second time has no influence, be it nothing or the same
  rcases hagain _ _ _ _ d (mem_places.1 hx) hd with hnone | hsame
  · exact ⟨none, hnone, (Invocation.step_declaring x.inner rfl rfl (.inl rfl)).symm⟩
  · exact ⟨d, hsame, (Invocation.step_declaring x.inner rfl rfl (.inr rfl)).symm⟩

/-- Every invocation is given what its step holds. -/
theorem invokes_materialized (h : c.resolve cat = .ok p) {i j : ℕ} {s : Source} {k : Invocation}
    (hk : c.Invokes i j s k) :
    ∃ step ∈ p.steps, step.position = toLex (i, j) ∧
      (c.materialized p).Invokes i j (s.materialized p i) (k.declaring step) := by
  have hplace : (⟨i, j, s, k⟩ : Cell Source Invocation) ∈ c.places := mem_places.2 hk
  have hpos : toLex (i, j) ∈ p.steps.map Step.position := by
    rw [map_position_steps h]
    exact List.mem_map_of_mem hplace
  obtain ⟨step, hstep, hij⟩ := List.mem_map.1 hpos
  have hfound : p.step? i j = some step := by
    have hi : step.repoIndex = i := congrArg (fun x => (ofLex x).1) hij
    have hj : step.hookIndex = j := congrArg (fun x => (ofLex x).2) hij
    rw [← hi, ← hj]
    exact step?_eq_some h hstep
  have hmoved := List.mem_map_of_mem (f := declaredPlace p) hplace
  rw [← places_materialized, declaredPlace, hfound] at hmoved
  exact ⟨step, hstep, hij, mem_places.1 hmoved⟩

end Configuration

/-- **A plan says all that its configuration leaves open.** Where a configuration resolves, let each
of its invocations declare the name, the arguments and the patterns of its step. Then it resolves to
the same plan without any catalog, and also with the catalog that the plan was made with. -/
theorem resolve_materialized (h : c.resolve cat = .ok p) :
    (∀ i j s k, c.Invokes i j s k → ∃ step ∈ p.steps, step.position = toLex (i, j) ∧
      (c.materialized p).Invokes i j (s.materialized p i) (k.declaring step)) ∧
    (c.materialized p).resolve .declaredOnly = .ok p ∧
    (c.materialized p).resolve cat = .ok p := by
  obtain ⟨hv, -, he, hf⟩ := Configuration.resolve_eq_ok_iff.1 h
  have hvalid := Configuration.validate_materialized (p := p) hv
  refine ⟨fun i j s k => Configuration.invokes_materialized h, ?_, ?_⟩
  · exact Configuration.resolve_eq_ok_iff.2 ⟨hvalid,
      Configuration.walk_materialized h fun _ _ _ _ _ _ _ => .inl rfl, he, hf⟩
  · exact Configuration.resolve_eq_ok_iff.2 ⟨hvalid,
      Configuration.walk_materialized h fun _ _ _ _ _ _ hd => .inr hd, he, hf⟩

/-- The first invocation declares no arguments at all, and the second leaves everything open. The
catalog supplies arguments and an exclusion, but no pattern for files. -/
theorem resolve_materialized_supplied :
    ∃ (cat : Catalog) (c : Configuration) (p : Plan),
      c.sources = [⟨"a", "1", [{ id := "x", args := some [] }, { id := "y" }]⟩] ∧
      c.resolve cat = .ok p ∧
      p.steps.map Step.args = [[], ["-v"]] ∧ p.steps.map Step.files = [.all, .all] ∧
      (c.materialized p).resolve .declaredOnly = .ok p ∧
      (c.materialized p).resolve cat = .ok p := by
  let cat : Catalog := fun _ _ id => .ok (some { id, args := ["-v"], exclude := some "z" })
  let c : Configuration :=
    { sources := [⟨"a", "1", [{ id := "x", args := some [] }, { id := "y" }]⟩] }
  have h : c.resolve cat = .ok _ := rfl
  obtain ⟨-, hnone, hcat⟩ := resolve_materialized h
  exact ⟨cat, c, _, rfl, h, rfl, rfl, hnone, hcat⟩

end HookPlan
