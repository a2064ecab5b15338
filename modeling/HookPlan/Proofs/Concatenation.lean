import HookPlan.Proofs.Resolution

/-!
# Sources put one after another

Two lists of sources that are put one after another are checked one after another, and then the
hooks of the first are looked up before those of the second. In the second list every index of a
source grows by the length of the first.

* `EntryRef.behind`, `Error.behind`, `Step.behind`: the same with greater indices.
* `violationFrom_append`: the first broken rule of both lists.
* `resolve_eq_of_append`: two checks, then two walks.
* `resolve_append`: the steps of both lists, and which of their errors wins.
-/

namespace HookPlan

variable {cat : Catalog} {α β γ δ ε : Type}

/-! ### Places behind others -/

namespace EntryRef

/-- The same entry where the sources stand behind `n` others. -/
def behind (n : ℕ) (e : EntryRef) : EntryRef := { e with repoIndex := e.repoIndex.map (· + n) }

theorem source_behind (n i : ℕ) (location revision : String) :
    source (i + n) location revision = (source i location revision).behind n := rfl

theorem hook_behind (n : ℕ) (e : EntryRef) (j : ℕ) (id : String) :
    (e.behind n).hook j id = (e.hook j id).behind n := rfl

end EntryRef

/-- The same error where the sources stand behind `n` others. -/
def Error.behind (n : ℕ) : Error → Error
  | malformed entry reason => malformed (entry.behind n) reason
  | unresolvable entry reason => unresolvable (entry.behind n) reason
  | invalidPattern entry pattern cause => invalidPattern (entry.behind n) pattern cause
  | e => e

/-- The same step where the sources stand behind `n` others. -/
def Step.behind (n : ℕ) (s : Step) : Step := { s with repoIndex := s.repoIndex + n }

namespace Cell

/-- The same member where the rows stand behind `n` others. -/
def behind (n : ℕ) (x : Cell α β) : Cell α β := { x with row := x.row + n }

theorem rowFrom_behind (n i : ℕ) (a : α) (j : ℕ) (bs : List β) :
    rowFrom (i + n) a j bs = (rowFrom i a j bs).map (behind n) := by
  rw [rowFrom, rowFrom, List.map_map]
  rfl

theorem cellsFrom_behind (n : ℕ) (f : α → List β) (i : ℕ) (as : List α) :
    cellsFrom f (i + n) as = (cellsFrom f i as).map (behind n) := by
  induction as generalizing i with
  | nil => rfl
  | cons a as ih =>
    rw [cellsFrom_cons, cellsFrom_cons, List.map_append, ← rowFrom_behind, ← ih, Nat.add_right_comm]

theorem cells_append (f : α → List β) (as bs : List α) :
    cells f (as ++ bs) = cells f as ++ (cells f bs).map (behind as.length) := by
  rw [cells, cells, cells, ← cellsFrom_behind, Nat.zero_add, cellsFrom, List.zipIdx_append,
    List.flatMap_append, Nat.zero_add]
  rfl

end Cell

/-! ### Checks -/

namespace Source

theorem firstBlankId_behind (n : ℕ) (entry : EntryRef) (j : ℕ) (hs : List Invocation) :
    firstBlankId (entry.behind n) j hs =
      (firstBlankId entry j hs).map (Prod.map (EntryRef.behind n) id) := by
  induction hs generalizing j with
  | nil => rfl
  | cons h hs ih =>
    rw [firstBlankId, firstBlankId, ih, EntryRef.hook_behind]
    split <;> rfl

theorem violation_behind (s : Source) (n i : ℕ) :
    s.violation (i + n) = (s.violation i).map (Prod.map (EntryRef.behind n) id) := by
  unfold violation
  dsimp only
  rw [EntryRef.source_behind, firstBlankId_behind]
  split
  · rfl
  split
  · rfl
  split <;> rfl

end Source

namespace Configuration

theorem violationFrom_behind (n i : ℕ) (ss : List Source) :
    violationFrom (i + n) ss = (violationFrom i ss).map (Prod.map (EntryRef.behind n) id) := by
  induction ss generalizing i with
  | nil => rfl
  | cons s ss ih =>
    rw [violationFrom, violationFrom, s.violation_behind, Nat.add_right_comm, ih]
    cases s.violation i <;> rfl

theorem violationFrom_append (i : ℕ) (ss ts : List Source) :
    violationFrom i (ss ++ ts) =
      (violationFrom i ss).or (violationFrom (i + ss.length) ts) := by
  induction ss generalizing i with
  | nil => rfl
  | cons s ss ih =>
    rw [List.cons_append, violationFrom, violationFrom, ih, List.length_cons,
      Nat.add_right_comm, Nat.add_assoc]
    cases s.violation i <;> rfl

section

variable (exclude : Option String) (failFast : Bool) (ss ts : List Source)

/-- **Both lists are checked**, the second one only if the first is valid. -/
theorem validate_append :
    validate ⟨exclude, failFast, ss ++ ts⟩ =
      (validate ⟨exclude, failFast, ss⟩ >>= fun _ =>
        (validate ⟨exclude, failFast, ts⟩).mapError (Error.behind ss.length)) := by
  unfold validate violation
  dsimp only
  rw [violationFrom_append, violationFrom_behind]
  cases violationFrom 0 ss with
  | some v => rfl
  | none => cases violationFrom 0 ts <;> rfl

end

end Configuration

/-! ### Walks -/

theorem mapM_mapError_map {f : α → Except ε β} (g : ε → δ) (k : β → γ) (as : List α) :
    (as.mapM fun a => ((f a).mapError g).map k) =
      ((as.mapM f).mapError g).map (List.map k) := by
  induction as with
  | nil => rfl
  | cons a as ih =>
    rw [List.mapM_cons, List.mapM_cons, ih]
    cases f a with
    | error e => rfl
    | ok b => cases as.mapM f <;> rfl

namespace Configuration

theorem stepAt_behind (n : ℕ) (x : Cell Source Invocation) :
    stepAt cat (x.behind n) = ((stepAt cat x).mapError (Error.behind n)).map (Step.behind n) := by
  unfold stepAt Source.resolveHook
  dsimp only [Cell.behind]
  cases cat x.outer.location x.outer.revision x.inner.id <;> rfl

variable (cat) (exclude : Option String) (failFast : Bool) (ss ts : List Source)

/-- **Both lists are walked through**, the second one only if no lookup fails in the first. -/
theorem walk_append :
    (places ⟨exclude, failFast, ss ++ ts⟩).mapM (stepAt cat) = do
      let steps ← (places ⟨exclude, failFast, ss⟩).mapM (stepAt cat)
      let more ← (((places ⟨exclude, failFast, ts⟩).mapM (stepAt cat)).mapError
        (Error.behind ss.length)).map (List.map (Step.behind ss.length))
      return steps ++ more := by
  have hbehind : stepAt cat ∘ Cell.behind ss.length = fun x =>
      ((stepAt cat x).mapError (Error.behind ss.length)).map (Step.behind ss.length) :=
    funext (stepAt_behind ss.length)
  rw [places, Cell.cells_append, List.mapM_append, List.mapM_map, hbehind, mapM_mapError_map]
  rfl

/-- Resolving sources one after another: two checks, then two walks. -/
theorem resolve_eq_of_append :
    resolve cat ⟨exclude, failFast, ss ++ ts⟩ = do
      validate ⟨exclude, failFast, ss⟩
      Except.mapError (Error.behind ss.length) (validate ⟨exclude, failFast, ts⟩)
      let steps ← (places ⟨exclude, failFast, ss⟩).mapM (stepAt cat)
      let more ← (((places ⟨exclude, failFast, ts⟩).mapM (stepAt cat)).mapError
        (Error.behind ss.length)).map (List.map (Step.behind ss.length))
      return ⟨steps ++ more, exclude, failFast⟩ := by
  rw [resolve_eq, validate_append, walk_append]
  simp only [bind_assoc, pure_bind]

variable {cat exclude failFast ss ts}

theorem resolve_append_eq_ok {p q : Plan} (hp : resolve cat ⟨exclude, failFast, ss⟩ = .ok p)
    (hq : resolve cat ⟨exclude, failFast, ts⟩ = .ok q) :
    resolve cat ⟨exclude, failFast, ss ++ ts⟩ =
      .ok ⟨p.steps ++ q.steps.map (Step.behind ss.length), exclude, failFast⟩ := by
  obtain ⟨hv, hs, -⟩ := resolve_eq_ok_iff.1 hp
  obtain ⟨hv', hs', -⟩ := resolve_eq_ok_iff.1 hq
  rw [resolve_eq_of_append, hv, hv', mapM_eq_ok_iff.2 hs, mapM_eq_ok_iff.2 hs']
  rfl

theorem exists_resolve_of_append {p : Plan}
    (hp : resolve cat ⟨exclude, failFast, ss ++ ts⟩ = .ok p) :
    (∃ q, resolve cat ⟨exclude, failFast, ss⟩ = .ok q) ∧
      ∃ q, resolve cat ⟨exclude, failFast, ts⟩ = .ok q := by
  rw [resolve_eq_of_append] at hp
  obtain ⟨⟨⟩, hv, hp⟩ := bind_eq_ok_iff.1 hp
  obtain ⟨⟨⟩, hv', hp⟩ := bind_eq_ok_iff.1 hp
  obtain ⟨steps, hs, hp⟩ := bind_eq_ok_iff.1 hp
  obtain ⟨more, hs', -⟩ := bind_eq_ok_iff.1 hp
  refine ⟨⟨⟨steps, exclude, failFast⟩,
    resolve_eq_ok_iff.2 ⟨hv, mapM_eq_ok_iff.1 hs, rfl, rfl⟩⟩, ?_⟩
  -- greater indices do not turn a failure into a success
  cases hw : (places ⟨exclude, failFast, ts⟩).mapM (stepAt cat) with
  | error e => rw [hw] at hs'; cases hs'
  | ok steps' =>
    exact ⟨⟨steps', exclude, failFast⟩, resolve_eq_ok_iff.2
      ⟨mapError_eq_ok_iff.1 hv', mapM_eq_ok_iff.1 hw, rfl, rfl⟩⟩

end Configuration

/-- **Resolution is compositional.** A configuration whose sources are those of two others, one
after the other, resolves iff both do, and then has the steps of both, those of the second with
greater indices. Otherwise a rule that the first breaks is the error, then one that the second
breaks, then a lookup that fails for the first, then one that fails for the second; what comes
from the second has greater indices. -/
theorem resolve_append (cat : Catalog) (exclude : Option String) (failFast : Bool)
    (ss ts : List Source) :
    let whole : Configuration := ⟨exclude, failFast, ss ++ ts⟩
    let first : Configuration := ⟨exclude, failFast, ss⟩
    let second : Configuration := ⟨exclude, failFast, ts⟩
    ((∃ p, whole.resolve cat = .ok p) ↔
      (∃ p, first.resolve cat = .ok p) ∧ ∃ q, second.resolve cat = .ok q) ∧
    (∀ p q, first.resolve cat = .ok p → second.resolve cat = .ok q →
      whole.resolve cat =
        .ok ⟨p.steps ++ q.steps.map (Step.behind ss.length), exclude, failFast⟩) ∧
    (∀ e, first.validate = .error e → whole.resolve cat = .error e) ∧
    (∀ e, first.validate = .ok () → second.validate = .error e →
      whole.resolve cat = .error (e.behind ss.length)) ∧
    (∀ e, first.validate = .ok () → second.validate = .ok () → first.resolve cat = .error e →
      whole.resolve cat = .error e) ∧
    ∀ p e, first.resolve cat = .ok p → second.validate = .ok () → second.resolve cat = .error e →
      whole.resolve cat = .error (e.behind ss.length) := by
  intro whole first second
  have hwhole := Configuration.resolve_eq_of_append cat exclude failFast ss ts
  refine ⟨⟨fun ⟨_, h⟩ => Configuration.exists_resolve_of_append h, fun ⟨⟨_, hp⟩, _, hq⟩ =>
    ⟨_, Configuration.resolve_append_eq_ok hp hq⟩⟩,
    fun p q => Configuration.resolve_append_eq_ok, ?_, ?_, ?_, ?_⟩
  · intro e hv
    rw [hwhole, hv]
    rfl
  · intro e hv hv'
    rw [hwhole, hv, hv']
    rfl
  · intro e hv hv' he
    rw [hwhole, hv, hv', Configuration.walk_eq_error_of_valid hv he]
    rfl
  · intro p e hp hv' he
    obtain ⟨hv, hs, -⟩ := Configuration.resolve_eq_ok_iff.1 hp
    rw [hwhole, hv, hv', mapM_eq_ok_iff.2 hs, Configuration.walk_eq_error_of_valid hv' he]
    rfl

/-- A blank hook id in the second part wins over a lookup that fails in the first, and is found at
index 1 of the whole. Once it is filled in, both parts resolve, and so does the whole. -/
theorem resolve_append_blank_id :
    ∃ (e : Error) (p q : Plan),
      Configuration.validate { sources := [⟨"b", "2", [{ id := "" }]⟩] } = .error e ∧
      Configuration.resolve (fun _ _ _ => .error "unknown")
          { sources := [⟨"a", "1", [{ id := "x" }]⟩] ++ [⟨"b", "2", [{ id := "" }]⟩] } =
        .error (e.behind 1) ∧
      Error.entry? (e.behind 1) = some ((EntryRef.source 1 "b" "2").hook 0 "") ∧
      Configuration.resolve .declaredOnly { sources := [⟨"a", "1", [{ id := "x" }]⟩] } = .ok p ∧
      Configuration.resolve .declaredOnly { sources := [⟨"b", "2", [{ id := "y" }]⟩] } = .ok q ∧
      Configuration.resolve .declaredOnly
          { sources := [⟨"a", "1", [{ id := "x" }]⟩] ++ [⟨"b", "2", [{ id := "y" }]⟩] } =
        .ok { steps := p.steps ++ q.steps.map (Step.behind 1) } := by
  refine ⟨_, _, _, rfl, ?_, rfl, rfl, rfl, ?_⟩
  · exact (resolve_append (fun _ _ _ => .error "unknown") none false
      [⟨"a", "1", [{ id := "x" }]⟩] [⟨"b", "2", [{ id := "" }]⟩]).2.2.2.1 _ rfl rfl
  · exact (resolve_append .declaredOnly none false
      [⟨"a", "1", [{ id := "x" }]⟩] [⟨"b", "2", [{ id := "y" }]⟩]).2.1 _ _ rfl rfl

end HookPlan
