import HookPlan.Proofs.Resolution
import HookPlan.Proofs.Validity

/-!
# The first rule that is broken

A configuration may break several rules at several places. They are looked at source by source, in
each source part by part, and the first one that is broken is the error. Its entry shows what is
written there, also where that is nothing but white space.

* `Legible`: a text with something to see; `Source.Breaks`: the rule for a part of a source.
* `EntryRef.PointsTo`: the entry of a part, with the texts that are not empty.
* `Source.exists_least_of_violation`: the first broken rule of a source.
* `Configuration.validate_finds_least`: the first broken rule of a configuration.
-/

namespace HookPlan

/-- A text that shows something: one of its characters is not white space. -/
def Legible (t : String) : Prop := ∃ ch ∈ t.toList, Unicode.isSpace ch = false

theorem not_legible_iff {t : String} : ¬ Legible t ↔ Unicode.isBlankText t = true := by
  rw [Legible, ← isBlankText_eq_false_iff, Bool.not_eq_false]

/-! ### Rules and entries -/

/-- The parts of a source that there are rules for. -/
inductive Part where
  | location
  | revision
  | hooks
  /-- The id of the hook with this index. -/
  | id (j : ℕ)

/-- The order in which the parts are looked at. -/
def Part.rank : Part → ℕ
  | location => 0
  | revision => 1
  | hooks => 2
  | id j => j + 3

def Part.rule : Part → Violation
  | location => .blankLocation
  | revision => .blankRevision
  | hooks => .noHooks
  | id _ => .blankId

/-- The rule for a part of a source is broken. -/
def Source.Breaks (s : Source) : Part → Prop
  | .location => ¬ Legible s.location
  | .revision => ¬ Legible s.revision
  | .hooks => s.hooks = []
  | .id j => ∃ h, s.hooks[j]? = some h ∧ ¬ Legible h.id

/-- The entry of a part of the source with index `i`. Texts are shown exactly as they are written,
unless they are empty, and only an id has the index of a hook. -/
structure EntryRef.PointsTo (e : EntryRef) (i : ℕ) (s : Source) (x : Part) : Prop where
  repoIndex : e.repoIndex = some i
  location : ∀ t, e.location = some t ↔ t = s.location ∧ t ≠ ""
  revision : ∀ t, e.revision = some t ↔ t = s.revision ∧ t ≠ ""
  hookIndex : ∀ j, e.hookIndex = some j ↔ x = .id j
  hookId : ∀ t, e.hookId = some t ↔
    ∃ j h, x = .id j ∧ s.hooks[j]? = some h ∧ t = h.id ∧ t ≠ ""
  line : e.line = none
  column : e.column = none

theorem EntryRef.nonEmpty_eq_some_iff {s t : String} :
    nonEmpty s = some t ↔ t = s ∧ t ≠ "" := by
  unfold nonEmpty
  by_cases h : s = ""
  · rw [if_pos (by simp [h])]
    simp [h]
  · rw [if_neg (by simp [h])]
    constructor
    · rintro ⟨⟩
      exact ⟨rfl, h⟩
    · rintro ⟨rfl, -⟩
      rfl

namespace Source

variable {s : Source} {i : ℕ}

/-- The entry of a part that is no id is the one of its source. -/
theorem pointsTo_source (s : Source) (i : ℕ) {x : Part} (hx : ∀ j, x ≠ .id j) :
    (EntryRef.source i s.location s.revision).PointsTo i s x where
  repoIndex := rfl
  location _ := EntryRef.nonEmpty_eq_some_iff
  revision _ := EntryRef.nonEmpty_eq_some_iff
  hookIndex j := ⟨nofun, fun h => absurd h (hx j)⟩
  hookId _ := ⟨nofun, fun ⟨j, _, h, _⟩ => absurd h (hx j)⟩
  line := rfl
  column := rfl

theorem pointsTo_hook (s : Source) (i : ℕ) {j : ℕ} {h : Invocation} (hj : s.hooks[j]? = some h) :
    ((EntryRef.source i s.location s.revision).hook j h.id).PointsTo i s (.id j) where
  repoIndex := rfl
  location _ := EntryRef.nonEmpty_eq_some_iff
  revision _ := EntryRef.nonEmpty_eq_some_iff
  hookIndex k := by simp [EntryRef.hook]
  hookId t := by
    rw [EntryRef.hook, EntryRef.nonEmpty_eq_some_iff]
    constructor
    · rintro ⟨rfl, ht⟩
      exact ⟨j, h, rfl, hj, rfl, ht⟩
    · rintro ⟨k, h', hk, hk', rfl, ht⟩
      cases hk
      rw [hj] at hk'
      cases hk'
      exact ⟨rfl, ht⟩
  line := rfl
  column := rfl

/-- A valid source breaks no rule. -/
theorem Valid.not_breaks (h : s.Valid) (x : Part) : ¬ s.Breaks x := by
  have hshown : ∀ {t}, Unicode.isBlankText t = false → ¬ ¬ Legible t := fun ht hb => by
    rw [not_legible_iff, ht] at hb
    cases hb
  cases x with
  | location => exact hshown h.location
  | revision => exact hshown h.revision
  | hooks => exact h.hooks
  | id j =>
    rintro ⟨hook, hj, hb⟩
    exact hshown (h.ids hook (List.mem_of_getElem? hj)) hb

theorem valid_iff : s.Valid ↔
    Legible s.location ∧ Legible s.revision ∧ s.hooks ≠ [] ∧ ∀ h ∈ s.hooks, Legible h.id := by
  simp only [Legible, ← isBlankText_eq_false_iff]
  exact ⟨fun h => ⟨h.location, h.revision, h.hooks, h.ids⟩,
    fun ⟨hl, hr, he, hi⟩ => ⟨hl, hr, he, hi⟩⟩

/-- The first blank id is the one with the least index. -/
theorem exists_least_of_firstBlankId {entry place : EntryRef} {v : Violation} {k : ℕ}
    {hs : List Invocation} (h : firstBlankId entry k hs = some (place, v)) :
    ∃ j hook, hs[j]? = some hook ∧ ¬ Legible hook.id ∧
      (∀ j' hook', hs[j']? = some hook' → ¬ Legible hook'.id → j ≤ j') ∧
      place = entry.hook (k + j) hook.id ∧ v = .blankId := by
  -- `k` hooks have been looked at, so `j` counts from where the search stands
  induction hs generalizing k with
  | nil => cases h
  | cons hook hs ih =>
    rw [firstBlankId] at h
    by_cases hb : Unicode.isBlankText hook.id = true
    · rw [if_pos hb] at h
      cases h
      exact ⟨0, hook, rfl, not_legible_iff.2 hb, fun _ _ _ _ => Nat.zero_le _, rfl, rfl⟩
    · rw [if_neg hb] at h
      obtain ⟨j, hook', hj, hblank, hleast, rfl, rfl⟩ := ih h
      refine ⟨j + 1, hook', hj, hblank, ?_, ?_, rfl⟩
      · intro j' hook'' hj' hblank'
        cases j' with
        | zero =>
          cases hj'
          exact absurd (not_legible_iff.1 hblank') hb
        | succ j' => exact Nat.succ_le_succ (hleast j' hook'' hj' hblank')
      · rw [Nat.add_right_comm, Nat.add_assoc]

/-- **The first rule that a source breaks** is the one for the part that is looked at first. -/
theorem exists_least_of_violation {entry : EntryRef} {v : Violation}
    (h : s.violation i = some (entry, v)) :
    ∃ x, s.Breaks x ∧ (∀ y, s.Breaks y → x.rank ≤ y.rank) ∧ entry.PointsTo i s x ∧ v = x.rule := by
  unfold violation at h
  dsimp only at h
  -- rank by rank: where one part is reached, the rules for those before it hold
  by_cases hl : Unicode.isBlankText s.location = true
  · rw [if_pos hl] at h
    cases h
    exact ⟨.location, not_legible_iff.2 hl, fun _ _ => Nat.zero_le _,
      s.pointsTo_source i (by simp), rfl⟩
  have hlocation : ¬ s.Breaks .location := fun hb => hl (not_legible_iff.1 hb)
  rw [if_neg hl] at h
  by_cases hr : Unicode.isBlankText s.revision = true
  · rw [if_pos hr] at h
    cases h
    refine ⟨.revision, not_legible_iff.2 hr, fun y hy => ?_, s.pointsTo_source i (by simp), rfl⟩
    cases y with
    | location => exact absurd hy hlocation
    | _ => simp [Part.rank]
  have hrevision : ¬ s.Breaks .revision := fun hb => hr (not_legible_iff.1 hb)
  rw [if_neg hr] at h
  by_cases he : s.hooks = []
  · rw [if_pos (by simp [he])] at h
    cases h
    refine ⟨.hooks, he, fun y hy => ?_, s.pointsTo_source i (by simp), rfl⟩
    cases y with
    | location => exact absurd hy hlocation
    | revision => exact absurd hy hrevision
    | _ => simp [Part.rank]
  · rw [if_neg (by simp [he])] at h
    obtain ⟨j, hook, hj, hblank, hleast, rfl, rfl⟩ := exists_least_of_firstBlankId h
    refine ⟨.id j, ⟨hook, hj, hblank⟩, fun y hy => ?_, ?_, rfl⟩
    · cases y with
      | location => exact absurd hy hlocation
      | revision => exact absurd hy hrevision
      | hooks => exact absurd hy he
      | id j' =>
        obtain ⟨hook', hj', hblank'⟩ := hy
        exact Nat.add_le_add_right (hleast j' hook' hj' hblank') 3
    · rw [Nat.zero_add]
      exact s.pointsTo_hook i hj

end Source

namespace Configuration

variable {c : Configuration}

/-- The places where rules are broken: the index of a source, and how late in it the part is looked
at. -/
def breaches (c : Configuration) : Set (ℕ ×ₗ ℕ) :=
  {place | ∃ s x, c.sources[(ofLex place).1]? = some s ∧ s.Breaks x ∧ x.rank = (ofLex place).2}

/-- The sources before the first one that breaks a rule are valid. -/
theorem exists_source_of_violationFrom {i : ℕ} {ss : List Source} {found : EntryRef × Violation}
    (h : violationFrom i ss = some found) :
    ∃ (k : ℕ) (s : Source), ss[k]? = some s ∧ s.violation (i + k) = some found ∧
      ∀ k' < k, ∀ s' : Source, ss[k']? = some s' → s'.Valid := by
  induction ss generalizing i with
  | nil => cases h
  | cons s ss ih =>
    rw [violationFrom] at h
    cases hs : s.violation i with
    | some broken =>
      rw [hs] at h
      cases h
      exact ⟨0, s, rfl, hs, fun k' hk' => absurd hk' (Nat.not_lt_zero k')⟩
    | none =>
      rw [hs] at h
      obtain ⟨k, s', hk, hs', hbefore⟩ := ih h
      refine ⟨k + 1, s', hk, by rwa [← Nat.add_assoc, Nat.add_right_comm], ?_⟩
      intro k' hk' s'' hs''
      cases k' with
      | zero =>
        cases hs''
        exact Source.violation_eq_none_iff.1 hs
      | succ k' => exact hbefore k' (by omega) s'' hs''

/-- The first rule that is broken stands at the least of the places where one is. -/
theorem exists_least_of_violation {entry : EntryRef} {v : Violation}
    (h : c.violation = some (entry, v)) :
    ∃ i s x, c.sources[i]? = some s ∧ s.Breaks x ∧ IsLeast c.breaches (toLex (i, x.rank)) ∧
      entry.PointsTo i s x ∧ v = x.rule := by
  obtain ⟨i, s, hi, hs, hbefore⟩ := exists_source_of_violationFrom h
  rw [Nat.zero_add] at hs
  obtain ⟨x, hx, hleast, hentry, hv⟩ := Source.exists_least_of_violation hs
  refine ⟨i, s, x, hi, hx, ⟨⟨s, x, hi, hx, rfl⟩, ?_⟩, hentry, hv⟩
  intro place hplace
  obtain ⟨i', r, rfl⟩ : ∃ i' r, place = toLex (i', r) := ⟨_, _, rfl⟩
  obtain ⟨s', y, hi', hy, rfl⟩ := hplace
  rw [Prod.Lex.toLex_le_toLex]
  -- no source before `s` breaks a rule, and in `s` itself the part `x` comes first
  rcases Nat.lt_trichotomy i i' with hlt | rfl | hgt
  · exact .inl hlt
  · obtain rfl : s = s' := Option.some.inj (hi.symm.trans hi')
    exact .inr ⟨rfl, hleast y hy⟩
  · exact absurd hy ((hbefore i' hgt s' hi').not_breaks y)

/-- **Validation finds the first rule that is broken.** A configuration passes iff each source has a
location and a revision that show something, at least one hook, and only hooks whose ids show
something. Otherwise the error is that a rule is broken, at the least place where one is: sources in
their order, and in a source the location, the revision, the list of hooks, and the ids in their
order. The entry points to just that place. -/
theorem validate_finds_least (c : Configuration) :
    (c.validate = .ok () ↔ ∀ s ∈ c.sources, Legible s.location ∧ Legible s.revision ∧
      s.hooks ≠ [] ∧ ∀ h ∈ s.hooks, Legible h.id) ∧
    (c.validate ≠ .ok () → ∃ i s x entry, c.sources[i]? = some s ∧ s.Breaks x ∧
      IsLeast c.breaches (toLex (i, x.rank)) ∧ entry.PointsTo i s x ∧
      c.validate = .error (.malformed entry (.broken x.rule))) := by
  constructor
  · simp only [validate_eq_ok_iff, Source.valid_iff]
  · intro h
    unfold validate at h ⊢
    cases hv : c.violation with
    | none =>
      rw [hv] at h
      exact absurd rfl h
    | some broken =>
      obtain ⟨entry, v⟩ := broken
      obtain ⟨i, s, x, hi, hx, hleast, hentry, rfl⟩ := exists_least_of_violation hv
      exact ⟨i, s, x, entry, hi, hx, hleast, hentry, rfl⟩

/-- The second source has a revision of white space and no hooks, and the third has an empty id. The
revision is the error, and its entry shows the white space. -/
theorem validate_finds_least_blank :
    ∃ (c : Configuration) (s : Source) (entry : EntryRef),
      c.sources = [⟨"a", "1", [{ id := "x" }]⟩, ⟨"b", " ", []⟩, ⟨"c", "3", [{ id := "" }]⟩] ∧
      c.validate ≠ .ok () ∧ c.sources[1]? = some s ∧ entry.PointsTo 1 s .revision ∧
      entry.revision = some " " ∧ entry.hookIndex = none ∧
      c.validate = .error (.malformed entry (.broken .blankRevision)) := by
  let c : Configuration :=
    { sources := [⟨"a", "1", [{ id := "x" }]⟩, ⟨"b", " ", []⟩, ⟨"c", "3", [{ id := "" }]⟩] }
  have hc : c.validate =
      .error (.malformed (.source 1 "b" " ") (.broken .blankRevision)) := rfl
  have hne : c.validate ≠ .ok () := by
    rw [hc]
    nofun
  obtain ⟨i, s, x, entry, hi, -, -, hentry, he⟩ := (validate_finds_least c).2 hne
  obtain ⟨rfl, hrule⟩ : EntryRef.source 1 "b" " " = entry ∧ Violation.blankRevision = x.rule := by
    rw [hc] at he
    simpa using he
  obtain rfl : i = 1 := (Option.some.inj hentry.repoIndex).symm
  cases x with
  | revision => exact ⟨c, s, _, rfl, hne, hi, hentry, rfl, rfl, hc⟩
  | _ => cases hrule

end Configuration

end HookPlan
