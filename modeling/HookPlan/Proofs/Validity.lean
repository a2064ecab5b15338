import HookPlan.Error
import Mathlib.Data.List.Basic

/-!
# What makes a configuration valid

Validation looks for the first rule that is broken, source by source and hook by hook. It finds
none iff each source keeps all of them.

* `Source.Valid`: the rules for a source, without an order.
* `Configuration.validate_eq_ok_iff`: a configuration passes iff all its sources are valid.
-/

namespace HookPlan

/-- A source that breaks no rule. -/
structure Source.Valid (s : Source) : Prop where
  location : Unicode.isBlankText s.location = false
  revision : Unicode.isBlankText s.revision = false
  hooks : s.hooks ≠ []
  ids : ∀ h ∈ s.hooks, Unicode.isBlankText h.id = false

theorem isBlankText_eq_false_iff {t : String} :
    Unicode.isBlankText t = false ↔ ∃ ch ∈ t.toList, Unicode.isSpace ch = false := by
  rw [Unicode.isBlankText, List.all_eq_false]
  simp only [Bool.not_eq_true]

theorem ne_empty_of_not_blank {t : String} (h : Unicode.isBlankText t = false) : t ≠ "" := by
  rintro rfl
  cases h

namespace Source

theorem firstBlankId_eq_none_iff {entry : EntryRef} {j : ℕ} {hs : List Invocation} :
    firstBlankId entry j hs = none ↔ ∀ h ∈ hs, Unicode.isBlankText h.id = false := by
  induction hs generalizing j with
  | nil => simp [firstBlankId]
  | cons h hs ih =>
    rw [firstBlankId, List.forall_mem_cons]
    cases hb : Unicode.isBlankText h.id
    · simp [ih]
    · simp

/-- A source has no violation, wherever it stands, iff it is valid. -/
theorem violation_eq_none_iff {s : Source} {i : ℕ} : s.violation i = none ↔ s.Valid := by
  unfold violation
  constructor
  · intro h
    split at h
    · cases h
    rename_i hl
    split at h
    · cases h
    rename_i hr
    split at h
    · cases h
    rename_i he
    exact ⟨by simpa using hl, by simpa using hr, by simpa using he,
      firstBlankId_eq_none_iff.1 h⟩
  · intro h
    rw [if_neg (by simp [h.location]), if_neg (by simp [h.revision]), if_neg (by simp [h.hooks])]
    exact firstBlankId_eq_none_iff.2 h.ids

end Source

namespace Configuration

theorem violationFrom_eq_none_iff {i : ℕ} {ss : List Source} :
    violationFrom i ss = none ↔ ∀ s ∈ ss, s.Valid := by
  induction ss generalizing i with
  | nil => simp [violationFrom]
  | cons s ss ih =>
    rw [violationFrom, List.forall_mem_cons, ← ih (i := i + 1),
      ← Source.violation_eq_none_iff (i := i)]
    cases s.violation i <;> simp

/-- **A configuration passes iff all its sources are valid.** -/
theorem validate_eq_ok_iff {c : Configuration} :
    c.validate = .ok () ↔ ∀ s ∈ c.sources, s.Valid := by
  rw [← violationFrom_eq_none_iff (i := 0)]
  unfold validate violation
  cases violationFrom 0 c.sources <;> simp

end Configuration

end HookPlan
