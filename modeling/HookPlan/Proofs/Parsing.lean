import HookPlan.Proofs.Blame

/-!
# Configurations out of a text

A text is read, and what was read is checked before it is given out. So whatever is wrong with a
text shows there, and what comes later can rely on the rules.

* `Malformation.PlacedAt`: where a fault of a text is placed.
* `parse_eq_ok_iff`, `parse_eq_error_iff`: parsing is reading, then checking.
* `Step.Named`: a step that says which hook it is for; `named_of_mem_steps` for all steps of plans.
* `parse_fails_or_resolves`: a text is refused with its place, or all goes well from there on.
-/

namespace HookPlan

variable {cat : Catalog} {c : Configuration} {p q : Plan} {e : Error} {text : String}

/-! ### Places of faults -/

/-- Where a fault of a text is placed. What cannot be read has a line and a column, or no place at
all; a rule that is broken has the index of a source, and neither line nor column. -/
def Malformation.PlacedAt : Malformation → EntryRef → Prop
  | unreadable _, entry => entry = {} ∨ ∃ line column, entry = .position line column
  | broken _, entry => (∃ i, entry.repoIndex = some i) ∧ entry.line = none ∧ entry.column = none

theorem Yaml.ReadError.placedAt (cause : Yaml.ReadError) :
    (Malformation.unreadable cause).PlacedAt cause.entry := by
  unfold Malformation.PlacedAt ReadError.entry
  cases cause.mark? with
  | none => exact Or.inl rfl
  | some m => exact Or.inr ⟨m.line + 1, m.column + 1, rfl⟩

namespace Source

theorem exists_hook_of_firstBlankId {entry place : EntryRef} {v : Violation} {j : ℕ}
    {hs : List Invocation} (h : firstBlankId entry j hs = some (place, v)) :
    ∃ k id, place = entry.hook k id := by
  induction hs generalizing j with
  | nil => cases h
  | cons i hs ih =>
    rw [firstBlankId] at h
    split at h
    · cases h
      exact ⟨j, i.id, rfl⟩
    · exact ih h

/-- A rule that a source breaks is placed at the source, or at one of its hooks. -/
theorem entry_of_violation {s : Source} {i : ℕ} {entry : EntryRef} {v : Violation}
    (h : s.violation i = some (entry, v)) :
    entry.repoIndex = some i ∧ entry.line = none ∧ entry.column = none := by
  unfold violation at h
  dsimp only at h
  split at h
  · cases h
    exact ⟨rfl, rfl, rfl⟩
  split at h
  · cases h
    exact ⟨rfl, rfl, rfl⟩
  split at h
  · cases h
    exact ⟨rfl, rfl, rfl⟩
  · obtain ⟨k, id, rfl⟩ := exists_hook_of_firstBlankId h
    exact ⟨rfl, rfl, rfl⟩

end Source

namespace Configuration

theorem placedAt_of_violationFrom {i : ℕ} {ss : List Source} {entry : EntryRef} {v : Violation}
    (h : violationFrom i ss = some (entry, v)) : (Malformation.broken v).PlacedAt entry := by
  induction ss generalizing i with
  | nil => cases h
  | cons s ss ih =>
    rw [violationFrom] at h
    cases hs : s.violation i with
    | none =>
      rw [hs] at h
      exact ih h
    | some broken =>
      rw [hs] at h
      cases h
      obtain ⟨hi, hline, hcolumn⟩ := Source.entry_of_violation hs
      exact ⟨⟨i, hi⟩, hline, hcolumn⟩

/-- A check fails with a rule that is broken, at its place. -/
theorem validate_eq_error (h : c.validate = .error e) :
    ∃ entry v, e = .malformed entry (.broken v) ∧ (Malformation.broken v).PlacedAt entry := by
  unfold validate at h
  cases hv : c.violation with
  | none => rw [hv] at h; cases h
  | some broken =>
    obtain ⟨entry, v⟩ := broken
    rw [hv] at h
    cases h
    exact ⟨entry, v, rfl, placedAt_of_violationFrom hv⟩

/-! ### Parsing -/

theorem parse_eq_ok_iff :
    parse text = .ok c ↔ (Yaml.Document.ofString text).read read = .ok c ∧ c.validate = .ok () := by
  unfold parse
  cases (Yaml.Document.ofString text).read read with
  | error cause => simp
  | ok d =>
    simp only [bind_eq_ok_iff, Except.ok.injEq]
    constructor
    · rintro ⟨⟨⟩, hv, h⟩
      cases h
      exact ⟨rfl, hv⟩
    · rintro ⟨rfl, hv⟩
      exact ⟨(), hv, rfl⟩

theorem parse_eq_error_iff :
    parse text = .error e ↔
      (∃ cause, (Yaml.Document.ofString text).read read = .error cause ∧
        e = .malformed cause.entry (.unreadable cause)) ∨
      ∃ d, (Yaml.Document.ofString text).read read = .ok d ∧ d.validate = .error e := by
  unfold parse
  cases (Yaml.Document.ofString text).read read with
  | error cause => simp [eq_comm]
  | ok d =>
    constructor
    · intro h
      exact Or.inr ⟨d, rfl, bind_pure_eq_error_iff.1 h⟩
    · rintro (⟨cause, h, -⟩ | ⟨d', h, hv⟩)
      · cases h
      · cases h
        exact bind_pure_eq_error_iff.2 hv

/-- A small text with one hook, and with a pattern that does not compile. -/
def smallText : String := "exclude: )\nrepos:\n- repo: l\n  rev: r\n  hooks: [id: a]"

/-- A small text is read although its pattern does not compile. -/
theorem parse_smallText :
    parse smallText = .ok { exclude := some ")", sources := [⟨"l", "r", [{ id := "a" }]⟩] } := by
  with_unfolding_all rfl

/-- A small text that breaks a rule. -/
theorem parse_noHooks :
    parse "repos:\n- repo: l\n  rev: r\n  hooks: []" =
      .error (.malformed (.source 0 "l" "r") (.broken .noHooks)) := by
  with_unfolding_all rfl

/-- **A text that is refused** is malformed, at a place that goes with what is wrong. -/
theorem exists_placedAt_of_parse_eq_error (h : parse text = .error e) :
    ∃ entry reason, e = .malformed entry reason ∧ reason.PlacedAt entry := by
  rcases parse_eq_error_iff.1 h with ⟨cause, -, rfl⟩ | ⟨d, -, hd⟩
  · exact ⟨_, _, rfl, cause.placedAt⟩
  · obtain ⟨entry, v, rfl, hplace⟩ := validate_eq_error hd
    exact ⟨entry, _, rfl, hplace⟩

/-! ### Plans of a valid configuration -/

theorem exists_resolve_declaredOnly (hv : c.validate = .ok ()) :
    ∃ p, c.resolve .declaredOnly = .ok p := by
  obtain ⟨steps, hs⟩ := walk_isOk_iff.2 (failures_declaredOnly c)
  exact ⟨⟨steps, c.exclude, c.failFast⟩,
    resolve_eq_ok_iff.2 ⟨hv, mapM_eq_ok_iff.1 hs, rfl, rfl⟩⟩

/-- Only the catalog can keep a valid configuration from having a plan. -/
theorem exists_unresolvable_of_resolve_eq_error (hv : c.validate = .ok ())
    (he : c.resolve cat = .error e) : ∃ entry reason, e = .unresolvable entry reason := by
  obtain ⟨i, j, s, h, reason, -, -, -, rfl⟩ :=
    walk_eq_error_iff.1 (walk_eq_error_of_valid hv he)
  exact ⟨_, reason, rfl⟩

/-- **Every source has a step**, since it has a hook. -/
theorem exists_step_of_source (hp : c.resolve cat = .ok p) {i : ℕ} (hi : i < c.sources.length) :
    ∃ s ∈ p.steps, s.repoIndex = i := by
  have hget : c.sources[i]? = some c.sources[i] := List.getElem?_eq_getElem hi
  have hvalid : c.sources[i].Valid :=
    validate_eq_ok_iff.1 (resolve_eq_ok_iff.1 hp).1 _ (List.getElem_mem hi)
  obtain ⟨h, hs, hhooks⟩ := List.exists_cons_of_ne_nil hvalid.hooks
  -- the first hook has a place, and the steps are at the positions of the places
  have hplace : (⟨i, 0, c.sources[i], h⟩ : Cell Source Invocation) ∈ c.places :=
    mem_places.2 ⟨hget, by rw [hhooks]; rfl⟩
  have hpos : toLex (i, 0) ∈ p.steps.map Step.position := by
    rw [map_position_steps hp]
    exact List.mem_map_of_mem hplace
  obtain ⟨s, hs, hsi⟩ := List.mem_map.1 hpos
  exact ⟨s, hs, congrArg (fun x => (ofLex x).1) hsi⟩

end Configuration

/-! ### Names -/

/-- A step that says which hook it is for: each part of its reference has a character that is not
white space. -/
structure Step.Named (s : Step) : Prop where
  location : ∃ ch ∈ s.location.toList, Unicode.isSpace ch = false
  revision : ∃ ch ∈ s.revision.toList, Unicode.isSpace ch = false
  hookId : ∃ ch ∈ s.hookId.toList, Unicode.isSpace ch = false

/-- **No step has a blank name**, and no restriction brings one in. -/
theorem named_of_mem_steps (hp : c.resolve cat = .ok p) (hq : p.Narrows q) {s : Step}
    (hs : s ∈ q.steps) : s.Named := by
  obtain ⟨source, h, d, hi, -, hr⟩ :=
    Configuration.exists_invokes_of_mem_steps hp (hq.sublist.1.subset hs)
  have hvalid : source.Valid := Configuration.validate_eq_ok_iff.1
    (Configuration.resolve_eq_ok_iff.1 hp).1 source (List.mem_of_getElem? hi.1)
  constructor
  · rw [hr.location]
    exact isBlankText_eq_false_iff.1 hvalid.location
  · rw [hr.revision]
    exact isBlankText_eq_false_iff.1 hvalid.revision
  · rw [hr.hookId]
    exact isBlankText_eq_false_iff.1 (hvalid.ids h (List.mem_of_getElem? hi.2))

/-- **From a text to a plan nothing fails late.** A text that is refused is malformed, at a line and
a column, at no place, or at a source. Any other text gives a configuration that keeps all rules:
it has a plan, no catalog makes it malformed, each of its sources has a step in every plan that a
catalog leads to, and no step has a blank name, also after the plan was restricted. -/
theorem parse_fails_or_resolves (text : String) :
    (∀ e, Configuration.parse text = .error e →
      ∃ entry reason, e = .malformed entry reason ∧ reason.PlacedAt entry) ∧
    ∀ c, Configuration.parse text = .ok c →
      c.validate = .ok () ∧
      (∃ p, c.resolve .declaredOnly = .ok p) ∧
      (∀ cat entry reason, c.resolve cat ≠ .error (.malformed entry reason)) ∧
      ∀ cat p, c.resolve cat = .ok p →
        (∀ i < c.sources.length, ∃ s ∈ p.steps, s.repoIndex = i) ∧
        ∀ q, p.Narrows q → ∀ s ∈ q.steps, s.Named := by
  refine ⟨fun e he => Configuration.exists_placedAt_of_parse_eq_error he, fun c hc => ?_⟩
  obtain ⟨-, hv⟩ := Configuration.parse_eq_ok_iff.1 hc
  refine ⟨hv, Configuration.exists_resolve_declaredOnly hv, ?_, fun cat p hp =>
    ⟨fun i hi => Configuration.exists_step_of_source hp hi, fun q hq s hs =>
      named_of_mem_steps hp hq hs⟩⟩
  intro cat entry reason he
  obtain ⟨entry', reason', h⟩ := Configuration.exists_unresolvable_of_resolve_eq_error hv he
  cases h

/-- A small text has a plan with one step; without its hook it is refused at its source. -/
theorem parse_fails_or_resolves_small :
    (∃ c p, Configuration.parse Configuration.smallText = .ok c ∧
      c.resolve .declaredOnly = .ok p ∧ ∃ s ∈ p.steps, s.repoIndex = 0 ∧ s.Named) ∧
    ∃ e entry, Configuration.parse "repos:\n- repo: l\n  rev: r\n  hooks: []" = .error e ∧
      e = .malformed entry (.broken .noHooks) ∧ (Malformation.broken .noHooks).PlacedAt entry := by
  constructor
  · obtain ⟨-, ⟨p, hp⟩, -, hplans⟩ := (parse_fails_or_resolves _).2 _ Configuration.parse_smallText
    obtain ⟨hsteps, hnamed⟩ := hplans _ p hp
    obtain ⟨s, hs, hsi⟩ := hsteps 0 (by decide)
    exact ⟨_, p, Configuration.parse_smallText, hp, s, hs, hsi, hnamed p .refl s hs⟩
  · obtain ⟨entry, reason, h, hplace⟩ :=
      (parse_fails_or_resolves _).1 _ Configuration.parse_noHooks
    cases h
    exact ⟨_, _, Configuration.parse_noHooks, rfl, hplace⟩

end HookPlan
