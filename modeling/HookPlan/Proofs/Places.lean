import HookPlan.Proofs.Blame

/-!
# Places by their texts

A reference is shown by indices and by what is written at its place. What is written is shown as it
is, so it may imitate whatever stands around it. Still all places of a configuration are shown
differently: the index of the source stands before anything that is written, and a source and its
hooks are shown alike from there up to the index of the hook.

* `Place`, `Configuration.reference?`: the places of a configuration and the references to them.
* `toString_bracket_inj`: an index and its closing bracket can be read off the start of a text.
* `text_source`, `text_hook`: the text for a hook goes on where the one for its source ends.
* `texts_tell_places_apart`: for all places of a configuration, and for the steps of its plans.
-/

namespace HookPlan

variable {cat : Catalog} {c : Configuration} {p q : Plan} {i j : ℕ} {e e' : EntryRef}

/-- A source or one of its hooks, by their indices. -/
inductive Place where
  | source (i : ℕ)
  | hook (i j : ℕ)
  deriving DecidableEq

namespace Place

/-- The index of the source. -/
def row : Place → ℕ
  | source i => i
  | hook i _ => i

/-- How a text for the source goes on if it is for a place in it: not at all, or with the index of
a hook. -/
def Continues (rest : String) : Place → Prop
  | source _ => rest = ""
  | hook _ j => ∃ more, rest = " hooks[" ++ (toString j ++ ("]" ++ more))

end Place

/-- The reference to a place, if there is anything at it. -/
def Configuration.reference? (c : Configuration) : Place → Option EntryRef
  | .source i => c.sources[i]?.map fun s => .source i s.location s.revision
  | .hook i j => c.sources[i]?.bind fun s => s.hooks[j]?.map fun h =>
    (EntryRef.source i s.location s.revision).hook j h.id

/-! ### Indices in a text -/

/-- **An index in brackets can be read off**, since no digit is a bracket. -/
theorem toString_bracket_inj {s t : String}
    (h : toString i ++ ("]" ++ s) = toString j ++ ("]" ++ t)) : i = j ∧ s = t := by
  have hdigits : ∀ (n : ℕ) (rest : String),
      (toString n ++ ("]" ++ rest)).toList.takeWhile Char.isDigit = Nat.toDigits 10 n := by
    intro n rest
    have hall : ∀ d ∈ Nat.toDigits 10 n, d.isDigit = true := fun _ =>
      Nat.isDigit_of_mem_toDigits (by omega) (by omega)
    have hbracket : ("]" ++ rest).toList.takeWhile Char.isDigit = [] := by
      rw [String.toList_append]
      rfl
    rw [String.toList_append, Nat.toString_eq_repr, Nat.toList_repr,
      List.takeWhile_append_of_pos hall, hbracket, List.append_nil]
  have hij : i = j :=
    calc
      i = Nat.ofDigitChars 10 (Nat.toDigits 10 i) 0 := Nat.ofDigitChars_ten_toDigits.symm
      _ = Nat.ofDigitChars 10 (Nat.toDigits 10 j) 0 := by rw [← hdigits i s, h, hdigits]
      _ = j := Nat.ofDigitChars_ten_toDigits
  subst hij
  exact ⟨rfl, (String.append_right_inj _).1 ((String.append_right_inj _).1 h)⟩

namespace EntryRef

theorem text_eq (hi : e.repoIndex = some i) (hl : e.line = none) :
    e.text = " at repos[" ++ (toString i ++ ("]" ++ (e.sourceText ++ (e.hookText ++ e.idText)))) := by
  have hne : e.isEmpty = false := by
    rw [isEmpty, beq_eq_false_iff_ne]
    rintro rfl
    cases hi
  have hposition : e.positionText = "" := by rw [positionText, hl]
  have hrepo : e.repoText = " repos[" ++ toString i ++ "]" := by rw [repoText, hi]; rfl
  rw [text, hne, hposition, hrepo]
  simp only [Bool.false_eq_true, if_false, String.append_empty, ← String.append_assoc]
  rfl

theorem text_source (i : ℕ) (location revision : String) :
    (source i location revision).text =
      " at repos[" ++ (toString i ++ ("]" ++ (source i location revision).sourceText)) := by
  rw [text_eq (i := i) rfl rfl]
  show _ ++ (_ ++ (_ ++ (_ ++ ("" ++ "")))) = _
  rw [String.append_empty, String.append_empty]

/-- The text for a hook is the one for its source, and more. -/
theorem text_hook (i j : ℕ) (location revision id : String) :
    ((source i location revision).hook j id).text =
      (source i location revision).text ++ (" hooks[" ++ (toString j ++
        ("]" ++ ((source i location revision).hook j id).idText))) := by
  have hsource : ((source i location revision).hook j id).sourceText =
      (source i location revision).sourceText := rfl
  have hhook : ((source i location revision).hook j id).hookText = " hooks[" ++ toString j ++ "]" :=
    rfl
  rw [text_eq (i := i) rfl rfl, text_source, hsource, hhook]
  simp only [String.append_assoc]

end EntryRef

/-! ### References of one configuration -/

namespace Configuration

variable {x y : Place}

/-- The text of a reference starts with the one for the source. -/
theorem exists_text_eq (hx : c.reference? x = some e) :
    ∃ s rest, c.sources[x.row]? = some s ∧
      e.text = (EntryRef.source x.row s.location s.revision).text ++ rest ∧ x.Continues rest := by
  cases x with
  | source i =>
    obtain ⟨s, hs, rfl⟩ := Option.map_eq_some_iff.1 hx
    exact ⟨s, "", hs, String.append_empty.symm, rfl⟩
  | hook i j =>
    obtain ⟨s, hs, hx⟩ := Option.bind_eq_some_iff.1 hx
    obtain ⟨h, -, rfl⟩ := Option.map_eq_some_iff.1 hx
    exact ⟨s, _, hs, EntryRef.text_hook i j _ _ _, _, rfl⟩

theorem text_ne_empty (hx : c.reference? x = some e) : e.text ≠ "" := by
  obtain ⟨s, rest, -, he, -⟩ := exists_text_eq hx
  rw [he, EntryRef.text_source]
  simp only [ne_eq, String.append_eq_empty_iff]
  exact fun h => absurd h.1.1 (by decide)

/-- Places in one source are the same if the text goes on in the same way. -/
theorem place_eq_of_continues {rest : String} (hrow : x.row = y.row) (hx : x.Continues rest)
    (hy : y.Continues rest) : x = y := by
  have hstart : ∀ more : String, "" ≠ " hooks[" ++ more := fun more h =>
    absurd (String.append_eq_empty_iff.1 h.symm).1 (by decide)
  cases x with
  | source i =>
    cases y with
    | source i' => exact congrArg Place.source hrow
    | hook i' j' =>
      obtain ⟨more, hmore⟩ := hy
      exact absurd ((show rest = "" from hx).symm.trans hmore) (hstart _)
  | hook i j =>
    obtain ⟨more, hmore⟩ := hx
    cases y with
    | source i' => exact absurd ((show rest = "" from hy).symm.trans hmore) (hstart _)
    | hook i' j' =>
      obtain ⟨more', hmore'⟩ := hy
      obtain ⟨rfl, -⟩ :=
        toString_bracket_inj ((String.append_right_inj _).1 (hmore.symm.trans hmore'))
      exact congrArg (Place.hook · j) hrow

/-- **A text is shown for one place only**, of all places of a configuration. -/
theorem place_eq_of_text_eq (hx : c.reference? x = some e) (hy : c.reference? y = some e')
    (h : e.text = e'.text) : x = y := by
  obtain ⟨s, rest, hs, he, hrest⟩ := exists_text_eq hx
  obtain ⟨s', rest', hs', he', hrest'⟩ := exists_text_eq hy
  rw [he, he'] at h
  have hrow : x.row = y.row := by
    rw [EntryRef.text_source, EntryRef.text_source] at h
    simp only [String.append_assoc] at h
    exact (toString_bracket_inj ((String.append_right_inj _).1 h)).1
  -- one index means one source, so what is written there is no matter any more
  rw [hrow] at hs h
  cases hs.symm.trans hs'
  cases (String.append_right_inj _).1 h
  exact place_eq_of_continues hrow hrest hrest'

/-! ### Steps of plans -/

/-- The entry of a step is the reference to its place. -/
theorem reference?_of_mem_steps (hp : c.resolve cat = .ok p) {step : Step} (hs : step ∈ p.steps) :
    c.reference? (.hook step.repoIndex step.hookIndex) = some step.entry := by
  obtain ⟨s, h, d, ⟨hi, hj⟩, -, hr⟩ := exists_invokes_of_mem_steps hp hs
  unfold reference?
  dsimp only
  rw [hi, Option.bind_some, hj, Option.map_some, Step.entry, hr.location, hr.revision, hr.hookId]

theorem pairwise_position_steps (hp : c.resolve cat = .ok p) :
    p.steps.Pairwise fun s t => s.position < t.position := by
  have h : (p.steps.map Step.position).Pairwise (· < ·) := by
    rw [map_position_steps hp, List.pairwise_map]
    exact Cell.cells_sorted _ _
  exact List.pairwise_map.1 h

/-- No two steps of a plan are shown alike. -/
theorem nodup_text_entry (hp : c.resolve cat = .ok p) :
    (p.steps.map fun step => step.entry.text).Nodup := by
  rw [List.Nodup, List.pairwise_map]
  refine (pairwise_position_steps hp).imp_of_mem fun {s t} hs ht hlt htext => ?_
  have hplace := place_eq_of_text_eq (reference?_of_mem_steps hp hs)
    (reference?_of_mem_steps hp ht) htext
  injection hplace with hi hj
  rw [Step.position, Step.position, hi, hj] at hlt
  exact lt_irrefl _ hlt

/-- **Different places are shown differently**, whatever is written at them, and none is shown by
an empty text. This includes the hooks that the steps of a plan come from, also after the plan was
restricted. -/
theorem texts_tell_places_apart (c : Configuration) :
    (∀ x y e e', c.reference? x = some e → c.reference? y = some e' → x ≠ y → e.text ≠ e'.text) ∧
    (∀ x e, c.reference? x = some e → e.text ≠ "") ∧
    ∀ cat p q, c.resolve cat = .ok p → p.Narrows q →
      (∀ step ∈ q.steps, c.reference? (.hook step.repoIndex step.hookIndex) = some step.entry) ∧
      (q.steps.map fun step => step.entry.text).Nodup := by
  refine ⟨fun x y e e' hx hy hne htext => hne (place_eq_of_text_eq hx hy htext),
    fun x e hx => text_ne_empty hx, fun cat p q hp hq => ⟨fun step hstep => ?_, ?_⟩⟩
  · exact reference?_of_mem_steps hp (hq.sublist.1.subset hstep)
  · exact (nodup_text_entry hp).sublist (hq.sublist.1.map _)

/-- The revision of one source imitates the reference to a hook of the other, with its bracket and
its quotes. -/
theorem texts_tell_places_apart_imitated :
    let c : Configuration := { sources := [
      ⟨"l", "1) hooks[1] 'x'", [{ id := "x" }, { id := "x" }]⟩,
      ⟨"l", "1", [{ id := "y" }, { id := "x" }]⟩] }
    ∃ e e' p q, c.reference? (.source 0) = some e ∧ c.reference? (.hook 1 1) = some e' ∧
      e.text ≠ e'.text ∧ e'.text ≠ "" ∧
      c.resolve .declaredOnly = .ok p ∧ p.retain "x" = .ok q ∧ q.size = 3 ∧
      (q.steps.map fun step => step.entry.text).Nodup := by
  intro c
  obtain ⟨hne, hempty, hsteps⟩ := texts_tell_places_apart c
  have hp : c.resolve .declaredOnly = .ok _ := rfl
  refine ⟨_, _, _, _, rfl, rfl, hne (.source 0) (.hook 1 1) _ _ rfl rfl (by decide),
    hempty (.hook 1 1) _ rfl, hp, rfl, rfl, ?_⟩
  exact (hsteps _ _ _ hp (.retain .refl (show Plan.retain _ "x" = _ from rfl))).2

end Configuration

end HookPlan
