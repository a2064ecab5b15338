import HookPlan.Plan.Json
import HookPlan.Proofs.Json.Members

/-!
# The members of plans

The text of a plan is an object that holds the plan's own members, and whatever else it holds is
of no account. The same is true of each step in it and of the filter of each step, where the
pattern may come before the kind that says what it is for.

* `FileFilter.WrittenAs`, `Step.WrittenAs`, `Plan.WrittenAs`: the texts of filters, steps and plans.
* `Draft.Fills`: the ways in which a filter is put together, of which two lead to a pattern.
* `Plan.WrittenAs.takes`: a plan is read from every text that is written for it.
-/

namespace HookPlan

open Json

/-- The indices of all steps are numbers of 64 bits. -/
def Plan.Fits (p : Plan) : Prop :=
  ∀ s ∈ p.steps, s.repoIndex < UInt64.size ∧ s.hookIndex < UInt64.size

/-! ### Texts -/

/-- The texts for an exclusion: null if there is none. -/
def IsExclusion (exclude : Option String) (cs : List Char) : Prop :=
  match exclude with
  | none => cs = "null".toList
  | some text => Spelled cs text

/-- What the text of a filter holds. -/
def FileFilter.known : FileFilter → List Known
  | all => [.needed "kind" (Spelled · "all")]
  | pattern p => [.needed "kind" (Spelled · "pattern"), .needed "pattern" (Spelled · p)]

/-- The texts of a filter. One for all paths has no pattern, of whatever form. -/
def FileFilter.WrittenAs (f : FileFilter) (cs : List Char) : Prop :=
  Holds ["kind", "pattern"] f.known cs

namespace Step

/-- What the text of a step holds. -/
def known (s : Step) : List Known := [
  .needed "source_location" (Spelled · s.location),
  .needed "revision" (Spelled · s.revision),
  .needed "hook_id" (Spelled · s.hookId),
  .needed "effective_name" (Spelled · s.name),
  .needed "effective_args" (Enclosed .list (fun arg cs => Spelled cs arg) s.args),
  .needed "file_filter" s.files.WrittenAs,
  ⟨"exclude", IsExclusion s.exclude, s.exclude = none⟩,
  .needed "repo_index" (· = Nat.toDigits 10 s.repoIndex),
  .needed "hook_index" (· = Nat.toDigits 10 s.hookIndex)]

/-- The texts of a step. -/
def WrittenAs (s : Step) (cs : List Char) : Prop := Holds (s.known.map Known.name) s.known cs

end Step

namespace Plan

/-- What the text of a plan holds. -/
def known (p : Plan) : List Known := [
  .needed "steps" (Enclosed .list Step.WrittenAs p.steps),
  ⟨"exclude", IsExclusion p.exclude, p.exclude = none⟩,
  ⟨"fail_fast", (· = (if p.failFast then "true" else "false").toList), p.failFast = false⟩]

/-- The texts of a plan. -/
def WrittenAs (p : Plan) (cs : List Char) : Prop := Holds (p.known.map Known.name) p.known cs

end Plan

/-! ### Filters -/

namespace FileFilter

/-- What a member makes of the draft of a filter. A pattern may be read before it is known whether
it will be used, and its kind is then looked at last. -/
inductive Draft.Fills : String × List Char → Draft → Draft → Prop
  | kind {t : Tag} {text : List Char} (h : Spelled text t.name) :
    Fills (tagKey, text) .nothing (.tagged t)
  | pattern {p : String} {text : List Char} (h : Spelled text p) :
    Fills (contentKey, text) (.tagged .pattern) (.complete (.pattern p))
  | patternFirst {p : String} {text : List Char} (h : Spelled text p) :
    Fills (contentKey, text) .nothing (.waiting (.text p))
  | kindLast {p : String} {text : List Char} (h : Spelled text Tag.pattern.name) :
    Fills (tagKey, text) (.waiting (.text p)) (.complete (.pattern p))
  | other {m : String × List Char} {d : Draft} (hn : m.1 ∉ [tagKey, contentKey])
    (hv : IsValue m.2) : Fills m d d

theorem takes_tag {t : Tag} {text : List Char} (h : Spelled text t.name) :
    Takes Tag.read text t := by
  intro pad rest hp hr
  have hname : Tag.readName (text ++ rest) = .ok (t, rest) := by
    unfold Tag.readName
    rw [bind_apply ((takes_stringAs _ h).apply hr)]
    cases t <;> rfl
  obtain ⟨parts, -, rfl⟩ := h
  unfold Tag.read
  show (next? >>= _) (pad ++ '"' :: _) = _
  rw [bind_apply (next?_apply hp rfl _)]
  exact hname

theorem takes_content {p : String} {text : List Char} (h : Spelled text p) (depth : ℕ) :
    Takes (Content.read depth) text (.text p) := by
  intro pad rest hp _
  have hread := quoted_apply h rest
  obtain ⟨parts, -, rfl⟩ := h
  unfold Content.read
  show (next? >>= _) (pad ++ '"' :: _) = _
  rw [bind_apply (next?_apply hp rfl _)]
  exact bind_apply hread

theorem Draft.Fills.taken {m : String × List Char} {d d' : Draft} (h : Draft.Fills m d d') :
    Taken Draft.take m d d' := by
  intro after hafter pad rest hp hr
  cases h with
  | kind h => exact bind_apply (takes_valueOf (takes_tag h) hafter pad rest hp hr)
  | kindLast h => exact bind_apply (takes_valueOf (takes_tag h) hafter pad rest hp hr)
  | patternFirst h =>
    exact bind_apply (takes_valueOf (takes_content h maxContentDepth) hafter pad rest hp hr)
  | @pattern p text h =>
    have hcontent : Takes (readContent .pattern) text (.pattern p) := fun pad rest hp hr =>
      bind_apply (takes_string h pad rest hp hr)
    exact bind_apply (takes_valueOf hcontent hafter pad rest hp hr)
  | other hn hv =>
    simp only [List.mem_cons, List.not_mem_nil, or_false, not_or] at hn
    unfold Draft.take
    rw [if_neg (by simpa using hn.1), if_neg (by simpa using hn.2)]
    exact bind_apply (takes_valueOf (takes_skip hv) hafter pad rest hp hr)

/-- The kind and the pattern may change places. -/
theorem Draft.Fills.exchanges : Exchanges Draft.Fills := by
  intro m n d d₁ d₂ hm hn
  -- two ways lead to a pattern, and what is exchanged on one of them is found on the other
  cases hm with
  | other hm hv => exact ⟨d₂, hn, .other hm hv⟩
  | kind h =>
    cases hn with
    | pattern h' => exact ⟨_, .patternFirst h', .kindLast h⟩
    | other hn hv => exact ⟨_, .other hn hv, .kind h⟩
  | patternFirst h =>
    cases hn with
    | kindLast h' => exact ⟨_, .kind h', .pattern h⟩
    | other hn hv => exact ⟨_, .other hn hv, .patternFirst h⟩
  | pattern h =>
    cases hn with
    | other hn hv => exact ⟨_, .other hn hv, .pattern h⟩
  | kindLast h =>
    cases hn with
    | other hn hv => exact ⟨_, .other hn hv, .kindLast h⟩

theorem reads_draft : Reads Draft.take ["kind", "pattern"] Draft.Fills where
  taken := Draft.Fills.taken
  other _ hn hv := .other hn hv
  exchanges := Draft.Fills.exchanges

/-- **A filter is read** from every text that is written for it. -/
theorem WrittenAs.takes {f : FileFilter} {cs : List Char} (h : f.WrittenAs cs) :
    Takes FileFilter.read cs f := by
  refine Holds.takes (d := .nothing) reads_draft h fun ms hms => ?_
  obtain ⟨d, hchain, hd⟩ : ∃ d, Chain Draft.Fills .nothing ms d ∧ d.finish = .ok f := by
    cases f with
    | all =>
      obtain ⟨kind, ms, rfl, hkind, hms⟩ := hms.exists_needed
      obtain rfl := hms.eq_nil
      exact ⟨_, .cons (.kind (t := .all) hkind) (.nil _), rfl⟩
    | pattern p =>
      obtain ⟨kind, ms, rfl, hkind, hms⟩ := hms.exists_needed
      obtain ⟨text, ms, rfl, htext, hms⟩ := hms.exists_needed
      obtain rfl := hms.eq_nil
      exact ⟨_, .cons (.kind (t := .pattern) hkind) (.cons (.pattern htext) (.nil _)), rfl⟩
  refine ⟨d, hchain, fun s t hs => ?_⟩
  rw [bind_apply hs, hd]
  rfl

end FileFilter

/-! ### Steps -/

theorem takes_exclusion {exclude : Option String} {cs : List Char} (h : IsExclusion exclude cs) :
    Takes (optional string) cs exclude := by
  cases exclude with
  | none =>
    obtain rfl : cs = "null".toList := h
    intro pad rest hp _
    unfold Json.optional
    show (next? >>= _) (pad ++ 'n' :: ("ull".toList ++ rest)) = _
    rw [bind_apply (next?_apply hp rfl _)]
    exact bind_apply (word_apply "null".toList rest)
  | some text =>
    have htext := takes_string (show Spelled cs text from h)
    obtain ⟨parts, -, rfl⟩ := show Spelled cs text from h
    exact takes_optional htext rfl (by decide)

theorem takes_strings {args : List String} {cs : List Char}
    (h : Enclosed .list (fun arg cs => Spelled cs arg) args cs) : Takes (items string) cs args :=
  takes_items h fun _ _ _ harg => ⟨harg.opens, takes_string harg⟩

namespace Step

theorem fields_lawful : Json.Field.Lawful fields := by
  constructor
  · simp only [fields, List.forall_mem_cons]
    refine ⟨?_, ?_, ?_, ?_, ?_, ?_, ?_, ?_, ?_, by simp⟩
    all_goals exact Json.Field.present_ofSlot (by intros; rfl)
  · simp only [fields, List.pairwise_cons, List.forall_mem_cons]
    and_intros
    all_goals first
      | exact Json.Field.apart_ofSlot (by intros; rfl) (by intros; rfl) (by intros; rfl)
      | simp

theorem WrittenAs.takes {s : Step} {cs : List Char} (h : s.WrittenAs cs)
    (hr : s.repoIndex < UInt64.size) (hh : s.hookIndex < UInt64.size) : Takes Step.read cs s := by
  obtain ⟨location, revision, hookId, name, args, files, exclude, repoIndex, hookIndex⟩ := s
  have hrepo : Takes natural _ repoIndex := takes_natural (Nat.le_pred_of_lt hr)
  have hhook : Takes natural _ hookIndex := takes_natural (Nat.le_pred_of_lt hh)
  refine Holds.takes_object fields_lawful h (fun ms hms => ?_) _ _
  obtain ⟨_, _, rfl, hlocation, h₁⟩ := hms.exists_needed
  obtain ⟨_, _, rfl, hrevision, h₂⟩ := h₁.exists_needed
  obtain ⟨_, _, rfl, hhookId, h₃⟩ := h₂.exists_needed
  obtain ⟨_, _, rfl, hname, h₄⟩ := h₃.exists_needed
  obtain ⟨_, _, rfl, hargs, h₅⟩ := h₄.exists_needed
  obtain ⟨_, ms, rfl, hfiles, h₆⟩ := h₅.exists_needed
  have hlast : ∀ {d : StepDraft} {ms}, d.repoIndex = none → d.hookIndex = none →
      Listed [.needed "repo_index" (· = Nat.toDigits 10 repoIndex),
        .needed "hook_index" (· = Nat.toDigits 10 hookIndex)] ms →
      Chain (Fills fields) d ms
        { d with repoIndex := some repoIndex, hookIndex := some hookIndex } := by
    intro d ms h₁ h₂ hms
    obtain ⟨_, _, rfl, rfl, h₇⟩ := hms.exists_needed
    obtain ⟨_, _, rfl, rfl, h₈⟩ := h₇.exists_needed
    obtain rfl := h₈.eq_nil
    refine .cons (fills_ofSlot rfl h₁ hrepo) (.cons (fills_ofSlot rfl ?_ hhook) (.nil _))
    exact h₂
  -- an exclusion that is null and one that lacks come to the same
  have hrest : ∃ d', Chain (Fills fields)
      { location := some location, revision := some revision, hookId := some hookId,
        name := some name, args := some args, files := some files } ms d' ∧
      ofDraft d' =
        .ok ⟨location, revision, hookId, name, args, files, exclude, repoIndex, hookIndex⟩ := by
    cases h₆ with
    | cons hexclude h₇ =>
      exact ⟨_, .cons (fills_ofSlot rfl rfl (takes_exclusion hexclude)) (hlast rfl rfl h₇), rfl⟩
    | lacking hnone h₇ =>
      obtain rfl : exclude = none := hnone
      exact ⟨_, hlast rfl rfl h₇, rfl⟩
  obtain ⟨d', hchain, hd'⟩ := hrest
  exact ⟨d', .cons (fills_ofSlot rfl rfl (takes_string hlocation)) <|
    .cons (fills_ofSlot rfl rfl (takes_string hrevision)) <|
    .cons (fills_ofSlot rfl rfl (takes_string hhookId)) <|
    .cons (fills_ofSlot rfl rfl (takes_string hname)) <|
    .cons (fills_ofSlot rfl rfl (takes_strings hargs)) <|
    .cons (fills_ofSlot rfl rfl hfiles.takes) hchain, hd'⟩

end Step

/-! ### Plans -/

namespace Plan

theorem fields_lawful : Json.Field.Lawful fields := by
  constructor
  · simp only [fields, List.forall_mem_cons]
    refine ⟨?_, ?_, ?_, by simp⟩
    all_goals exact Json.Field.present_ofSlot (by intros; rfl)
  · simp only [fields, List.pairwise_cons, List.forall_mem_cons]
    and_intros
    all_goals first
      | exact Json.Field.apart_ofSlot (by intros; rfl) (by intros; rfl) (by intros; rfl)
      | simp

/-- **A plan is read** from every text that is written for it. -/
theorem WrittenAs.takes {p : Plan} {cs : List Char} (h : p.WrittenAs cs) (hp : p.Fits) :
    Takes Plan.read cs p := by
  obtain ⟨steps, exclude, failFast⟩ := p
  refine Holds.takes_object fields_lawful h (fun ms hms => ?_) _ _
  obtain ⟨_, ms, rfl, hwritten, h₁⟩ := hms.exists_needed
  have hsteps : Takes (items Step.read) _ steps := takes_items hwritten fun s hs _ htext =>
    ⟨htext.opens, htext.takes (hp s hs).1 (hp s hs).2⟩
  -- what is left out is settled at the end of the object, so the draft may lack it
  have hlast : ∀ {d : PlanDraft} {ms}, d.failFast = none →
      Listed [⟨"fail_fast", (· = (if failFast then "true" else "false").toList),
        failFast = false⟩] ms →
      ∃ b, Chain (Fills fields) d ms { d with failFast := b } ∧ b.getD false = failFast := by
    intro d ms hd hms
    cases hms with
    | cons htext hms =>
      obtain rfl := hms.eq_nil
      obtain rfl := htext
      exact ⟨some failFast, .cons (fills_ofSlot rfl hd (takes_boolean failFast)) (.nil _), rfl⟩
    | lacking hfalse hms =>
      obtain rfl := hms.eq_nil
      refine ⟨none, ?_, hfalse.symm⟩
      rw [← hd]
      exact .nil d
  have hrest : ∃ d', Chain (Fills fields) { steps := some steps } ms d' ∧
      ofDraft d' = .ok ⟨steps, exclude, failFast⟩ := by
    cases h₁ with
    | cons hexclude h₂ =>
      obtain ⟨b, hchain, rfl⟩ :=
        hlast (d := { steps := some steps, exclude := some exclude }) rfl h₂
      exact ⟨_, .cons (fills_ofSlot rfl rfl (takes_exclusion hexclude)) hchain, rfl⟩
    | lacking hnone h₂ =>
      obtain rfl : exclude = none := hnone
      obtain ⟨b, hchain, rfl⟩ := hlast (d := { steps := some steps }) rfl h₂
      exact ⟨_, hchain, rfl⟩
  obtain ⟨d', hchain, hd'⟩ := hrest
  exact ⟨d', .cons (fills_ofSlot rfl rfl hsteps) hchain, hd'⟩

end Plan

end HookPlan
