import HookPlan.Proofs.PlanMembers

/-!
# Plans survive being written

A plan is read back from its text exactly as it was, so the text says everything about it. It is
one of many texts that say the same.

* `writtenAs_render`: what is written for filters, steps and plans is one of their texts.
* `Plan.ofText_toText`: a plan from its own text.
* `Plan.ofText_by_known_members`: a plan from any of its texts.
-/

namespace HookPlan

open Json

/-! ### Texts that are written -/

theorem spelled_render (s : String) (depth : ℕ) : Spelled ((Value.string s).render depth) s := by
  rw [Value.render]
  exact spelled_renderString s

theorem FileFilter.writtenAs_render (f : FileFilter) (depth : ℕ) :
    f.WrittenAs (f.toJson.render depth) := by
  cases f with
  | all => exact holds_render _ (.cons (spelled_render _ _) .nil)
  | pattern p =>
    exact holds_render _ (.cons (spelled_render _ _) (.cons (spelled_render _ _) .nil))

theorem Step.writtenAs_render (s : Step) (depth : ℕ) : s.WrittenAs (s.toJson.render depth) := by
  obtain ⟨location, revision, hookId, name, args, files, exclude, repoIndex, hookIndex⟩ := s
  have hargs : Enclosed .list (fun arg cs => Spelled cs arg) args
      ((Value.list (args.map .string)).render (depth + 1)) :=
    enclosed_render_list (List.forall₂_map_right_iff.2 (List.forall₂_same.2 fun arg _ =>
      spelled_render arg _))
  have hnatural (n : ℕ) : (Value.natural n).render (depth + 1) = Nat.toDigits 10 n := by
    rw [Value.render]
  refine holds_render _ ?_
  refine .cons (spelled_render _ _) <| .cons (spelled_render _ _) <| .cons (spelled_render _ _) <|
    .cons (spelled_render _ _) <| .cons hargs <| .cons (files.writtenAs_render _) ?_
  cases exclude with
  | none => exact .lacking rfl <| .cons (hnatural _) <| .cons (hnatural _) .nil
  | some text =>
    exact .cons (spelled_render text _) <| .cons (hnatural _) <| .cons (hnatural _) .nil

/-- What is written for a plan is one of its texts. -/
theorem Plan.writtenAs_render (p : Plan) (depth : ℕ) : p.WrittenAs (p.toJson.render depth) := by
  obtain ⟨steps, exclude, failFast⟩ := p
  have hsteps : Enclosed .list Step.WrittenAs steps
      ((Value.list (steps.map Step.toJson)).render (depth + 1)) :=
    enclosed_render_list (List.forall₂_map_right_iff.2 (List.forall₂_same.2 fun s _ =>
      s.writtenAs_render _))
  have hboolean : (Value.boolean failFast).render (depth + 1) =
      (if failFast then "true" else "false").toList := by
    rw [Value.render]
  refine holds_render _ (.cons hsteps ?_)
  cases exclude with
  | none => exact .lacking rfl <| .cons hboolean .nil
  | some text => exact .cons (spelled_render text _) <| .cons hboolean .nil

theorem Plan.writtenAs_toText (p : Plan) : p.WrittenAs p.toText.toList := by
  rw [toText, Value.text, String.toList_ofList]
  exact p.writtenAs_render 0

/-! ### Reading texts -/

theorem Plan.ofText_of_writtenAs {p : Plan} (hp : p.Fits) {text : String}
    (h : p.WrittenAs text.toList) : Plan.ofText text = .ok p := by
  have hread : Plan.read text.toList = .ok (p, []) := by
    have := (h.takes hp).apply ends_nil
    rwa [List.append_nil] at this
  unfold Plan.ofText Reader.ofText
  rw [hread]
  rfl

theorem Plan.ofText_toText_of_fits {p : Plan} (hp : p.Fits) : Plan.ofText p.toText = .ok p :=
  ofText_of_writtenAs hp p.writtenAs_toText

/-- **Reading a plan back from its text gives the same plan.** Its strings may hold any
characters, its indices any numbers of 64 bits. So no other plan has the same text. -/
theorem Plan.ofText_toText {p : Plan} (hp : p.Fits) :
    Plan.ofText p.toText = .ok p ∧ ∀ q : Plan, q.Fits → q.toText = p.toText → q = p := by
  refine ⟨ofText_toText_of_fits hp, fun q hq h => ?_⟩
  have hpq := ofText_toText_of_fits hq
  rw [h, ofText_toText_of_fits hp] at hpq
  exact (Except.ok.inj hpq).symm

/-- Quotes, control characters and the greatest index survive. -/
theorem Plan.ofText_toText_escaped :
    ∃ p : Plan, p.Fits ∧ p.steps.map Step.repoIndex = [18446744073709551615] ∧
      p.steps.map Step.args = [["\"\\", "\x00\n\x7f", ""]] ∧ Plan.ofText p.toText = .ok p := by
  have hfits : Plan.Fits
      ⟨[⟨"é", "", "\t", "/", ["\"\\", "\x00\n\x7f", ""], .all, some "", 18446744073709551615, 0⟩],
        none, false⟩ := by
    intro s hs
    obtain rfl := List.mem_singleton.1 hs
    exact ⟨by decide, by decide⟩
  exact ⟨_, hfits, rfl, rfl, (Plan.ofText_toText hfits).1⟩

/-- **Reading a plan depends only on its known members.** Its own text is one of the texts that are
written for it, and from all of these the same plan is read. In the objects for the plan, its steps
and their filters members may stand in any order, among any members with other names and any values.
An exclusion that is absent may be null, and that nothing fails fast need not be said. -/
theorem Plan.ofText_by_known_members {p : Plan} (hp : p.Fits) :
    p.WrittenAs p.toText.toList ∧
      ∀ text : String, p.WrittenAs text.toList → Plan.ofText text = .ok p :=
  ⟨p.writtenAs_toText, fun _ h => ofText_of_writtenAs hp h⟩

theorem isMember_colon (name : String) (value : List Char) :
    IsMember (name, value) (renderString name ++ ':' :: value) :=
  ⟨_, spelled_renderString name, [], [], blank_nil, blank_nil, rfl⟩

theorem isSeparator_comma : IsSeparator false [','] := ⟨[], [], blank_nil, blank_nil, rfl⟩

/-- The pattern comes before its kind, a member that is not known has a name of another object's
inside it, the exclusion of the plan is null, and its last member lacks. -/
theorem Plan.ofText_by_known_members_reordered :
    ∃ (p : Plan) (filter step : String), p.Fits ∧ p.steps.map Step.files = [.pattern "p"] ∧
      filter = "\x7b\"y\":true,\"pattern\":\"p\",\"kind\":\"pattern\"\x7d" ∧
      step = "\x7b\"hook_index\":1,\"repo_index\":0,\"file_filter\":" ++ filter ++
        ",\"effective_args\":[],\"effective_name\":\"n\",\"hook_id\":\"i\"," ++
        "\"revision\":\"1\",\"source_location\":\"a\"\x7d" ∧
      Plan.ofText ("\x7b\"x\":\x7b\"kind\":[null]\x7d,\"exclude\":null,\"steps\":[" ++ step ++
        "]\x7d") = .ok p := by
  let s : Step := ⟨"a", "1", "i", "n", [], .pattern "p", none, 0, 1⟩
  have hfits : Plan.Fits ⟨[s], none, false⟩ := by
    intro s hs
    obtain rfl := List.mem_singleton.1 hs
    exact ⟨by decide, by decide⟩
  obtain ⟨filter, hfilter⟩ : ∃ filter : String,
      filter = "\x7b\"y\":true,\"pattern\":\"p\",\"kind\":\"pattern\"\x7d" := ⟨_, rfl⟩
  obtain ⟨step, hstep⟩ : ∃ step : String,
      step = "\x7b\"hook_index\":1,\"repo_index\":0,\"file_filter\":" ++ filter ++
        ",\"effective_args\":[],\"effective_name\":\"n\",\"hook_id\":\"i\"," ++
        "\"revision\":\"1\",\"source_location\":\"a\"\x7d" := ⟨_, rfl⟩
  -- all members stand in the opposite order, and no layout is needed
  have hfilterText : s.files.WrittenAs filter.toList := by
    refine ⟨_, [("y", _)], _,
      .cons (spelled_renderString "pattern") (.cons (spelled_renderString "p") .nil),
      List.forall_mem_singleton.2 ⟨by decide, .boolean true⟩, List.reverse_perm _, _,
      .cons blank_nil (isMember_colon _ _) <| .cons isSeparator_comma (isMember_colon _ _) <|
      .cons isSeparator_comma (isMember_colon _ _) (.nil blank_nil), ?_⟩
    rw [hfilter]
    rfl
  have hstepText : s.WrittenAs step.toList := by
    refine ⟨_, [], _, .cons (spelled_renderString "a") <| .cons (spelled_renderString "1") <|
        .cons (spelled_renderString "i") <| .cons (spelled_renderString "n") <|
        .cons ⟨[], .nil blank_nil, rfl⟩ <| .cons hfilterText <| .lacking rfl <|
        .cons (show ['0'] = Nat.toDigits 10 0 from rfl) <|
        .cons (show ['1'] = Nat.toDigits 10 1 from rfl) .nil,
      by simp, List.reverse_perm _, _,
      .cons blank_nil (isMember_colon _ _) <| .cons isSeparator_comma (isMember_colon _ _) <|
      .cons isSeparator_comma (isMember_colon _ _) <|
      .cons isSeparator_comma (isMember_colon _ _) <|
      .cons isSeparator_comma (isMember_colon _ _) <|
      .cons isSeparator_comma (isMember_colon _ _) <|
      .cons isSeparator_comma (isMember_colon _ _) <|
      .cons isSeparator_comma (isMember_colon _ _) (.nil blank_nil), ?_⟩
    simp [hstep, Known.needed, renderString, escapedChar, Bracket.opening, Bracket.closing]
  have hunknown : IsValue "\x7b\"kind\":[null]\x7d".toList := by
    have hkey : IsString "\"kind\"".toList := by
      refine ⟨[['k'], ['i'], ['n'], ['d']], ?_, rfl⟩
      simp only [List.forall_mem_cons]
      exact ⟨.plain (by decide), .plain (by decide), .plain (by decide), .plain (by decide),
        by simp⟩
    have hlist : IsValue "[null]".toList :=
      @IsValue.list ["null".toList] _ (List.forall_mem_singleton.2 .null)
        ⟨_, .cons blank_nil rfl (.nil blank_nil), rfl⟩
    exact @IsValue.object [("\"kind\"".toList, "[null]".toList)] _
      (List.forall_mem_singleton.2 hkey) (List.forall_mem_singleton.2 hlist)
      ⟨_, .cons blank_nil ⟨[], [], blank_nil, blank_nil, rfl⟩ (.nil blank_nil), rfl⟩
  refine ⟨⟨[s], none, false⟩, filter, step, hfits, rfl, hfilter, hstep,
    (Plan.ofText_by_known_members hfits).2 _ ?_⟩
  refine ⟨_, [("x", "\x7b\"kind\":[null]\x7d".toList)], _,
    .cons ⟨_, .cons blank_nil hstepText (.nil blank_nil), rfl⟩ <| .cons rfl <| .lacking rfl .nil,
    List.forall_mem_singleton.2 ⟨by decide, hunknown⟩, List.reverse_perm _, _,
      .cons blank_nil (isMember_colon _ _) <| .cons isSeparator_comma (isMember_colon _ _) <|
      .cons isSeparator_comma (isMember_colon _ _) (.nil blank_nil), ?_⟩
  simp [Known.needed, renderString, escapedChar, Bracket.opening, Bracket.closing]

end HookPlan
