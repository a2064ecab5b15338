import HookPlan.Proofs.Checking

/-!
# Which pattern decides about a path

For one step, a plan has up to three patterns that a path may fail: it must not match the plan's
exclusions, must match the step's files and must not match the step's exclusions. Each of them is a
`Rule`. They are asked in this order, and the first one that does not admit the path decides, with
its error if it does not compile; those after it are not asked.

* `Rule.Admits`, `Rule.Decides`: what a rule does with a path, which is just one of these.
* `Ruled`: what a list of rules answers; `ruled_append_congr`: rules after the deciding one are not
  asked.
* `Plan.passes_eq_iff`: slots that are asked in order answer as the rules in them do.
* `Plan.triggers_renumbered`: the places that steps point at only show in errors.
* `triggers_ruled`: so a question about a step is answered by the rules for it.
-/

namespace HookPlan

variable {p q : Plan} {path : String} {answer answer' : Except Error Bool}

/-- A pattern that a path may fail. -/
structure Rule where
  source : PatternSource
  /-- Whether a path has to match. -/
  isWanted : Bool

namespace Rule

variable {r : Rule}

/-- A rule admits a path that matches or does not, as it wants. -/
def Admits (r : Rule) (path : String) : Prop :=
  ∃ pattern, Pattern.compile r.source.text = .ok pattern ∧ pattern.occursIn path = r.isWanted

/-- A rule decides about a path that it does not admit. -/
inductive Decides (r : Rule) (path : String) : Except Error Bool → Prop
  | invalid {fault : Pattern.Fault} (h : Pattern.compile r.source.text = .error fault) :
    Decides r path (.error (.invalidPattern r.source.entry r.source.text fault))
  | rejects {pattern : Pattern} (h : Pattern.compile r.source.text = .ok pattern)
    (hmatch : pattern.occursIn path ≠ r.isWanted) : Decides r path (.ok false)

theorem not_admits_of_decides (h : r.Decides path answer) : ¬ r.Admits path := by
  rintro ⟨pattern, hpattern, hmatch⟩
  cases h with
  | invalid h => rw [h] at hpattern; cases hpattern
  | rejects h hne =>
    rw [h] at hpattern
    cases hpattern
    exact hne hmatch

/-- **A rule admits a path or decides about it.** -/
theorem exists_decides_of_not_admits (h : ¬ r.Admits path) : ∃ answer, r.Decides path answer := by
  cases hc : Pattern.compile r.source.text with
  | error fault => exact ⟨_, .invalid hc⟩
  | ok pattern => exact ⟨_, .rejects hc fun hmatch => h ⟨pattern, hc, hmatch⟩⟩

theorem Decides.unique (h : r.Decides path answer) (h' : r.Decides path answer') :
    answer = answer' := by
  cases h with
  | invalid h => cases h' <;> simp_all
  | rejects h _ => cases h' <;> simp_all

end Rule

/-! ### Lists of rules -/

/-- What some rules answer about a path: the first one that does not admit it decides, and if they
all do, the answer is yes. -/
def Ruled (rules : List Rule) (path : String) (answer : Except Error Bool) : Prop :=
  (∃ before r after, rules = before ++ r :: after ∧ (∀ b ∈ before, b.Admits path) ∧
    r.Decides path answer) ∨
  (∀ r ∈ rules, r.Admits path) ∧ answer = .ok true

variable {r : Rule} {rules rules' before after after' : List Rule}

theorem ruled_nil_iff : Ruled [] path answer ↔ answer = .ok true := by
  simp [Ruled]

theorem ruled_cons_iff :
    Ruled (r :: rules) path answer ↔
      r.Decides path answer ∨ r.Admits path ∧ Ruled rules path answer := by
  constructor
  · rintro (⟨before, b, after, hsplit, hbefore, hb⟩ | ⟨hall, rfl⟩)
    · -- the deciding rule is the first one, or the first one admits the path
      cases before with
      | nil =>
        cases hsplit
        exact Or.inl hb
      | cons a before =>
        cases hsplit
        obtain ⟨ha, hbefore⟩ := List.forall_mem_cons.1 hbefore
        exact Or.inr ⟨ha, Or.inl ⟨before, b, after, rfl, hbefore, hb⟩⟩
    · obtain ⟨hr, hall⟩ := List.forall_mem_cons.1 hall
      exact Or.inr ⟨hr, Or.inr ⟨hall, rfl⟩⟩
  · rintro (h | ⟨hr, ⟨before, b, after, rfl, hbefore, hb⟩ | ⟨hall, rfl⟩⟩)
    · exact Or.inl ⟨[], r, rules, rfl, nofun, h⟩
    · exact Or.inl ⟨r :: before, b, after, rfl, List.forall_mem_cons.2 ⟨hr, hbefore⟩, hb⟩
    · exact Or.inr ⟨List.forall_mem_cons.2 ⟨hr, hall⟩, rfl⟩

/-- **Rules after the deciding one are not asked.** -/
theorem ruled_append_congr (hr : ¬ r.Admits path) :
    Ruled (before ++ r :: after) path answer ↔ Ruled (before ++ r :: after') path answer := by
  induction before with
  | nil => simp only [List.nil_append, ruled_cons_iff, hr, false_and]
  | cons b before ih => rw [List.cons_append, List.cons_append, ruled_cons_iff, ruled_cons_iff, ih]

/-! ### The rules for a step -/

/-- Whether a path has to match the pattern in a slot. -/
def Slot.isWanted : Slot → Bool
  | .stepFiles _ => true
  | .excluded | .stepExcluded _ => false

theorem Slot.rejects_some (slot : Slot) (occurs : Bool) :
    slot.rejects (some occurs) = (occurs != slot.isWanted) := by
  cases slot <;> cases occurs <;> rfl

namespace Plan

/-- The rule in a slot, if it is filled. -/
def rule? (p : Plan) (slot : Slot) : Option Rule :=
  (p.source? slot).map fun source => ⟨source, slot.isWanted⟩

/-- The rules for a step of a plan, in the order in which they are asked. -/
def rulesFor (p : Plan) (s : Step) : List Rule :=
  p.exclude.toList.map (fun text => ⟨⟨{}, text⟩, false⟩) ++
    (s.files.pattern?.toList.map (fun text => ⟨⟨s.entry, text⟩, true⟩) ++
      s.exclude.toList.map fun text => ⟨⟨s.entry, text⟩, false⟩)

theorem filterMap_rule?_slotsOf {i : ℕ} {s : Step} (hs : p.steps[i]? = some s) :
    (slotsOf i).filterMap p.rule? = p.rulesFor s := by
  simp [slotsOf, filterMap_cons_eq_append, rule?, source?, hs, rulesFor, Slot.isWanted,
    Option.toList_map, Function.comp_def]

theorem passes_cons (p : Plan) (path : String) (slot : Slot) (slots : List Slot) :
    p.passes path (slot :: slots) = (p.occursIn path slot >>= fun verdict =>
      if slot.rejects verdict then .ok false else p.passes path slots) := rfl

/-- What the pattern in a slot says about a path, once it is known to be there and to compile. -/
theorem occursIn_of_compile {slot : Slot} {pattern : Pattern} (hr : p.rule? slot = some r)
    (h : Pattern.compile r.source.text = .ok pattern) :
    p.occursIn path slot = .ok (some (pattern.occursIn path)) := by
  obtain ⟨source, hs, rfl⟩ := Option.map_eq_some_iff.1 hr
  rw [occursIn, pattern?, hs]
  dsimp only [PatternSource.compile]
  rw [h]
  rfl

theorem passes_cons_of_empty {slot : Slot} {slots : List Slot} (hr : p.rule? slot = none) :
    p.passes path (slot :: slots) = p.passes path slots := by
  rw [passes_cons, occursIn, pattern?, Option.map_eq_none_iff.1 hr]
  cases slot <;> rfl

/-- A slot whose rule admits a path leaves the matter to the others. -/
theorem passes_cons_of_admits {slot : Slot} {slots : List Slot} (hr : p.rule? slot = some r)
    (h : r.Admits path) : p.passes path (slot :: slots) = p.passes path slots := by
  obtain ⟨pattern, hc, hmatch⟩ := h
  have hrejects : slot.rejects (some (pattern.occursIn path)) = false := by
    obtain ⟨source, -, rfl⟩ := Option.map_eq_some_iff.1 hr
    rw [Slot.rejects_some, hmatch, bne_self_eq_false]
  rw [passes_cons, occursIn_of_compile hr hc]
  change (if slot.rejects _ = true then _ else _) = _
  rw [hrejects, if_neg Bool.false_ne_true]

/-- A slot whose rule decides about a path gives the answer. -/
theorem passes_cons_of_decides {slot : Slot} {slots : List Slot} (hr : p.rule? slot = some r)
    (h : r.Decides path answer) : p.passes path (slot :: slots) = answer := by
  cases h with
  | invalid hc =>
    obtain ⟨source, hs, rfl⟩ := Option.map_eq_some_iff.1 hr
    rw [passes_cons, occursIn, pattern?, hs]
    dsimp only [PatternSource.compile] at hc ⊢
    rw [hc]
    rfl
  | @rejects pattern hc hmatch =>
    have hrejects : slot.rejects (some (pattern.occursIn path)) = true := by
      obtain ⟨source, -, rfl⟩ := Option.map_eq_some_iff.1 hr
      rw [Slot.rejects_some]
      exact bne_iff_ne.2 hmatch
    rw [passes_cons, occursIn_of_compile hr hc]
    change (if slot.rejects _ = true then _ else _) = _
    rw [hrejects, if_pos rfl]

/-- **Slots that are asked in order answer as the rules in them do.** -/
theorem passes_eq_iff {slots : List Slot} :
    p.passes path slots = answer ↔ Ruled (slots.filterMap p.rule?) path answer := by
  induction slots with
  | nil => rw [List.filterMap_nil, ruled_nil_iff]; exact eq_comm
  | cons slot slots ih =>
    rw [filterMap_cons_eq_append]
    -- the slot is empty, or its rule admits the path, or it decides
    cases hr : p.rule? slot with
    | none =>
      rw [passes_cons_of_empty hr, ih]
      rfl
    | some r =>
      change _ ↔ Ruled (r :: slots.filterMap p.rule?) path answer
      rw [ruled_cons_iff]
      by_cases ha : r.Admits path
      · rw [passes_cons_of_admits hr ha, ih]
        constructor
        · intro h; exact Or.inr ⟨ha, h⟩
        · rintro (h | ⟨-, h⟩)
          · exact absurd ha (Rule.not_admits_of_decides h)
          · exact h
      · obtain ⟨decided, hd⟩ := Rule.exists_decides_of_not_admits ha
        rw [passes_cons_of_decides hr hd]
        constructor
        · rintro rfl; exact Or.inl hd
        · rintro (h | ⟨h, -⟩)
          · exact hd.unique h
          · exact absurd h ha

theorem triggers_eq_iff {i : ℕ} {s : Step} (hs : p.steps[i]? = some s) :
    p.triggers i path = answer ↔ Ruled (p.rulesFor s) (normalizePath path) answer := by
  have hi : ¬ p.size ≤ i := Nat.not_le.2 (List.getElem?_eq_some_iff.1 hs).1
  rw [triggers_eq, if_neg hi, passes_eq_iff, filterMap_rule?_slotsOf hs]

theorem triggers_of_size_le {i : ℕ} (hi : p.size ≤ i) (path : String) :
    p.triggers i path = .ok false := by
  rw [triggers_eq, if_pos hi]

end Plan

/-! ### Steps with other places -/

/-- An error without the place that it points at. -/
def Error.unplaced : Error → Error
  | .invalidPattern _ pattern cause => .invalidPattern {} pattern cause
  | e => e

/-- Rules that differ in the places that they come from. -/
structure Rule.Alike (r r' : Rule) : Prop where
  text : r'.source.text = r.source.text
  isWanted : r'.isWanted = r.isWanted

theorem Rule.Alike.admits_iff {r' : Rule} (h : r.Alike r') : r'.Admits path ↔ r.Admits path := by
  unfold Rule.Admits
  rw [h.text, h.isWanted]

theorem Rule.Alike.decides {r' : Rule} (h : r.Alike r') (hr : r.Decides path answer) :
    ∃ answer', r'.Decides path answer' ∧
      answer'.mapError Error.unplaced = answer.mapError Error.unplaced := by
  cases hr with
  | invalid hc =>
    rw [← h.text] at hc
    refine ⟨_, .invalid hc, ?_⟩
    rw [h.text]
    rfl
  | rejects hc hmatch =>
    rw [← h.text] at hc
    rw [← h.isWanted] at hmatch
    exact ⟨_, .rejects hc hmatch, rfl⟩

/-- Rules answer alike wherever they come from, but for the place in an error. -/
theorem Ruled.exists_of_alike (halike : List.Forall₂ Rule.Alike rules rules')
    (h : Ruled rules path answer) :
    ∃ answer', Ruled rules' path answer' ∧
      answer'.mapError Error.unplaced = answer.mapError Error.unplaced := by
  induction halike with
  | nil => exact ⟨answer, h, rfl⟩
  | cons hr _ ih =>
    rcases ruled_cons_iff.1 h with hd | ⟨ha, h⟩
    · obtain ⟨answer', hd', heq⟩ := hr.decides hd
      exact ⟨answer', ruled_cons_iff.2 (Or.inl hd'), heq⟩
    · obtain ⟨answer', h', heq⟩ := ih h
      exact ⟨answer', ruled_cons_iff.2 (Or.inr ⟨hr.admits_iff.2 ha, h'⟩), heq⟩

/-- The same step, from another place in a configuration. -/
def Step.placedAt (s : Step) (place : ℕ × ℕ) : Step :=
  { s with repoIndex := place.1, hookIndex := place.2 }

namespace Plan

/-- The plan with other places for its steps, by their indices. -/
def renumbered (p : Plan) (places : ℕ → ℕ × ℕ) : Plan :=
  { p with steps := p.steps.mapIdx fun i s => s.placedAt (places i) }

/-- The rules for steps with the same patterns are alike. -/
theorem alike_rulesFor (p : Plan) {s t : Step} (hfiles : t.files = s.files)
    (hexclude : t.exclude = s.exclude) :
    List.Forall₂ Rule.Alike (p.rulesFor s) (p.rulesFor t) := by
  have halike : ∀ (texts : List String) (entry entry' : EntryRef) (isWanted : Bool),
      List.Forall₂ Rule.Alike (texts.map fun text => ⟨⟨entry, text⟩, isWanted⟩)
        (texts.map fun text => ⟨⟨entry', text⟩, isWanted⟩) := by
    intro texts entry entry' isWanted
    rw [List.forall₂_map_left_iff, List.forall₂_map_right_iff, List.forall₂_same]
    exact fun _ _ => ⟨rfl, rfl⟩
  unfold rulesFor
  rw [hfiles, hexclude]
  exact List.rel_append (halike _ _ _ _) (List.rel_append (halike _ _ _ _) (halike _ _ _ _))

theorem triggers_renumbered (p : Plan) (places : ℕ → ℕ × ℕ) (i : ℕ) (path : String) :
    ((p.renumbered places).triggers i path).mapError Error.unplaced =
      (p.triggers i path).mapError Error.unplaced := by
  cases hs : p.steps[i]? with
  | none =>
    have hi := List.getElem?_eq_none_iff.1 hs
    rw [triggers_of_size_le hi, triggers_of_size_le (by simpa [size, renumbered] using hi)]
  | some s =>
    have hs' : (p.renumbered places).steps[i]? =
        some (s.placedAt (places i)) := by
      simp [renumbered, List.getElem?_mapIdx, hs]
    have halike := p.alike_rulesFor (s := s) (t := s.placedAt (places i)) rfl rfl
    obtain ⟨answer', h', heq⟩ := ((triggers_eq_iff hs).1 rfl).exists_of_alike halike
    rw [(triggers_eq_iff hs').2 h', heq]

end Plan

/-! ### Questions to a matcher -/

/-- **The first rule that does not admit a path decides about it**, whatever the matcher was asked
before. A step is not triggered if that rule rejects the path, and undecided if it does not compile;
if there is no such rule, the step is triggered. The rules after it have no part in this, and
neither do the places that the steps point at, except in an error. Past the last step nothing is
asked. -/
theorem triggers_ruled {m : Matcher} (hm : m.Reachable p) (i : ℕ) (path : String) :
    (∀ s, p.steps[i]? = some s → ∀ answer,
      (m.triggers i path).1 = answer ↔ Ruled (p.rulesFor s) (normalizePath path) answer) ∧
    (p.size ≤ i → (m.triggers i path).1 = .ok false) ∧
    (∀ (q : Plan) (n : Matcher) (j : ℕ) (s t : Step) (before after after' : List Rule) (r : Rule),
      n.Reachable q → p.steps[i]? = some s → q.steps[j]? = some t →
      p.rulesFor s = before ++ r :: after → q.rulesFor t = before ++ r :: after' →
      ¬ r.Admits (normalizePath path) → (n.triggers j path).1 = (m.triggers i path).1) ∧
    ∀ (places : ℕ → ℕ × ℕ) (n : Matcher), n.Reachable (p.renumbered places) →
      (n.triggers i path).1.mapError Error.unplaced =
        (m.triggers i path).1.mapError Error.unplaced := by
  have hask : (m.triggers i path).1 = p.triggers i path := (hm.sound.triggers i path).1
  rw [hask]
  refine ⟨fun s hs answer => Plan.triggers_eq_iff hs, fun hi => Plan.triggers_of_size_le hi path,
    ?_, ?_⟩
  · -- the rules up to one that does not admit the path are the same
    intro q n j s t before after after' r hn hs ht hsplit hsplit' hr
    rw [(hn.sound.triggers j path).1, Plan.triggers_eq_iff ht, hsplit', ruled_append_congr hr,
      ← hsplit]
    exact (Plan.triggers_eq_iff hs).1 rfl
  · intro places n hn
    rw [(hn.sound.triggers i path).1, Plan.triggers_renumbered]

/-- A path that is not among a step's files does not trigger it, though the pattern that would be
asked next does not compile; for other paths that is the error. The step is found by its index in
the plan, which is not the one that it points at. -/
theorem triggers_ruled_unclosed :
    ∃ (p q : Plan) (m : Matcher) (s t : Step) (fault : Pattern.Fault),
      p.exclude = some "z" ∧ p.steps[1]? = some s ∧ s.repoIndex = 7 ∧ s.files = .pattern "b" ∧
      s.exclude = some "(" ∧ q = { p with steps := [t] } ∧ t = { s with exclude := none } ∧
      m = (Matcher.select ⟨p, []⟩ ["b"]).2 ∧ m.Reachable p ∧
      (m.triggers 1 "./a").1 = .ok false ∧ (Matcher.triggers ⟨q, []⟩ 0 "./a").1 = .ok false ∧
      (m.triggers 1 "b").1 = .error (.invalidPattern s.entry "(" fault) ∧
      (Matcher.triggers ⟨p.renumbered fun i => (0, i), []⟩ 1 "b").1.mapError Error.unplaced =
        .error (.invalidPattern {} "(" fault) ∧
      (m.triggers 2 "b").1 = .ok false := by
  let s : Step := ⟨"s", "1", "y", "y", [], .pattern "b", some "(", 7, 9⟩
  let t : Step := ⟨"s", "1", "y", "y", [], .pattern "b", none, 7, 9⟩
  let p : Plan := { steps := [⟨"s", "1", "x", "x", [], .all, none, 7, 8⟩, s], exclude := some "z" }
  let q : Plan := { steps := [t], exclude := some "z" }
  have hm : Matcher.Reachable p _ := .select .start ["b"]
  obtain ⟨fault, hfault⟩ : ∃ fault, Pattern.compile "(" = .error fault := ⟨_, rfl⟩
  have hexcluded : Rule.Admits ⟨⟨{}, "z"⟩, false⟩ "a" := ⟨_, rfl, rfl⟩
  have hexcluded' : Rule.Admits ⟨⟨{}, "z"⟩, false⟩ "b" := ⟨_, rfl, rfl⟩
  have hfiles' : ∃ pattern, Pattern.compile "b" = .ok pattern ∧ pattern.occursIn "b" = true :=
    ⟨_, rfl, rfl⟩
  have hbefore : ∀ r ∈ [(⟨⟨{}, "z"⟩, false⟩ : Rule), ⟨⟨s.entry, "b"⟩, true⟩], r.Admits "b" :=
    List.forall_mem_cons.2 ⟨hexcluded', List.forall_mem_singleton.2 hfiles'⟩
  have hfiles : Rule.Decides ⟨⟨s.entry, "b"⟩, true⟩ "a" (.ok false) :=
    .rejects (rfl : Pattern.compile "b" = .ok _) (by decide +kernel)
  have hask : ((Matcher.select ⟨p, []⟩ ["b"]).2.triggers 1 "./a").1 = .ok false :=
    ((triggers_ruled hm 1 "./a").1 s rfl _).2
      (Or.inl ⟨[_], _, [_], rfl, List.forall_mem_singleton.2 hexcluded, hfiles⟩)
  have hask' := ((triggers_ruled hm 1 "b").1 s rfl _).2
    (Or.inl ⟨_, ⟨⟨s.entry, "("⟩, false⟩, [], rfl, hbefore, .invalid hfault⟩)
  refine ⟨p, q, _, s, t, fault, rfl, rfl, rfl, rfl, rfl, rfl, rfl, rfl, hm, hask, ?_, hask', ?_,
    (triggers_ruled hm 2 "b").2.1 le_rfl⟩
  · rw [(triggers_ruled hm 1 "./a").2.2.1 q ⟨q, []⟩ 0 s t [_] [_] [] _ .start rfl rfl rfl rfl
      (Rule.not_admits_of_decides hfiles), hask]
  · rw [(triggers_ruled hm 1 "b").2.2.2 _ _ .start, hask']
    rfl

end HookPlan
