import HookPlan.Proofs.Json.Scalar

/-!
# Reading lists and objects

The parts of a list or an object may be laid out in any way. Whoever takes each part off a text
takes off the whole.

* `takes_items`: a list, from its elements.
* `Chain`, `takes_record`: an object, from what its members do to a draft one after another.
* `enclosed_render_list`, `enclosed_render_object`: what is written is one of the layouts.
-/

namespace HookPlan.Json

variable {α β σ : Type}

/-! ### Brackets -/

/-- A text starts as a value does: neither with a space nor with a closing bracket. -/
def Opens (cs : List Char) : Prop :=
  ∃ c rest, cs = c :: rest ∧ isSpace c = false ∧ ∀ b : Bracket, c ≠ b.closing

theorem Opens.append {cs : List Char} (h : Opens cs) (rest : List Char) : Opens (cs ++ rest) := by
  obtain ⟨c, cs, rfl, hc, hb⟩ := h
  exact ⟨c, cs ++ rest, rfl, hc, hb⟩

theorem ne_closing {c : Char} (hl : c ≠ ']') (ho : c ≠ '\x7d') (b : Bracket) : c ≠ b.closing := by
  cases b
  · exact hl
  · exact ho

theorem Spelled.opens {cs : List Char} {s : String} (h : Spelled cs s) : Opens cs := by
  obtain ⟨parts, -, rfl⟩ := h
  exact ⟨'"', _, rfl, rfl, ne_closing (by decide) (by decide)⟩

theorem Enclosed.opens {b : Bracket} {R : α → List Char → Prop} {as : List α} {cs : List Char}
    (h : Enclosed b R as cs) : Opens cs := by
  obtain ⟨inner, -, rfl⟩ := h
  cases b
  · exact ⟨'[', _, rfl, rfl, ne_closing (by decide) (by decide)⟩
  · exact ⟨'\x7b', _, rfl, rfl, ne_closing (by decide) (by decide)⟩

theorem isSpace_closing (b : Bracket) : isSpace b.closing = false := by
  cases b <;> rfl

theorem ends_closing (b : Bracket) (rest : List Char) : Ends (b.closing :: rest) := by
  intro c hc
  obtain rfl : b.closing = c := by simpa using hc
  cases b <;> rfl

/-- A value is followed by a comma or the closing bracket, perhaps after spaces. -/
theorem Separated.ends {R : α → List Char → Prop} {as : List α} {cs : List Char}
    (h : Separated R false as cs) (b : Bracket) (rest : List Char) :
    Ends (cs ++ b.closing :: rest) := by
  cases h with
  | nil hpad => exact hpad.ends_append (ends_closing b rest)
  | cons hsep _ _ =>
    obtain ⟨before, after, hbefore, -, rfl⟩ := hsep
    rw [List.append_assoc, List.append_assoc]
    refine hbefore.ends_append fun c hc => ?_
    obtain rfl : ',' = c := by simpa using hc
    rfl

/-- Only the first separator may be empty. -/
theorem Separated.length_le {R : α → List Char → Prop} {first : Bool} {as : List α}
    {cs : List Char} (h : Separated R first as cs) : as.length ≤ cs.length + first.toNat := by
  induction h with
  | nil => simp
  | @cons first a as sep part cs hsep _ _ ih =>
    -- a comma stands before every element but the first
    have hpos : 1 ≤ sep.length + first.toNat := by
      cases first with
      | true => simp
      | false =>
        obtain ⟨before, after, -, -, rfl⟩ := hsep
        simp
        omega
    simp only [List.length_cons, List.length_append, Bool.toNat_false] at ih ⊢
    omega

theorem around_apply {b : Bracket} {body : Reader α} {cs rest : List Char} {a : α} {c : Char}
    (h : body cs = .ok (a, b.closing :: rest)) : b.around body (c :: cs) = .ok (a, rest) := by
  have hclose : b.close (b.closing :: rest) = .ok ((), rest) := by
    unfold Bracket.close
    show (next? >>= _) ([] ++ b.closing :: rest) = _
    rw [bind_apply (next?_apply blank_nil (isSpace_closing b) rest)]
    dsimp only
    rw [if_pos (beq_self_eq_true _)]
    rfl
  unfold Bracket.around
  rw [List.drop_one, List.tail_cons, h]
  dsimp only
  rw [hclose]
  rfl

theorem another_closing {b : Bracket} {pad : List Char} (hp : Blank pad) (first : Bool)
    (cause : Cause) (rest : List Char) :
    another b first cause (pad ++ b.closing :: rest) = .ok (false, b.closing :: rest) := by
  unfold another
  rw [bind_apply (next?_apply hp (isSpace_closing b) rest)]
  dsimp only
  rw [if_pos (beq_self_eq_true _)]
  rfl

/-- After a separator there is one more, which has not been touched. -/
theorem another_separator {first : Bool} {sep cs : List Char} (hsep : IsSeparator first sep)
    (hcs : Opens cs) (b : Bracket) (cause : Cause) :
    another b first cause (sep ++ cs) = .ok (true, cs) := by
  obtain ⟨c, cs, rfl, hc, hb⟩ := hcs
  have hnot : (c == b.closing) = false := beq_eq_false_iff_ne.2 (hb b)
  have hcomma : (',' == b.closing) = false := by cases b <;> rfl
  unfold another
  cases first with
  | true =>
    rw [bind_apply (next?_apply hsep hc cs)]
    dsimp only
    rw [hnot]
    rfl
  | false =>
    obtain ⟨before, after, hbefore, hafter, rfl⟩ := hsep
    rw [List.append_assoc, List.cons_append, bind_apply (next?_apply hbefore rfl _)]
    dsimp only
    rw [hcomma]
    show (drop >>= fun _ => next? >>= _) (',' :: _) = _
    rw [bind_apply (a := ()) rfl]
    show (next? >>= _) (after ++ c :: cs) = _
    rw [bind_apply (next?_apply hafter hc cs)]
    dsimp only
    rw [hnot]
    rfl

/-! ### Lists -/

theorem itemsFrom_apply {read : Reader α} {R : α → List Char → Prop} {first : Bool}
    {as : List α} {inner : List Char} (h : Separated R first as inner)
    (hR : ∀ a ∈ as, ∀ part, R a part → Opens part ∧ Takes read part a) (rest : List Char)
    {fuel : ℕ} (hfuel : as.length < fuel) :
    itemsFrom read first fuel (inner ++ ']' :: rest) = .ok (as, ']' :: rest) := by
  -- one element at a time, each with the separator before it
  induction h generalizing fuel with
  | @nil first pad hp =>
    obtain ⟨fuel, rfl⟩ : ∃ k, fuel = k + 1 := ⟨fuel - 1, by omega⟩
    rw [itemsFrom]
    exact bind_apply (another_closing (b := .list) hp first _ rest)
  | @cons first a as sep part cs hsep ha has ih =>
    obtain ⟨fuel, rfl⟩ : ∃ k, fuel = k + 1 := ⟨fuel - 1, by omega⟩
    obtain ⟨hopens, htakes⟩ := hR a List.mem_cons_self part ha
    have hends : Ends (cs ++ ']' :: rest) := has.ends .list rest
    rw [List.append_assoc, List.append_assoc, itemsFrom,
      bind_apply (another_separator hsep (hopens.append _) .list _)]
    show (read >>= _) (part ++ (cs ++ ']' :: rest)) = _
    rw [bind_apply (htakes.apply hends),
      bind_apply (ih (fun a ha => hR a (List.mem_cons_of_mem _ ha)) (by simpa using hfuel))]
    rfl

/-- **A list is read** if its elements are. -/
theorem takes_items {read : Reader α} {R : α → List Char → Prop} {as : List α} {cs : List Char}
    (h : Enclosed .list R as cs)
    (hR : ∀ a ∈ as, ∀ part, R a part → Opens part ∧ Takes read part a) :
    Takes (items read) cs as := by
  intro pad rest hp _
  obtain ⟨inner, hinner, rfl⟩ := h
  have hfuel : as.length < (inner ++ ']' :: rest).length + 1 := by
    have := hinner.length_le
    simp only [Bool.toNat_true, List.length_append, List.length_cons] at this ⊢
    omega
  unfold items
  show (next? >>= _) (pad ++ '[' :: (inner ++ [']'] ++ rest)) = _
  rw [bind_apply (next?_apply hp rfl _), List.append_assoc]
  refine around_apply (b := .list) ((bind_apply (x := get) rfl).trans ?_)
  exact itemsFrom_apply hinner hR rest hfuel

/-! ### Objects -/

theorem takes_valueOf {read : Reader α} {value : List Char} {a : α} (h : Takes read value a)
    {after : List Char} (hafter : Blank after) :
    Takes (valueOf read) (':' :: (after ++ value)) a := by
  intro pad rest hp hr
  unfold valueOf
  show (next? >>= _) (pad ++ ':' :: (after ++ value ++ rest)) = _
  rw [bind_apply (next?_apply hp rfl _)]
  show (drop >>= fun _ => read) (':' :: _) = _
  rw [bind_apply (a := ()) rfl, List.append_assoc]
  exact h after rest hafter hr

/-- Some steps, one for each element of a list, lead from one state to another. -/
inductive Chain (R : α → σ → σ → Prop) : σ → List α → σ → Prop
  | nil (d : σ) : Chain R d [] d
  | cons {d d₁ d₂ : σ} {a : α} {as : List α} (h : R a d d₁) (hs : Chain R d₁ as d₂) :
    Chain R d (a :: as) d₂

/-- What a member makes of a draft, whatever spaces there are after its colon. -/
def Taken (take : String → σ → Reader σ) (m : String × List Char) (d d' : σ) : Prop :=
  ∀ after, Blank after → Takes (take m.1 d) (':' :: (after ++ m.2)) d'

theorem key?_apply {first : Bool} {sep key : List Char} {name : String}
    (hsep : IsSeparator first sep) (hkey : Spelled key name) (rest : List Char) :
    key? first (sep ++ (key ++ rest)) = .ok (some name, rest) := by
  have hread := quoted_apply hkey rest
  have hopens := hkey.opens.append rest
  obtain ⟨parts, -, rfl⟩ := hkey
  unfold key?
  rw [bind_apply (another_separator hsep hopens .object _)]
  show (peek? >>= _) ('"' :: _) = _
  rw [bind_apply (a := some '"') rfl]
  exact bind_apply hread

theorem membersFrom_apply {take : String → σ → Reader σ} {d d' : σ}
    {ms : List (String × List Char)} (h : Chain (Taken take) d ms d') {first : Bool}
    {inner : List Char} (hinner : Separated IsMember first ms inner) (rest : List Char) {fuel : ℕ}
    (hfuel : ms.length < fuel) :
    membersFrom take first fuel d (inner ++ '\x7d' :: rest) = .ok (d', '\x7d' :: rest) := by
  -- the chain says what each member does, the layout where it is found
  induction h generalizing first fuel inner with
  | nil d =>
    obtain ⟨fuel, rfl⟩ : ∃ k, fuel = k + 1 := ⟨fuel - 1, by omega⟩
    cases hinner with
    | nil hp =>
      have hkey : key? first (inner ++ '\x7d' :: rest) = .ok (none, '\x7d' :: rest) :=
        bind_apply (another_closing (b := .object) hp first _ rest)
      rw [membersFrom]
      exact bind_apply hkey
  | @cons d d₁ d₂ m ms hm _ ih =>
    obtain ⟨fuel, rfl⟩ : ∃ k, fuel = k + 1 := ⟨fuel - 1, by omega⟩
    cases hinner with
    | @cons _ _ _ sep part cs hsep hpart hcs =>
      obtain ⟨key, hkey, before, after, hbefore, hafter, rfl⟩ := hpart
      have hends : Ends (cs ++ '\x7d' :: rest) := hcs.ends .object rest
      have htake := hm after hafter before _ hbefore hends
      simp only [List.append_assoc, List.cons_append] at htake ⊢
      rw [membersFrom, bind_apply (key?_apply hsep hkey _)]
      show (take m.1 d >>= _) _ = _
      rw [bind_apply htake]
      exact ih hcs (by simpa using hfuel)

/-- **A record is read** from an object if its members make the draft of it. -/
theorem takes_record {take : String → σ → Reader σ} {d d' : σ} {ms : List (String × List Char)}
    {cs : List Char} (h : Chain (Taken take) d ms d') (hcs : Enclosed .object IsMember ms cs)
    {expected : String} {ofObject ofList : Reader α} {a : α}
    (hobject : ∀ s t, members take d s = .ok (d', t) → ofObject s = .ok (a, t)) :
    Takes (record expected ofObject ofList) cs a := by
  intro pad rest hp _
  obtain ⟨inner, hinner, rfl⟩ := hcs
  have hfuel : ms.length < (inner ++ '\x7d' :: rest).length + 1 := by
    have := hinner.length_le
    simp only [Bool.toNat_true, List.length_append, List.length_cons] at this ⊢
    omega
  unfold record
  show (next? >>= _) (pad ++ '\x7b' :: (inner ++ ['\x7d'] ++ rest)) = _
  rw [bind_apply (next?_apply hp rfl _), List.append_assoc]
  refine around_apply (b := .object) (hobject _ _ ?_)
  exact (bind_apply (x := get) rfl).trans (membersFrom_apply h hinner rest hfuel)

/-! ### Values that are written -/

theorem blank_newLine (depth : ℕ) : Blank (newLine depth) := by
  intro c hc
  rcases List.mem_cons.1 hc with rfl | hc
  · rfl
  · rw [(List.mem_replicate.1 hc).2]
    rfl

theorem isSeparator_separator (depth : ℕ) (first : Bool) :
    IsSeparator first (Value.separator depth first) := by
  cases first with
  | true => exact blank_newLine depth
  | false => exact ⟨[], newLine depth, blank_nil, blank_newLine depth, rfl⟩

theorem separated_renderItems {R : α → List Char → Prop} {depth : ℕ} {as : List α}
    {vs : List Value} (h : List.Forall₂ (fun a v => R a (v.render depth)) as vs) (first : Bool)
    {pad : List Char} (hp : Blank pad) :
    Separated R first as (Value.renderItems depth first vs ++ pad) := by
  induction h generalizing first with
  | nil => exact .nil hp
  | cons h _ ih =>
    rw [Value.renderItems, List.append_assoc, List.append_assoc]
    exact .cons (isSeparator_separator depth first) h (ih false)

/-- What is written for a list is a list of what is written for its elements. -/
theorem enclosed_render_list {R : α → List Char → Prop} {depth : ℕ} {as : List α}
    {vs : List Value} (h : List.Forall₂ (fun a v => R a (v.render (depth + 1))) as vs) :
    Enclosed .list R as ((Value.list vs).render depth) := by
  rw [Value.render]
  cases h with
  | nil => exact ⟨[], .nil blank_nil, rfl⟩
  | cons h hs =>
    exact ⟨_, separated_renderItems (.cons h hs) true (blank_newLine depth), by
      simp [Bracket.opening, Bracket.closing]⟩

theorem separated_renderMembers (depth : ℕ) (first : Bool) (ms : List (String × Value))
    {pad : List Char} (hp : Blank pad) :
    Separated IsMember first (ms.map fun m => (m.1, m.2.render depth))
      (Value.renderMembers depth first ms ++ pad) := by
  induction ms generalizing first with
  | nil => exact .nil hp
  | cons m ms ih =>
    obtain ⟨name, v⟩ := m
    have hmember : IsMember (name, v.render depth)
        (renderString name ++ ':' :: ' ' :: v.render depth) :=
      ⟨renderString name, spelled_renderString name, [], [' '], blank_nil, by
        simp [Blank, isSpace], rfl⟩
    have := Separated.cons (isSeparator_separator depth first) hmember (ih false)
    simpa [Value.renderMembers] using this

/-- What is written for an object has its members in the same order. -/
theorem enclosed_render_object (depth : ℕ) (ms : List (String × Value)) :
    Enclosed .object IsMember (ms.map fun m => (m.1, m.2.render (depth + 1)))
      ((Value.object ms).render depth) := by
  rw [Value.render]
  cases ms with
  | nil => exact ⟨[], .nil blank_nil, rfl⟩
  | cons m ms =>
    exact ⟨_, separated_renderMembers (depth + 1) true (m :: ms) (blank_newLine depth), by
      simp [Bracket.opening, Bracket.closing]⟩

end HookPlan.Json
