import HookPlan.Proofs.Yaml.Nesting

/-!
# Collections that are opened are closed

Each step opens or closes what its event says, and takes away some weight. So there are steps enough
for all tokens, and where the end of the stream is the last of them a step does not run out of them.
When the document ends, nothing is open.

* `Parse.ensures_blockEntry` and so on: the steps, by what is expected.
* `Parse.ensures_step`: all of them.
* `Events.walk_of_fault_eq_none`: the events of a document without a fault.
-/

namespace HookPlan.Yaml

namespace Parse

open Expect (Settled)

variable {α : Type} {fed : Prop} {p q : Parse} {e : Expect} {rest : List Expect} {t : Token}
  {n : Option ℕ} {k : ℕ}

/-! ### Steps -/

/-- A node that begins where less is to be done is a step. -/
theorem Begins.goes_of_lt {event : Event} {q' : Parse} (h : Begins fed q n event q')
    (hw : q.weight + 1 < p.weight) : p.Goes fed n event q' := by
  obtain ⟨⟨m, he, hexpecting⟩, hle⟩ := h
  exact .on he hexpecting (Nat.lt_of_le_of_lt hle hw)

/-- An opening token that is still there is taken. -/
theorem ensures_opening {Q : α → Prop} {first : Bool} {f : Parse → Except Stop α}
    (hfed : fed → Closed (p.tokens.drop first.toNat))
    (hf : ∀ q, Dropped fed p q → q.tokens.length + first.toNat = p.tokens.length →
      Ensures (Halts fed) Q (f q)) :
    Ensures (Halts fed) Q
      (if first then do let r ← p.next; let q ← pure r.2; f q else do let q ← pure p; f q) := by
  cases first with
  | false => exact hf p (.refl hfed) rfl
  | true =>
    unfold next
    cases ht : p.tokens with
    | nil => exact fun h => Closed.not_nil (by simpa [ht] using hfed h)
    | cons t ts =>
      have hts : fed → Closed ts := fun h => by simpa [ht] using hfed h
      exact hf { p with tokens := ts } ⟨rfl, ht ▸ Nat.le_succ _, hts⟩ (ht ▸ rfl)

/-- Between two items of a flow collection a comma is taken. -/
theorem ensures_comma {Q : α → Prop} {first : Bool} {f : Parse → Except Stop α} {q' : Parse}
    {cause : Cause} {mark : Mark} {during : Option (Activity × Mark)} (hq : Dropped fed p q)
    (hlen : q.tokens.length + first.toNat = p.tokens.length) (h : Took fed q t q')
    (hf : ∀ q₁, Dropped fed p q₁ → q₁.tokens.length < p.tokens.length →
      Ensures (Halts fed) Q (f q₁)) :
    Ensures (Halts fed) Q
      (if first then do let q₁ ← pure q; f q₁
        else if t.lexeme == .flowEntry then do let q₁ ← pure q'; f q₁
        else do let q₁ ← fail cause mark during; f q₁) := by
  refine .ite (fun hfirst => ?_) fun _ =>
    .ite (fun ht => ?_) fun _ => ensures_fail cause mark during
  · subst hfirst
    exact hf q hq (hlen ▸ Nat.lt_succ_self _)
  · have hq' := h.dropped (beq_iff_eq.1 ht) (by simp)
    exact hf q' (hq.trans hq') (Nat.lt_of_lt_of_le h.length_lt hq.length_le)

section Within

variable {m : ℕ} {first : Bool} {start : Mark} (hp : p.expects = e :: rest)
include hp

/-- A step that leaves something settled behind. -/
theorem goes_on {after : List Expect} {event : Event} (hq : q.expects = after)
    (hafter : Settled after k) (hfed : fed → Closed q.tokens)
    (he : event.kind.Turns n (some k))
    (hw : 3 * q.tokens.length + Expect.weights after <
      3 * p.tokens.length + (e.weight + Expect.weights rest)) :
    p.Goes fed n event q := by
  refine .on he (.of_settled (hq ▸ hafter) hfed) ?_
  rw [weight, weight, hp, hq]
  exact hw

variable (hrest : Settled rest m)
include hrest

/-- A collection ends. -/
theorem goes_end {event : Event} (hq : Dropped fed (p.expecting rest) q)
    (he : event.kind.Turns n (some m)) (hw : 0 < e.weight) : p.Goes fed n event q := by
  have hle : q.tokens.length ≤ p.tokens.length := hq.length_le
  have hx : q.expects = rest := hq.expects
  exact goes_on hp hx hrest hq.fed he (by omega)

/-- Nothing is written where a node is expected. -/
theorem ensures_emptyScalar {after : Expect} {d : ℕ} (hk : after.nests? = some k)
    (hfirst : after.isFirst = false) (hfed : fed → Closed q.tokens)
    (hlen : q.tokens.length + d ≤ p.tokens.length) (hw : after.weight < e.weight + 3 * d)
    (mark : Mark) :
    Ensures (Halts fed) (fun r => p.Goes fed (some (m + k)) r.1 r.2)
      ((q.expecting (after :: rest)).emptyScalar mark) := by
  have hs : Settled (after :: rest) (m + k) := .within hk hfirst hrest
  refine goes_on (q := q.expecting (after :: rest)) hp rfl hs hfed .scalar ?_
  show 3 * q.tokens.length + (after.weight + Expect.weights rest) < _
  omega

/-- A node stands where one is expected. -/
theorem ensures_node_within {after : Expect} {d : ℕ} (hk : after.nests? = some k)
    (hfirst : after.isFirst = false) (hfed : fed → Closed q.tokens)
    (hlen : q.tokens.length + d ≤ p.tokens.length) (hw : after.weight + 1 < e.weight + 3 * d)
    (block indentless : Bool) :
    Ensures (Halts fed) (fun r => p.Goes fed (some (m + k)) r.1 r.2)
      ((q.expecting (after :: rest)).node block indentless) := by
  have hs : Settled (after :: rest) (m + k) := .within hk hfirst hrest
  have hnode := ensures_node block indentless (p := q.expecting (after :: rest))
    (n := some (m + k)) hs hfed
  refine hnode.imp fun r h => h.goes_of_lt ?_
  show 3 * q.tokens.length + (after.weight + Expect.weights rest) + 1 < _
  rw [weight, hp, Expect.weights]
  omega

theorem ensures_blockEntry (he : e = .blockEntry first start)
    (hfed : fed → Closed (p.tokens.drop first.toNat)) :
    Ensures (Halts fed) (fun r => p.Goes fed (some (m + 1)) r.1 r.2) p.step := by
  subst he
  unfold step
  rw [hp]
  dsimp -zeta only
  extract_lets p' nodeThen emptyThen
  refine ensures_opening (p := p') hfed fun q hq hlen => (ensures_next hq.fed).bind fun r h => ?_
  have hlt : r.2.tokens.length < p.tokens.length := Nat.lt_of_lt_of_le h.length_lt hq.length_le
  split
  case h_1 ht =>
    have hr := h.dropped ht (by simp)
    refine (ensures_peek hr.fed).bind fun u _ => ?_
    split
    case h_1 | h_2 =>
      exact ensures_emptyScalar (d := 1) hp hrest rfl rfl hr.fed hlt (by simp [Expect.weight]) _
    case h_3 =>
      exact ensures_node_within (d := 1) hp hrest rfl rfl hr.fed hlt (by simp [Expect.weight]) _ _
  case h_2 ht =>
    exact goes_end hp hrest (hq.trans (h.dropped ht (by simp))) .sequenceEnd Nat.one_pos
  case h_3 => exact ensures_fail _ _ _

theorem ensures_indentlessEntry (he : e = .indentlessEntry) (hfed : fed → Closed p.tokens) :
    Ensures (Halts fed) (fun r => p.Goes fed (some (m + 1)) r.1 r.2) p.step := by
  subst he
  unfold step
  rw [hp]
  dsimp -zeta only
  extract_lets p' nodeThen emptyThen
  refine (ensures_next (p := p') hfed).bind fun r h => ?_
  have hlt : r.2.tokens.length < p.tokens.length := h.length_lt
  split
  case h_1 ht =>
    have hr := h.dropped ht (by simp)
    refine (ensures_peek hr.fed).bind fun u _ => .ite (fun _ => ?_) fun _ => ?_
    · exact ensures_emptyScalar (d := 1) hp hrest rfl rfl hr.fed hlt (by simp [Expect.weight]) _
    · exact ensures_node_within (d := 1) hp hrest rfl rfl hr.fed hlt (by simp [Expect.weight]) _ _
  case h_2 => exact goes_end hp hrest (.refl (p := p') hfed) .sequenceEnd Nat.one_pos

theorem ensures_blockKey (he : e = .blockKey first start)
    (hfed : fed → Closed (p.tokens.drop first.toNat)) :
    Ensures (Halts fed) (fun r => p.Goes fed (some (m + 1)) r.1 r.2) p.step := by
  subst he
  unfold step
  rw [hp]
  dsimp -zeta only
  extract_lets p' nodeThen emptyThen
  refine ensures_opening (p := p') hfed fun q hq hlen => (ensures_next hq.fed).bind fun r h => ?_
  have hlt : r.2.tokens.length < p.tokens.length := Nat.lt_of_lt_of_le h.length_lt hq.length_le
  split
  case h_1 ht =>
    have hr := h.dropped ht (by simp)
    refine (ensures_peek hr.fed).bind fun u _ => .ite (fun _ => ?_) fun _ => ?_
    · exact ensures_emptyScalar (d := 1) hp hrest rfl rfl hr.fed hlt (by simp [Expect.weight]) _
    · exact ensures_node_within (d := 1) hp hrest rfl rfl hr.fed hlt (by simp [Expect.weight]) _ _
  case h_2 ht =>
    exact goes_end hp hrest (hq.trans (h.dropped ht (by simp))) .mappingEnd Nat.one_pos
  case h_3 => exact ensures_fail _ _ _

theorem ensures_blockValue (he : e = .blockValue start) (hfed : fed → Closed p.tokens) :
    Ensures (Halts fed) (fun r => p.Goes fed (some (m + 1)) r.1 r.2) p.step := by
  subst he
  unfold step
  rw [hp]
  dsimp -zeta only
  extract_lets p' nodeThen emptyThen
  refine (ensures_next (p := p') hfed).bind fun r h => ?_
  have hlt : r.2.tokens.length < p.tokens.length := h.length_lt
  split
  case h_1 ht =>
    have hr := h.dropped ht (by simp)
    refine (ensures_peek hr.fed).bind fun u _ => .ite (fun _ => ?_) fun _ => ?_
    · exact ensures_emptyScalar (d := 1) hp hrest rfl rfl hr.fed hlt (by simp [Expect.weight]) _
    · exact ensures_node_within (d := 1) hp hrest rfl rfl hr.fed hlt (by simp [Expect.weight]) _ _
  case h_2 =>
    exact ensures_emptyScalar (d := 0) hp hrest rfl rfl hfed (Nat.le_refl _)
      (by simp [Expect.weight]) _

theorem ensures_flowEntry (he : e = .flowEntry first start)
    (hfed : fed → Closed (p.tokens.drop first.toNat)) :
    Ensures (Halts fed) (fun r => p.Goes fed (some (m + 1)) r.1 r.2) p.step := by
  subst he
  unfold step
  rw [hp]
  dsimp -zeta only
  extract_lets p' nodeThen emptyThen
  refine ensures_opening (p := p') hfed fun q hq hlen => (ensures_next hq.fed).bind fun r h => ?_
  refine .ite (fun ht => ?_) fun ht => ?_
  · have hr := h.dropped (beq_iff_eq.1 ht) (by simp)
    exact goes_end hp hrest (hq.trans hr) .sequenceEnd Nat.one_pos
  · refine ensures_comma hq hlen h fun q₁ hq₁ hlt => (ensures_next hq₁.fed).bind fun r₁ h₁ => ?_
    have hlt : q₁.tokens.length < p.tokens.length := hlt
    have hlt₁ := h₁.length_lt
    split
    -- a key without braces opens a mapping of one pair within the sequence
    case h_1 ht₁ =>
      have hr₁ := h₁.dropped ht₁ (by simp)
      have hs : Settled (.pairKey start :: rest) (m + 2) := .within rfl rfl hrest
      refine goes_on (q := r₁.2.expecting _) hp rfl hs hr₁.fed .mappingStart ?_
      show 3 * r₁.2.tokens.length + (5 + Expect.weights rest) <
        3 * p.tokens.length + (1 + Expect.weights rest)
      omega
    case h_2 ht₁ =>
      exact goes_end hp hrest (hq₁.trans (h₁.dropped ht₁ (by simp))) .sequenceEnd Nat.one_pos
    case h_3 =>
      exact ensures_node_within (d := 1) hp hrest rfl rfl hq₁.fed hlt (by simp [Expect.weight]) _ _

theorem ensures_pairKey (he : e = .pairKey start) (hfed : fed → Closed p.tokens) :
    Ensures (Halts fed) (fun r => p.Goes fed (some (m + 2)) r.1 r.2) p.step := by
  subst he
  unfold step
  rw [hp]
  dsimp -zeta only
  extract_lets p' nodeThen emptyThen
  refine (ensures_next (p := p') hfed).bind fun r h => ?_
  have hlt : r.2.tokens.length < p.tokens.length := h.length_lt
  split
  case h_1 ht | h_2 ht | h_3 ht =>
    have hr := h.dropped ht (by simp)
    exact ensures_emptyScalar (d := 1) hp hrest rfl rfl hr.fed hlt (by simp [Expect.weight]) _
  case h_4 =>
    exact ensures_node_within (d := 0) hp hrest rfl rfl hfed (Nat.le_refl _)
      (by simp [Expect.weight]) _ _

theorem ensures_pairValue (he : e = .pairValue start) (hfed : fed → Closed p.tokens) :
    Ensures (Halts fed) (fun r => p.Goes fed (some (m + 2)) r.1 r.2) p.step := by
  subst he
  unfold step
  rw [hp]
  dsimp -zeta only
  extract_lets p' nodeThen emptyThen
  refine (ensures_next (p := p') hfed).bind fun r h => ?_
  have hlt : r.2.tokens.length < p.tokens.length := h.length_lt
  split
  case h_1 ht =>
    have hr := h.dropped ht (by simp)
    refine (ensures_peek hr.fed).bind fun u _ => ?_
    split
    case h_1 | h_2 =>
      exact ensures_emptyScalar (d := 1) hp hrest rfl rfl hr.fed hlt (by simp [Expect.weight]) _
    case h_3 =>
      exact ensures_node_within (d := 1) hp hrest rfl rfl hr.fed hlt (by simp [Expect.weight]) _ _
  case h_2 =>
    exact ensures_emptyScalar (d := 0) hp hrest rfl rfl hfed (Nat.le_refl _)
      (by simp [Expect.weight]) _

theorem ensures_pairEnd (he : e = .pairEnd start) (hfed : fed → Closed p.tokens) :
    Ensures (Halts fed) (fun r => p.Goes fed (some (m + 2)) r.1 r.2) p.step := by
  subst he
  unfold step
  rw [hp]
  dsimp -zeta only
  extract_lets p'
  refine (ensures_peek (p := p') hfed).bind fun u _ => ?_
  have hs : Settled (.flowEntry false start :: rest) (m + 1) := .within rfl rfl hrest
  refine goes_on (q := p'.expecting _) hp rfl hs hfed .mappingEnd ?_
  show 3 * p.tokens.length + (1 + Expect.weights rest) <
    3 * p.tokens.length + (2 + Expect.weights rest)
  omega

theorem ensures_flowKey (he : e = .flowKey first start)
    (hfed : fed → Closed (p.tokens.drop first.toNat)) :
    Ensures (Halts fed) (fun r => p.Goes fed (some (m + 1)) r.1 r.2) p.step := by
  subst he
  unfold step
  rw [hp]
  dsimp -zeta only
  extract_lets p' nodeThen emptyThen
  refine ensures_opening (p := p') hfed fun q hq hlen => (ensures_next hq.fed).bind fun r h => ?_
  refine .ite (fun ht => ?_) fun ht => ?_
  · have hr := h.dropped (beq_iff_eq.1 ht) (by simp)
    exact goes_end hp hrest (hq.trans hr) .mappingEnd Nat.one_pos
  · refine ensures_comma hq hlen h fun q₁ hq₁ hlt => (ensures_next hq₁.fed).bind fun r₁ h₁ => ?_
    have hlt : q₁.tokens.length < p.tokens.length := hlt
    have hlt₁ : r₁.2.tokens.length < p.tokens.length := Nat.lt_trans h₁.length_lt hlt
    split
    case h_1 ht₁ =>
      have hr₁ := h₁.dropped ht₁ (by simp)
      refine (ensures_peek hr₁.fed).bind fun u _ => ?_
      split
      case h_1 | h_2 | h_3 =>
        exact ensures_emptyScalar (d := 1) hp hrest rfl rfl hr₁.fed hlt₁ (by simp [Expect.weight]) _
      case h_4 =>
        exact ensures_node_within (d := 1) hp hrest rfl rfl hr₁.fed hlt₁
          (by simp [Expect.weight]) _ _
    case h_2 ht₁ =>
      exact goes_end hp hrest (hq₁.trans (h₁.dropped ht₁ (by simp))) .mappingEnd Nat.one_pos
    case h_3 =>
      exact ensures_node_within (d := 1) hp hrest rfl rfl hq₁.fed hlt (by simp [Expect.weight]) _ _

theorem ensures_flowValue {empty : Bool} (he : e = .flowValue empty start)
    (hfed : fed → Closed p.tokens) :
    Ensures (Halts fed) (fun r => p.Goes fed (some (m + 1)) r.1 r.2) p.step := by
  subst he
  unfold step
  rw [hp]
  dsimp -zeta only
  extract_lets p' nodeThen emptyThen
  refine (ensures_next (p := p') hfed).bind fun r h => ?_
  have hlt : r.2.tokens.length < p.tokens.length := h.length_lt
  refine .ite (fun _ => ?_) fun _ => ?_
  · exact ensures_emptyScalar (d := 0) hp hrest rfl rfl hfed (Nat.le_refl _)
      (by simp [Expect.weight]) _
  split
  case h_1 ht =>
    have hr := h.dropped ht (by simp)
    refine (ensures_peek hr.fed).bind fun u _ => ?_
    split
    case h_1 | h_2 =>
      exact ensures_emptyScalar (d := 1) hp hrest rfl rfl hr.fed hlt (by simp [Expect.weight]) _
    case h_3 =>
      exact ensures_node_within (d := 1) hp hrest rfl rfl hr.fed hlt (by simp [Expect.weight]) _ _
  case h_2 =>
    exact ensures_emptyScalar (d := 0) hp hrest rfl rfl hfed (Nat.le_refl _)
      (by simp [Expect.weight]) _

end Within

/-! ### Documents -/

/-- Directives are taken, and nothing else. -/
theorem ensures_directives (fuel : ℕ) (versioned : Bool) (hp : fed → Closed p.tokens) :
    Ensures (Halts fed) (fun q => q.tokens.length ≤ p.tokens.length ∧ (fed → Closed q.tokens))
      (directives fuel versioned p) := by
  induction fuel generalizing versioned p with
  | zero => exact ⟨Nat.le_refl _, hp⟩
  | succ fuel ih =>
    unfold directives
    refine (ensures_next hp).bind fun ⟨t, p₁⟩ h => ?_
    dsimp only at h ⊢
    have hle := Nat.le_of_lt h.length_lt
    split
    case h_1 ht =>
      have hfed₁ := (h.dropped ht (by simp)).fed
      exact .ite (fun _ => ensures_fail _ _ _) fun _ =>
        .ite (fun _ => (ih true hfed₁).imp fun _ hq => ⟨Nat.le_trans hq.1 hle, hq.2⟩)
          fun _ => ensures_fail _ _ _
    case h_2 handle expansion ht =>
      have hfed₁ := (h.dropped ht (by simp)).fed
      have hmore := ih (p := { p₁ with handles := p.handles ++ [(handle, expansion)] }) versioned
        hfed₁
      exact .ite (fun _ => ensures_fail _ _ _) fun _ =>
        hmore.imp fun _ hq => ⟨Nat.le_trans hq.1 hle, hq.2⟩
    case h_3 => exact ⟨Nat.le_refl _, hp⟩

theorem ensures_document (hp : p.expects = [.document true]) (hfed : fed → Closed p.tokens) :
    Ensures (Halts fed) (fun r => p.Goes fed none r.1 r.2) p.step := by
  have hweight : p.weight = 3 * p.tokens.length + 4 := by rw [weight, hp]; rfl
  unfold step
  rw [hp]
  dsimp -zeta only
  extract_lets p'
  unfold document
  dsimp -zeta only
  extract_lets p₁
  have hfed₁ : fed → Closed p₁.tokens := hfed
  refine (ensures_next hfed₁).bind fun r h => ?_
  extract_lets explicit
  have hexplicit : Ensures (Halts fed) (fun r => p.Goes fed none r.1 r.2) explicit := by
    have hdirectives := ensures_directives (p := { p₁ with handles := [] }) (p₁.tokens.length + 1)
      false hfed₁
    refine hdirectives.bind fun q hq => (ensures_next hq.2).bind fun r h => ?_
    refine .ite (fun ht => ?_) fun _ => ensures_fail _ _ _
    have hr := h.dropped (beq_iff_eq.1 ht) (by simp)
    refine Goes.on .documentStart (.content rfl hr.fed) ?_
    have hle : q.tokens.length ≤ p.tokens.length := hq.1
    have hlt := h.length_lt
    rw [hweight]
    show 3 * r.2.tokens.length + 3 < _
    omega
  split
  case h_1 => exact Goes.streamEnd rfl
  case h_2 | h_3 | h_4 => exact hexplicit
  case h_5 =>
    refine Goes.on .documentStart (.node rfl hfed₁) ?_
    rw [hweight]
    show 3 * p.tokens.length + 2 < _
    omega

section Document

variable (hp : p.expects = e :: .documentEnd :: rest)
include hp

/-- The root stands where it is expected. -/
theorem ensures_root (hw : 1 < e.weight) (hfed : fed → Closed p.tokens)
    (block indentless : Bool) : Ensures (Halts fed) (fun r => p.Goes fed none r.1 r.2)
      ((p.expecting (.documentEnd :: rest)).node block indentless) := by
  have hs : Settled (.documentEnd :: rest) ((none : Option ℕ).getD 0) := .root
  have hnode := ensures_node (p := p.expecting (.documentEnd :: rest)) block indentless hs hfed
  refine hnode.imp fun r h => h.goes_of_lt ?_
  show 3 * p.tokens.length + (0 + Expect.weights rest) + 1 < _
  rw [weight, hp, Expect.weights]
  show _ < 3 * p.tokens.length + (e.weight + (0 + Expect.weights rest))
  omega

theorem ensures_documentContent (he : e = .documentContent) (hfed : fed → Closed p.tokens) :
    Ensures (Halts fed) (fun r => p.Goes fed none r.1 r.2) p.step := by
  subst he
  have hempty : ∀ mark, Ensures (Halts fed) (fun r => p.Goes fed none r.1 r.2)
      ((p.expecting (.documentEnd :: rest)).emptyScalar mark) := fun mark =>
    goes_on (q := p.expecting _) hp rfl .root hfed .scalar
      (Nat.add_lt_add_left (Nat.lt_add_of_pos_left (by decide)) _)
  unfold step
  rw [hp]
  dsimp -zeta only
  extract_lets p'
  refine (ensures_peek (p := p') hfed).bind fun u _ => ?_
  split
  case h_1 | h_2 | h_3 | h_4 | h_5 => exact hempty _
  case h_6 => exact ensures_root hp (by decide) hfed _ _

theorem ensures_rootNode (he : e = .node true false) (hfed : fed → Closed p.tokens) :
    Ensures (Halts fed) (fun r => p.Goes fed none r.1 r.2) p.step := by
  subst he
  unfold step
  rw [hp]
  exact ensures_root hp (by decide) hfed _ _

end Document

theorem ensures_documentEnd (hp : p.expects = .documentEnd :: rest)
    (hfed : fed → Closed p.tokens) :
    Ensures (Halts fed) (fun r => p.Goes fed (some 0) r.1 r.2) p.step := by
  unfold step
  rw [hp]
  dsimp -zeta only
  extract_lets p'
  exact (ensures_next (p := p') hfed).bind fun r _ => Goes.documentEnd rfl rfl

/-- **What one step does**, whatever is expected. -/
theorem ensures_step (h : p.Expecting fed n) :
    Ensures (Halts fed) (fun r => p.Goes fed n r.1 r.2) p.step := by
  cases h with
  | document hp hfed => exact ensures_document hp hfed
  | content hp hfed => exact ensures_documentContent hp rfl hfed
  | node hp hfed => exact ensures_rootNode hp rfl hfed
  | documentEnd hp hfed => exact ensures_documentEnd hp hfed
  | @within e es k m hp hk hes hfed =>
    cases e with
    | document | documentContent | documentEnd | node => cases hk
    | blockEntry => cases hk; exact ensures_blockEntry hp hes rfl hfed
    | indentlessEntry => cases hk; exact ensures_indentlessEntry hp hes rfl hfed
    | blockKey => cases hk; exact ensures_blockKey hp hes rfl hfed
    | blockValue => cases hk; exact ensures_blockValue hp hes rfl hfed
    | flowEntry => cases hk; exact ensures_flowEntry hp hes rfl hfed
    | pairKey => cases hk; exact ensures_pairKey hp hes rfl hfed
    | pairValue => cases hk; exact ensures_pairValue hp hes rfl hfed
    | pairEnd => cases hk; exact ensures_pairEnd hp hes rfl hfed
    | flowKey => cases hk; exact ensures_flowKey hp hes rfl hfed
    | flowValue => cases hk; exact ensures_flowValue hp hes rfl hfed

end Parse

/-! ### Whole documents -/

namespace Events

variable {scan : Option Fault} {n : Option ℕ} {p : Parse}

/-- A step for each unit of weight is enough for the events to come. -/
theorem walk_collect {fuel : ℕ} {acc : List Event} (hp : p.Expecting (scan = none) n)
    (hfuel : p.weight < fuel) (hfault : (collect scan fuel acc p).fault = none)
    (habsent : (collect scan fuel acc p).absent = none) :
    ∃ es, (collect scan fuel acc p).list = acc.reverse ++ es ∧ Walk n es (some 0) := by
  -- on the steps that are left: each of them takes some weight away, and keeps what is expected
  induction fuel generalizing acc n p with
  | zero => exact absurd hfuel (Nat.not_lt_zero _)
  | succ fuel ih =>
    have hstep := Parse.ensures_step hp
    unfold collect at hfault habsent ⊢
    cases hs : p.step with
    | error stop =>
      rw [hs] at hstep hfault
      cases stop with
      | fault f => cases hfault
      -- the scan has no fault, so there was the end of the stream
      | outOfTokens => exact absurd hfault hstep
    | ok r =>
      obtain ⟨e, q⟩ := r
      rw [hs] at hstep hfault habsent
      dsimp only at hfault habsent ⊢
      cases hstep with
      | streamEnd h =>
        dsimp only at h
        rw [h] at habsent
        cases habsent
      | documentEnd h hn =>
        dsimp only at h
        rw [h]
        exact ⟨[], (List.append_nil _).symm, hn ▸ .nil⟩
      | @on m turns expecting lighter =>
        have hlt : q.weight < fuel := Nat.lt_of_lt_of_le lighter (Nat.le_of_lt_succ hfuel)
        have hturns := turns
        obtain ⟨kind, mark⟩ := e
        cases turns with
        -- the start of the document is not kept
        | documentStart => exact ih expecting hlt hfault habsent
        | _ =>
          obtain ⟨es, hes, hwalk⟩ := ih expecting hlt hfault habsent
          exact ⟨_ :: es, by rw [hes, List.reverse_cons, List.append_assoc]; rfl,
            .cons hturns hwalk⟩

/-- **The events of a document without a fault** close all that they open. -/
theorem walk_of_fault_eq_none {tokens : List Token} (hclosed : scan = none → Closed tokens)
    (hfault : (ofTokens tokens scan).fault = none)
    (habsent : (ofTokens tokens scan).absent = none) :
    Walk none (ofTokens tokens scan).list (some 0) := by
  have hfuel : (Parse.ofTokens tokens).weight < 8 * (tokens.length + 2) := by
    show 3 * tokens.length + 4 < _
    omega
  obtain ⟨es, hes, hwalk⟩ :=
    walk_collect (p := Parse.ofTokens tokens) (.document rfl hclosed) hfuel hfault habsent
  exact (show (ofTokens tokens scan).list = es from hes) ▸ hwalk

end Events

end HookPlan.Yaml
