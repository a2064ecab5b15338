import HookPlan.Proofs.Yaml.Scanning
import HookPlan.Yaml.Event

/-!
# Collections that are open

The events of a document go through a tree, and what is expected next says how many collections are
open there. A node opens at most one more, and it adds little to the weight of what is still to be
done.

* `EventKind.Turns`, `Walk`: events and the number of collections that are open around them.
* `Expect.Settled`, `Parse.Expecting`: what is expected while so many collections are open.
* `Parse.Goes`: what a step may do.
* `Parse.ensures_node`: what comes of a node.
-/

namespace HookPlan.Yaml

/-! ### Walks -/

/-- How many collections are open before and after an event. Before the root nothing is counted. -/
inductive EventKind.Turns : EventKind → Option ℕ → Option ℕ → Prop
  | documentStart : Turns .documentStart none none
  | reference {name : String} {n : Option ℕ} : Turns (.reference name) n (some (n.getD 0))
  | scalar {props : Properties} {content : String} {style : ScalarStyle} {n : Option ℕ} :
    Turns (.scalar props content style) n (some (n.getD 0))
  | sequenceStart {props : Properties} {n : Option ℕ} :
    Turns (.sequenceStart props) n (some (n.getD 0 + 1))
  | sequenceEnd {n : ℕ} : Turns .sequenceEnd (some (n + 1)) (some n)
  | mappingStart {props : Properties} {n : Option ℕ} :
    Turns (.mappingStart props) n (some (n.getD 0 + 1))
  | mappingEnd {n : ℕ} : Turns .mappingEnd (some (n + 1)) (some n)

/-- Events that lead from one number of open collections to another. -/
inductive Walk : Option ℕ → List Event → Option ℕ → Prop
  | nil {n : Option ℕ} : Walk n [] n
  | cons {e : Event} {es : List Event} {n m k : Option ℕ} (h : e.kind.Turns n m)
    (hes : Walk m es k) : Walk n (e :: es) k

/-! ### Tokens -/

namespace Closed

variable {t : Token} {ts : List Token}

theorem not_nil : ¬ Closed [] := fun ⟨_, h, _⟩ => nomatch h

theorem of_cons (h : Closed (t :: ts)) (ht : t.lexeme ≠ .streamEnd) : Closed ts := by
  obtain ⟨u, hu, hlexeme⟩ := h
  cases ts with
  | nil =>
    cases hu
    exact absurd hlexeme ht
  | cons t' ts => exact ⟨u, by rwa [List.getLast?_cons_cons] at hu, hlexeme⟩

end Closed

/-! ### Expectations -/

namespace Expect

/-- How many collections an expectation stands for. A pair in a flow sequence is a mapping in it. -/
def nests? : Expect → Option ℕ
  | document _ | documentContent | documentEnd | node .. => none
  | blockEntry .. | indentlessEntry | blockKey .. | blockValue _ | flowEntry .. | flowKey ..
  | flowValue .. => some 1
  | pairKey _ | pairValue _ | pairEnd _ => some 2

/-- Whether the opening token is still there. -/
def isFirst : Expect → Bool
  | blockEntry first _ | blockKey first _ | flowEntry first _ | flowKey first _ => first
  | _ => false

/-- No more steps than this go by without a token. -/
def weight : Expect → ℕ
  | documentEnd => 0
  | blockEntry .. | indentlessEntry | blockKey .. | flowEntry .. | flowKey .. => 1
  | node .. | blockValue _ | flowValue .. | pairEnd _ => 2
  | documentContent | pairValue _ => 3
  | document _ => 4
  | pairKey _ => 5

/-- The weight of all that is expected. -/
def weights : List Expect → ℕ
  | [] => 0
  | e :: es => e.weight + weights es

/-- The root has begun, so many collections are open, and none is about to be. -/
inductive Settled : List Expect → ℕ → Prop
  | root {es : List Expect} : Settled (.documentEnd :: es) 0
  | within {e : Expect} {es : List Expect} {n k : ℕ} (hk : e.nests? = some k)
    (hfirst : e.isFirst = false) (h : Settled es n) : Settled (e :: es) (n + k)

end Expect

namespace Parse

open Expect (Settled)

variable {α : Type} {fed : Prop} {p q : Parse} {e : Expect} {es : List Expect} {t : Token}
  {n : Option ℕ} {k : ℕ}

/-- Each token may put off the end by three steps. -/
def weight (p : Parse) : ℕ := 3 * p.tokens.length + Expect.weights p.expects

/-- What is expected while so many collections are open. Where the parser is `fed`, the end of the
stream is the last of its tokens. -/
inductive Expecting (fed : Prop) (p : Parse) : Option ℕ → Prop
  | document (h : p.expects = [.document true]) (hfed : fed → Closed p.tokens) :
    p.Expecting fed none
  | content {es : List Expect} (h : p.expects = .documentContent :: .documentEnd :: es)
    (hfed : fed → Closed p.tokens) : p.Expecting fed none
  | node {es : List Expect} (h : p.expects = .node true false :: .documentEnd :: es)
    (hfed : fed → Closed p.tokens) : p.Expecting fed none
  | documentEnd {es : List Expect} (h : p.expects = .documentEnd :: es)
    (hfed : fed → Closed p.tokens) : p.Expecting fed (some 0)
  | within {e : Expect} {es : List Expect} {k n : ℕ} (h : p.expects = e :: es)
    (hk : e.nests? = some k) (hes : Settled es n)
    (hfed : fed → Closed (p.tokens.drop e.isFirst.toNat)) : p.Expecting fed (some (n + k))

theorem Expecting.of_settled (h : Settled p.expects k) (hfed : fed → Closed p.tokens) :
    p.Expecting fed (some k) := by
  generalize hes : p.expects = es at h
  cases h with
  | root => exact .documentEnd hes hfed
  | within hk hfirst h => exact .within hes hk h fun hf => by rw [hfirst]; exact hfed hf

/-- What a step does. It ends the stream or the document, or goes on. -/
inductive Goes (fed : Prop) (p : Parse) (n : Option ℕ) (e : Event) (q : Parse) : Prop
  | streamEnd (h : e.kind = .streamEnd)
  | documentEnd (h : e.kind = .documentEnd) (hn : n = some 0)
  | on {m : Option ℕ} (turns : e.kind.Turns n m) (expecting : q.Expecting fed m)
    (lighter : q.weight < p.weight)

/-- A step may fail, but does not run out of tokens while there is the end of the stream. -/
def Halts (fed : Prop) : Stop → Prop
  | .fault _ => True
  | .outOfTokens => ¬ fed

/-! ### Taking a token -/

/-- One token has been taken. -/
structure Took (fed : Prop) (p : Parse) (t : Token) (q : Parse) : Prop where
  tokens : p.tokens = t :: q.tokens
  expects : q.expects = p.expects
  fed : fed → t.lexeme ≠ .streamEnd → Closed q.tokens

theorem ensures_next (hp : fed → Closed p.tokens) :
    Ensures (Halts fed) (fun r => Took fed p r.1 r.2) p.next := by
  unfold next
  split
  case h_1 hnil => exact fun hf => Closed.not_nil (hnil ▸ hp hf)
  case h_2 t ts hcons => exact ⟨hcons, rfl, fun hf ht => (hcons ▸ hp hf).of_cons ht⟩

theorem ensures_peek (hp : fed → Closed p.tokens) :
    Ensures (Halts fed) (fun t => ∃ q, Took fed p t q) p.peek :=
  (ensures_next hp).bind fun r h => ⟨r.2, h⟩

theorem ensures_fail {Q : α → Prop} (cause : Cause) (m : Mark) (during : Option (Activity × Mark)) :
    Ensures (Halts fed) Q (fail cause m during) := trivial

/-- Some tokens have been taken, but not the end of the stream. -/
structure Dropped (fed : Prop) (p q : Parse) : Prop where
  expects : q.expects = p.expects
  length_le : q.tokens.length ≤ p.tokens.length
  fed : fed → Closed q.tokens

theorem Dropped.refl (hp : fed → Closed p.tokens) : Dropped fed p p := ⟨rfl, Nat.le_refl _, hp⟩

theorem Took.length_lt (h : Took fed p t q) : q.tokens.length < p.tokens.length := by
  rw [h.tokens]
  exact Nat.lt_succ_self _

theorem Took.dropped {l : Lexeme} (h : Took fed p t q) (ht : t.lexeme = l)
    (hl : l ≠ .streamEnd) : Dropped fed p q :=
  ⟨h.expects, Nat.le_of_lt h.length_lt, fun hf => h.fed hf (ht ▸ hl)⟩

theorem Dropped.trans {p' : Parse} (h : Dropped fed p q) (h' : Dropped fed q p') :
    Dropped fed p p' :=
  ⟨h'.expects.trans h.expects, Nat.le_trans h'.length_le h.length_le, h'.fed⟩

/-- Anchors and tags are taken, and nothing else. -/
theorem ensures_properties (hp : fed → Closed p.tokens) :
    Ensures (Halts fed) (fun r => Dropped fed p r.2.2) p.properties := by
  unfold properties
  refine (ensures_next hp).bind fun ⟨t, p₁⟩ h => ?_
  dsimp only
  split
  case h_1 ht | h_2 ht =>
    have h₁ := h.dropped ht (by simp)
    refine (ensures_next h₁.fed).bind fun ⟨u, p₂⟩ h' => ?_
    dsimp only
    split
    case h_1 hu => exact h₁.trans (h'.dropped hu (by simp))
    case h_2 => exact h₁
  case h_3 => exact .refl hp

/-! ### Nodes -/

/-- What comes of a node where so many collections are open. -/
structure Begins (fed : Prop) (p : Parse) (n : Option ℕ) (e : Event) (q : Parse) : Prop where
  goes : ∃ m, e.kind.Turns n m ∧ q.Expecting fed m
  weight_le : q.weight ≤ p.weight + 1

section Begins

variable {event : Event} (hs : Settled p.expects (n.getD 0))
include hs

theorem Dropped.begins (h : Dropped fed p q) (he : event.kind.Turns n (some (n.getD 0))) :
    Begins fed p n event q where
  goes := ⟨_, he, .of_settled (h.expects ▸ hs) h.fed⟩
  weight_le := by
    have hle := h.length_le
    rw [weight, weight, h.expects]
    omega

theorem Dropped.begins_collection (h : Dropped fed p q)
    (he : event.kind.Turns n (some (n.getD 0 + 1))) (hk : e.nests? = some 1) (hw : e.weight = 1)
    (hfed : fed → Closed (q.tokens.drop e.isFirst.toNat)) :
    Begins fed p n event (q.expecting (e :: q.expects)) where
  goes := ⟨_, he, .within rfl hk (h.expects ▸ hs) hfed⟩
  weight_le := by
    have hle := h.length_le
    show 3 * q.tokens.length + (e.weight + Expect.weights q.expects) ≤ _
    rw [weight, h.expects, hw]
    omega

theorem Dropped.ensures_empty (h : Dropped fed p q) (block : Bool) (props : Properties)
    (start : Mark) (t : Token) :
    Ensures (Halts fed) (fun r => Begins fed p n r.1 r.2) (node.empty block props start t q) :=
  .ite (fun _ => h.begins hs .scalar) fun _ => ensures_fail _ _ _

end Begins

theorem ensures_expandTag (p : Parse) (start m : Mark) (handle suffix : String) :
    Ensures (Halts fed) (fun _ => True) (p.expandTag start m handle suffix) := by
  unfold expandTag
  refine .ite (fun _ => trivial) fun _ => ?_
  split
  · trivial
  · exact ensures_fail _ _ _

/-- **A node** is one event, and opens at most one collection. -/
theorem ensures_node (block indentless : Bool) (hs : Settled p.expects (n.getD 0))
    (hp : fed → Closed p.tokens) :
    Ensures (Halts fed) (fun r => Begins fed p n r.1 r.2) (p.node block indentless) := by
  unfold node
  refine (ensures_next hp).bind fun ⟨t, p₁⟩ h => ?_
  dsimp -zeta only at h ⊢
  split
  case h_1 ht => exact (h.dropped ht (by simp)).begins hs .reference
  case h_2 =>
    extract_lets start
    refine (ensures_properties hp).bind fun ⟨anchor, written, p₂⟩ h₂ => ?_
    refine (ensures_next h₂.fed).bind fun ⟨u, p₃⟩ h₃ => ?_
    dsimp -zeta only at h₂ h₃ ⊢
    extract_lets collect finish
    -- the token that opens a collection stays, and is the first of what the collection takes
    have hopens : u.lexeme ≠ .streamEnd → fed → Closed (p₂.tokens.drop 1) := fun hu hf => by
      rw [h₃.tokens]
      exact h₃.fed hf hu
    have hempty := h₂.ensures_empty hs block
    have hfinish : ∀ tag, Ensures (Halts fed) (fun r => Begins fed p n r.1 r.2) (finish tag) := by
      intro tag
      unfold finish
      dsimp only
      split
      case h_1 =>
        exact .ite (fun _ => h₂.begins_collection hs .sequenceStart rfl rfl h₂.fed)
          fun _ => hempty _ _ _
      case h_2 hu => exact (h₂.trans (h₃.dropped hu (by simp))).begins hs .scalar
      case h_3 hu =>
        exact h₂.begins_collection hs .sequenceStart rfl rfl (hopens (by simp [hu]))
      case h_4 hu =>
        exact h₂.begins_collection hs .mappingStart rfl rfl (hopens (by simp [hu]))
      case h_5 hu =>
        exact .ite (fun _ => h₂.begins_collection hs .sequenceStart rfl rfl
          (hopens (by simp [hu]))) fun _ => hempty _ _ _
      case h_6 hu =>
        exact .ite (fun _ => h₂.begins_collection hs .mappingStart rfl rfl
          (hopens (by simp [hu]))) fun _ => hempty _ _ _
      case h_7 => exact hempty _ _ _
    split
    · exact hfinish none
    · exact (ensures_expandTag p₂ _ _ _ _).map.bind fun tag _ => hfinish tag

end Parse

end HookPlan.Yaml
