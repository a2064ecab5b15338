import HookPlan.Yaml.Read
import Mathlib.Data.List.Forall2

/-!
# What readers accept

Without references a reader has nothing to count, so it is known by the values that it
succeeds with. For the readers of basic types these are given by views: what a node is taken
for as text, as a truth value, as null, as a sequence.

* `Node.aliasFree`: the nodes without references.
* `Node.text?`, `Node.truth?`, `Node.null?`, `Node.items?`: the views.
* `Reader.Accepts`: the values that a reader succeeds with; `Accepts.bind` for a reader after
  another.
* `readsAs_string`, `readsAs_boolean`, `ReadsAs.optional`, `ReadsAs.items`: readers of nodes.
* `Document.Plain`, `Plain.read_eq_ok_iff`: readers of documents.
-/

namespace HookPlan.Yaml

variable {α β : Type}

/-! ### Views of a node -/

namespace Node

mutual

/-- Whether a node contains no references. -/
def aliasFree : Node → Bool
  | reference .. => false
  | sequence _ items => aliasFreeItems items
  | mapping _ entries => aliasFreeEntries entries
  | scalar .. | absent _ | cut => true

def aliasFreeItems : List Node → Bool
  | [] => true
  | n :: ns => n.aliasFree && aliasFreeItems ns

def aliasFreeEntries : List (Node × Node) → Bool
  | [] => true
  | (k, v) :: es => k.aliasFree && v.aliasFree && aliasFreeEntries es

end

theorem aliasFree_sequence {m : Mark} {ns : List Node} :
    (sequence m ns).aliasFree ↔ ∀ n ∈ ns, n.aliasFree := by
  rw [aliasFree]
  induction ns with
  | nil => exact ⟨fun _ => nofun, fun _ => rfl⟩
  | cons n ns ih => rw [aliasFreeItems, Bool.and_eq_true, ih, List.forall_mem_cons]

theorem aliasFree_mapping {m : Mark} {es : List (Node × Node)} :
    (mapping m es).aliasFree ↔ ∀ e ∈ es, e.1.aliasFree ∧ e.2.aliasFree := by
  rw [aliasFree]
  induction es with
  | nil => exact ⟨fun _ => nofun, fun _ => rfl⟩
  | cons e es ih =>
    obtain ⟨k, v⟩ := e
    rw [aliasFreeEntries, Bool.and_eq_true, Bool.and_eq_true, ih, List.forall_mem_cons]

/-- The text that a node is taken for: every scalar is text. -/
def text? : Node → Option String
  | scalar _ s => some s.content
  | _ => none

/-- The truth value that a node is taken for. -/
def truth? : Node → Option Bool
  | scalar _ s =>
    if s.style == .plain || (s.style == .literal && s.tag.bind CoreTag.ofTag? == some .bool) then
      boolean? s.content
    else none
  | _ => none

/-- The node is text and says this. -/
def IsText (n : Node) (t : String) : Prop := n.text? = some t

/-- The node is a truth value, namely this one. -/
def IsTruth (n : Node) (b : Bool) : Prop := n.truth? = some b

/-- Whether a node is null, where null is possible. A scalar that is tagged as null and says
something else is neither null nor a value there. -/
def null? : Node → Option Bool
  | scalar _ s =>
    if s.style != .plain then some false
    else match s.tag with
      | none => some (s.content.isEmpty || isNull s.content)
      | some tag =>
        if CoreTag.ofTag? tag != some .null then some false
        else if isNull s.content then some true
        else none
  | absent _ => some true
  | cut => none
  | _ => some false

/-- The items of a sequence; nothing at all is taken for the empty one. -/
def items? : Node → Option (List Node)
  | sequence _ ns => some ns
  | n => if n.isBlankScalar then some [] else none

/-- What an optional value is: null is none, and anything else is a value of the kind wanted. -/
def Optionally (P : Node → α → Prop) (n : Node) : Option α → Prop
  | none => n.null? = some true
  | some a => n.null? = some false ∧ P n a

/-- What a sequence is: each item is a value of the kind wanted, in the order of the text. -/
def Lists (P : Node → α → Prop) (n : Node) (as : List α) : Prop :=
  ∃ ns, n.items? = some ns ∧ List.Forall₂ P ns as

end Node

/-! ### Readers that follow no references -/

namespace Reader

variable {r : Reader α} {P Q : α → Prop}

/-- The reader succeeds with exactly these values, in every document, and follows no
references. -/
def Accepts (r : Reader α) (P : α → Prop) : Prop :=
  ∀ d count a count', r d count = .ok (a, count') ↔ count' = count ∧ P a

theorem Accepts.congr (h : r.Accepts P) (hPQ : ∀ a, P a ↔ Q a) : r.Accepts Q :=
  fun d count a count' => (h d count a count').trans (and_congr_right fun _ => hPQ a)

theorem accepts_pure (a : α) : (pure a : Reader α).Accepts (a = ·) := by
  intro d count b count'
  show Except.ok (a, count) = Except.ok (b, count') ↔ _
  rw [Except.ok.injEq, Prod.mk.injEq, and_comm, eq_comm (a := count)]

theorem Accepts.bind {f : α → Reader β} {R : α → β → Prop} (hr : r.Accepts P)
    (hf : ∀ a, P a → (f a).Accepts (R a)) : (r >>= f).Accepts fun b => ∃ a, P a ∧ R a b := by
  intro d count b count'
  show (r d count >>= fun x => f x.1 d x.2) = _ ↔ _
  constructor
  · intro h
    cases hrd : r d count with
    | error e => rw [hrd] at h; contradiction
    | ok x =>
      rw [hrd] at h
      obtain ⟨hx, ha⟩ := (hr d count x.1 x.2).1 hrd
      obtain ⟨hcount, hb⟩ := (hf x.1 ha d x.2 b count').1 h
      exact ⟨hcount.trans hx, x.1, ha, hb⟩
  · rintro ⟨rfl, a, ha, hb⟩
    rw [(hr d count' a count').2 ⟨rfl, ha⟩]
    exact (hf a ha d count' b count').2 ⟨rfl, hb⟩

theorem Accepts.map (h : r.Accepts P) (f : α → β) :
    (f <$> r).Accepts fun b => ∃ a, P a ∧ f a = b := by
  rw [map_eq_pure_bind]
  exact h.bind fun a _ => accepts_pure (f a)

theorem Accepts.located (h : r.Accepts P) (m : Mark) (p : Path) : (r.located m p).Accepts P := by
  intro d count a count'
  rw [← h d count a count']
  show (r d count).mapError (ReadError.locate m p) = _ ↔ _
  cases r d count <;> simp [Except.mapError]

theorem accepts_mismatch (m : Mismatch) : (mismatch m : Reader α).Accepts fun _ => False :=
  fun _ _ _ _ => ⟨nofun, fun h => h.2.elim⟩

theorem accepts_stopped : (stopped : Reader α).Accepts fun _ => False := by
  intro d count a count'
  have hstop : ∃ e, (stopped : Reader α) d count = .error e := by
    obtain ⟨root, anchors, fault, size, followed⟩ := d
    cases fault <;> exact ⟨_, rfl⟩
  obtain ⟨e, he⟩ := hstop
  rw [he]
  exact ⟨nofun, fun h => h.2.elim⟩

theorem accepts_ofExcept (x : Except Mismatch α) : (ofExcept x).Accepts (x = .ok ·) := by
  cases x with
  | ok a => exact (accepts_pure a).congr fun b => by rw [Except.ok.injEq]
  | error m => exact (accepts_mismatch m).congr fun b => ⟨nofun, nofun⟩

end Reader

/-! ### Readers of nodes -/

namespace Node

open Reader

/-- What a reader makes of a node without references. -/
def ReadsAs (read : Path → Node → Reader α) (P : Node → α → Prop) : Prop :=
  ∀ p n, n.aliasFree → (read p n).Accepts (P n)

theorem bind_target {n : Node} (h : n.aliasFree) (f : Node → Reader α) : n.target >>= f = f n := by
  cases n with
  | reference => contradiction
  | _ => rfl

theorem accepts_refuse (n : Node) (p : Path) (expected : String) :
    (n.refuse p expected : Reader α).Accepts fun _ => False := by
  cases n with
  | cut => exact accepts_stopped
  | _ => exact (accepts_mismatch _).located _ _

theorem readsAs_string : ReadsAs string IsText := by
  intro p n hn
  unfold string
  rw [bind_target hn]
  cases n with
  | scalar m s => exact (accepts_pure s.content).congr fun t => Option.some_inj.symm
  | _ => exact (accepts_refuse _ _ _).congr fun t => ⟨nofun, nofun⟩

theorem readsAs_boolean : ReadsAs boolean IsTruth := by
  intro p n hn
  have hread : boolean p n = n.truth?.elim (n.refuse p "a boolean") pure := by
    unfold boolean
    rw [bind_target hn]
    cases n with
    | scalar m s =>
      dsimp only [truth?]
      split
      next b hb => rw [hb]; rfl
      next hb => rw [hb]; rfl
    | _ => rfl
  rw [hread]
  cases hb : n.truth? with
  | some b => exact (accepts_pure b).congr fun b' => by simp [IsTruth, hb]
  | none => exact (accepts_refuse _ _ _).congr fun b' => by simp [IsTruth, hb]

variable {read : Path → Node → Reader α} {P : Node → α → Prop}

variable (read) in
/-- The three things that a reader of an optional value does. -/
theorem optional_eq {n : Node} (hn : n.aliasFree) (p : Path) :
    (n.null? = some true ∧ optional read p n = pure none) ∨
      (n.null? = some false ∧ optional read p n = some <$> read p n) ∨
      (n.null? = none ∧ (optional read p n).Accepts fun _ => False) := by
  unfold optional
  rw [bind_target hn]
  cases n with
  | absent m => exact .inl ⟨rfl, rfl⟩
  | sequence | mapping => exact .inr (.inl ⟨rfl, rfl⟩)
  | cut => exact .inr (.inr ⟨rfl, accepts_stopped⟩)
  | reference => contradiction
  | scalar m s =>
    obtain ⟨tag, content, style⟩ := s
    unfold null?
    dsimp only
    split
    · exact .inr (.inl ⟨rfl, rfl⟩)
    · cases tag with
      | none =>
        dsimp only
        cases content.isEmpty || isNull content with
        | true => exact .inl ⟨rfl, rfl⟩
        | false => exact .inr (.inl ⟨rfl, rfl⟩)
      | some tag =>
        dsimp only
        split
        · exact .inr (.inl ⟨rfl, rfl⟩)
        · split
          · exact .inl ⟨rfl, rfl⟩
          · exact .inr (.inr ⟨rfl, accepts_mismatch _⟩)

theorem ReadsAs.optional (h : ReadsAs read P) : ReadsAs (optional read) (Optionally P) := by
  intro p n hn
  rcases optional_eq read hn p with ⟨hnull, heq⟩ | ⟨hnull, heq⟩ | ⟨hnull, hfail⟩
  · rw [heq]
    refine (accepts_pure none).congr fun o => ?_
    cases o <;> simp [Optionally, hnull]
  · rw [heq]
    refine ((h p n hn).map some).congr fun o => ?_
    cases o <;> simp [Optionally, hnull]
  · refine hfail.congr fun o => ?_
    cases o <;> simp [Optionally, hnull]

theorem accepts_itemsFrom (h : ReadsAs read P) (p : Path) {ns : List Node}
    (hns : ∀ n ∈ ns, n.aliasFree) (i : ℕ) :
    (itemsFrom read p i ns).Accepts (List.Forall₂ P ns) := by
  induction ns generalizing i with
  | nil => exact (accepts_pure []).congr fun as => by rw [List.forall₂_nil_left_iff, eq_comm]
  | cons n ns ih =>
    rw [List.forall_mem_cons] at hns
    refine ((h _ n hns.1).bind fun a _ => (ih hns.2 (i + 1)).bind fun as _ =>
      accepts_pure (a :: as)).congr fun bs => ?_
    rw [List.forall₂_cons_left_iff]
    simp only [eq_comm]
    tauto

theorem ReadsAs.items (h : ReadsAs read P) : ReadsAs (items read) (Lists P) := by
  intro p n hn
  unfold Node.items Lists
  rw [bind_target hn]
  -- what is not a sequence counts as one only if nothing is written
  have hother : ∀ n : Node, n.items? = (if n.isBlankScalar then some [] else none) →
      (if n.isBlankScalar then pure [] else n.refuse p "a sequence" : Reader (List α)).Accepts
        fun as => ∃ ns, n.items? = some ns ∧ List.Forall₂ P ns as := by
    intro n hitems
    rw [hitems]
    cases n.isBlankScalar with
    | true =>
      refine (accepts_pure []).congr fun as => ?_
      simp [List.forall₂_nil_left_iff, eq_comm]
    | false => exact (accepts_refuse _ _ _).congr fun as => by simp
  cases n with
  | sequence m ns =>
    refine ((accepts_itemsFrom h p (aliasFree_sequence.1 hn) 0).located m p).congr fun as => ?_
    simp [items?]
  | _ => exact hother _ rfl

end Node

/-! ### Whole documents -/

/-- There is one document and nothing else, and it contains no references. -/
structure Document.Plain (d : Document) : Prop where
  wellFormed : d.fault = none
  alone : d.followed = false
  aliasFree : d.root.aliasFree

theorem Document.Plain.read_eq_ok_iff {d : Document} (hd : d.Plain)
    {read : Path → Node → Reader α} {P : Node → α → Prop} (h : Node.ReadsAs read P) {a : α} :
    d.read read = .ok a ↔ P d.root a := by
  have hroot := h .root d.root hd.aliasFree d 0
  unfold Document.read Document.readRoot
  rw [hd.wellFormed, hd.alone]
  cases hr : read .root d.root d 0 with
  | error e =>
    refine ⟨nofun, fun ha => ?_⟩
    rw [(hroot a 0).2 ⟨rfl, ha⟩] at hr
    contradiction
  | ok x =>
    obtain ⟨b, count⟩ := x
    obtain ⟨rfl, hb⟩ := (hroot b count).1 hr
    constructor
    · intro heq
      obtain rfl := Except.ok.inj heq
      exact hb
    · intro ha
      have hab := (hroot a 0).2 ⟨rfl, ha⟩
      rw [hr] at hab
      obtain ⟨rfl, -⟩ := Prod.mk.inj (Except.ok.inj hab)
      rfl

end HookPlan.Yaml
