import HookPlan.Proofs.Json.Skipping
import Mathlib.Data.List.Pairwise
import Mathlib.Data.List.Perm.Basic

/-!
# The order of members

A record is read from the members of an object in any order and among members it does not know.
What carries this is the exchange of two neighbours: what two members make of a draft one after
the other, they also make of it the other way round (`Exchanges`). So every order comes to what
one order comes to (`Chain.perm`), and members that leave drafts alone may come anywhere.

* `Holds`: the texts of the objects with some known members.
* `Reads`, `Holds.takes`: a reader whose members may be exchanged reads all these texts alike.
* `Field.Lawful`, `reads_fields`: records whose members have places of their own are such.
-/

namespace HookPlan.Json

variable {α β γ σ : Type}

/-! ### Exchanging neighbours -/

/-- Two steps may be done the other way round. -/
def Exchanges (R : α → σ → σ → Prop) : Prop :=
  ∀ {a b : α} {d d₁ d₂ : σ}, R a d d₁ → R b d₁ d₂ → ∃ d₁', R b d d₁' ∧ R a d₁' d₂

namespace Chain

variable {R S : α → σ → σ → Prop} {d d₁ d₂ : σ} {as bs : List α}

theorem append (h : Chain R d as d₁) (h' : Chain R d₁ bs d₂) : Chain R d (as ++ bs) d₂ := by
  induction h with
  | nil => exact h'
  | cons ha _ ih => exact .cons ha (ih h')

theorem imp (hRS : ∀ {a d d'}, R a d d' → S a d d') (h : Chain R d as d₁) : Chain S d as d₁ := by
  induction h with
  | nil d => exact .nil d
  | cons ha _ ih => exact .cons (hRS ha) ih

/-- **A chain leads to the same state in any order.** -/
theorem perm (hR : Exchanges R) (hp : as.Perm bs) (h : Chain R d as d₁) : Chain R d bs d₁ := by
  -- a permutation is made of exchanges of neighbours
  induction hp generalizing d with
  | nil => exact h
  | cons a _ ih =>
    cases h with
    | cons ha has => exact .cons ha (ih has)
  | swap a b as =>
    cases h with
    | cons hb h =>
      cases h with
      | cons ha has =>
        obtain ⟨d₁', ha', hb'⟩ := hR hb ha
        exact .cons ha' (.cons hb' has)
  | trans _ _ ih ih' => exact ih' (ih h)

/-- Elements that change nothing. -/
theorem of_forall (h : ∀ a ∈ as, R a d d) : Chain R d as d := by
  induction as with
  | nil => exact .nil d
  | cons a as ih =>
    exact .cons (h a List.mem_cons_self) (ih fun b hb => h b (List.mem_cons_of_mem a hb))

end Chain

/-! ### Known members among others -/

/-- A member that a record knows: its name, the texts its value may have, and when there may be no
such member. -/
structure Known where
  name : String
  IsText : List Char → Prop
  MayLack : Prop

/-- A member that must be there. -/
def Known.needed (name : String) (IsText : List Char → Prop) : Known := ⟨name, IsText, False⟩

/-- Members with the names and texts of known ones, without some that may lack. -/
inductive Listed : List Known → List (String × List Char) → Prop
  | nil : Listed [] []
  | cons {k : Known} {text : List Char} {ks : List Known} {ms : List (String × List Char)}
    (h : k.IsText text) (hs : Listed ks ms) : Listed (k :: ks) ((k.name, text) :: ms)
  | lacking {k : Known} {ks : List Known} {ms : List (String × List Char)} (h : k.MayLack)
    (hs : Listed ks ms) : Listed (k :: ks) ms

theorem Listed.eq_nil {ms : List (String × List Char)} (h : Listed [] ms) : ms = [] := by
  cases h
  rfl

theorem Listed.exists_needed {name : String} {IsText : List Char → Prop} {ks : List Known}
    {ms : List (String × List Char)} (h : Listed (.needed name IsText :: ks) ms) :
    ∃ text ms', ms = (name, text) :: ms' ∧ IsText text ∧ Listed ks ms' := by
  cases h with
  | cons h hs => exact ⟨_, _, rfl, h, hs⟩
  | lacking h => exact h.elim

/-- The text of an object with known members in any order, among any members that have none of
some names. -/
def Holds (names : List String) (ks : List Known) (cs : List Char) : Prop :=
  ∃ given added ms, Listed ks given ∧ (∀ m ∈ added, m.1 ∉ names ∧ IsValue m.2) ∧
    ms.Perm (given ++ added) ∧ Enclosed .object IsMember ms cs

theorem Holds.opens {names : List String} {ks : List Known} {cs : List Char}
    (h : Holds names ks cs) : Opens cs := by
  obtain ⟨_, _, _, -, -, -, h⟩ := h
  exact h.opens

/-- What is written for an object of known members. -/
theorem holds_render (names : List String) {ks : List Known} {ms : List (String × Value)}
    {depth : ℕ} (h : Listed ks (ms.map fun m => (m.1, m.2.render (depth + 1)))) :
    Holds names ks ((Value.object ms).render depth) :=
  ⟨_, [], _, h, by simp, by simp, enclosed_render_object depth ms⟩

/-- What members do to a draft: what the reader makes of them, nothing if their name is none of
some names, and in any order the same. -/
structure Reads (take : String → σ → Reader σ) (names : List String)
    (R : String × List Char → σ → σ → Prop) : Prop where
  taken : ∀ {m d d'}, R m d d' → Taken take m d d'
  other : ∀ {m} d, m.1 ∉ names → IsValue m.2 → R m d d
  exchanges : Exchanges R

/-- **A record is read alike from all texts that hold its known members**, if it is read from
these members in the order of the list. -/
theorem Holds.takes {take : String → σ → Reader σ} {names : List String}
    {R : String × List Char → σ → σ → Prop} (hR : Reads take names R) {ks : List Known}
    {cs : List Char} (h : Holds names ks cs) {d : σ} {expected : String}
    {ofObject ofList : Reader α} {a : α}
    (hks : ∀ ms, Listed ks ms → ∃ d', Chain R d ms d' ∧
      ∀ s t, members take d s = .ok (d', t) → ofObject s = .ok (a, t)) :
    Takes (record expected ofObject ofList) cs a := by
  obtain ⟨given, added, ms, hgiven, hadded, hperm, hcs⟩ := h
  obtain ⟨d', hchain, hobject⟩ := hks given hgiven
  -- put last, the other members find the draft finished and leave it so
  have hothers : Chain R d' added d' := .of_forall fun m hm =>
    hR.other d' (hadded m hm).1 (hadded m hm).2
  have hall := (hchain.append hothers).perm hR.exchanges hperm.symm
  exact takes_record (hall.imp hR.taken) hcs hobject

/-! ### Records of fields -/

namespace Field

/-- A text for the value of a member makes a change to every draft. -/
def Writes (f : Field σ) (text : List Char) (u : σ → σ) : Prop :=
  ∀ d, Takes (f.read d) text (u d)

/-- Two members have places of their own: neither is present because of the other, and their
changes may be made in either order. -/
structure Apart (f g : Field σ) : Prop where
  left : ∀ {text u}, f.Writes text u → ∀ d, g.present (u d) = g.present d
  right : ∀ {text u}, g.Writes text u → ∀ d, f.present (u d) = f.present d
  commute : ∀ {s t u v}, f.Writes s u → g.Writes t v → ∀ d, v (u d) = u (v d)

instance : Std.Symm (@Apart σ) where
  symm _ _ h := ⟨h.right, h.left, fun hg hf d => (h.commute hf hg d).symm⟩

/-- A member is present after its value has been read, and apart from all the others. -/
structure Lawful (fields : List (Field σ)) : Prop where
  present : ∀ f ∈ fields, ∀ {text u}, f.Writes text u → ∀ d, f.present (u d) = true
  apart : fields.Pairwise Apart

variable {name name' : String} {read : Reader β} {read' : Reader γ} {get : σ → Option β}
  {get' : σ → Option γ} {set : σ → β → σ} {set' : σ → γ → σ}

theorem writes_ofSlot {text : List Char} {b : β} (h : Takes read text b) :
    (ofSlot name read get set).Writes text (fun d => set d b) :=
  fun _ pad rest hp hr => bind_apply (h pad rest hp hr)

/-- All changes of a member put a value into its place. -/
theorem Writes.exists_eq_set {text : List Char} {u : σ → σ}
    (h : (ofSlot name read get set).Writes text u) (d : σ) :
    ∃ b, read text = .ok (b, []) ∧ u d = set d b := by
  have hread := (h d).apply ends_nil
  rw [List.append_nil] at hread
  cases hb : read text with
  | error e =>
    have : (ofSlot name read get set).read d text = .error e := by
      show Except.bind (read text) _ = _
      rw [hb]
      rfl
    rw [this] at hread
    cases hread
  | ok p =>
    obtain ⟨b, rest⟩ := p
    have : (ofSlot name read get set).read d text = .ok (set d b, rest) := bind_apply hb
    rw [this] at hread
    obtain ⟨hset, rfl⟩ := Prod.mk.inj (Except.ok.inj hread)
    exact ⟨b, rfl, hset.symm⟩

theorem present_ofSlot (h : ∀ d b, get (set d b) = some b) {text : List Char} {u : σ → σ}
    (hw : (ofSlot name read get set).Writes text u) (d : σ) :
    (ofSlot name read get set).present (u d) = true := by
  obtain ⟨b, -, hb⟩ := hw.exists_eq_set d
  show (get (u d)).isSome = true
  rw [hb, h]
  rfl

theorem apart_ofSlot (h : ∀ d b, get' (set d b) = get' d) (h' : ∀ d b, get (set' d b) = get d)
    (hset : ∀ d b c, set' (set d b) c = set (set' d c) b) :
    Apart (ofSlot name read get set) (ofSlot name' read' get' set') where
  left hw d := by
    obtain ⟨b, -, hb⟩ := hw.exists_eq_set d
    show (get' _).isSome = (get' _).isSome
    rw [hb, h]
  right hw d := by
    obtain ⟨b, -, hb⟩ := hw.exists_eq_set d
    show (get _).isSome = (get _).isSome
    rw [hb, h']
  commute {s t u v} hu hv d := by
    -- the values do not depend on the drafts
    obtain ⟨b, hread, hb⟩ := hu.exists_eq_set d
    obtain ⟨b', hread', hb'⟩ := hu.exists_eq_set (v d)
    obtain ⟨c, hreadc, hc⟩ := hv.exists_eq_set d
    obtain ⟨c', hreadc', hc'⟩ := hv.exists_eq_set (u d)
    obtain rfl : b = b' := by
      rw [hread] at hread'
      exact (Prod.mk.inj (Except.ok.inj hread')).1
    obtain rfl : c = c' := by
      rw [hreadc] at hreadc'
      exact (Prod.mk.inj (Except.ok.inj hreadc')).1
    rw [hc', hb, hb', hc, hset]

end Field

/-- What a member makes of the draft of a record with some fields. -/
inductive Fills (fields : List (Field σ)) : String × List Char → σ → σ → Prop
  | known {f : Field σ} {text : List Char} {u : σ → σ} {d : σ}
    (hf : fields.find? (·.name == f.name) = some f) (hd : f.present d = false)
    (hw : f.Writes text u) : Fills fields (f.name, text) d (u d)
  | other {m : String × List Char} {d : σ} (hn : m.1 ∉ fields.map Field.name)
    (hv : IsValue m.2) : Fills fields m d d

theorem Fills.taken {fields : List (Field σ)} {m : String × List Char} {d d' : σ}
    (h : Fills fields m d d') : Taken (Field.take fields) m d d' := by
  intro after hafter pad rest hp hr
  unfold Field.take
  cases h with
  | known hf hd hw =>
    dsimp only
    rw [hf]
    dsimp only
    rw [hd, if_neg Bool.false_ne_true]
    exact takes_valueOf (hw d) hafter pad rest hp hr
  | other hn hv =>
    have hfind : fields.find? (·.name == m.1) = none := by
      rw [List.find?_eq_none]
      intro f hf
      rw [beq_iff_eq]
      exact fun h => hn (List.mem_map.2 ⟨f, hf, h⟩)
    rw [hfind]
    exact bind_apply (takes_valueOf (takes_skip hv) hafter pad rest hp hr)

theorem Fills.exchanges {fields : List (Field σ)} (h : Field.Lawful fields) :
    Exchanges (Fills fields) := by
  intro m n d d₁ d₂ hm hn
  cases hm with
  | other hm hv => exact ⟨d₂, hn, .other hm hv⟩
  | @known f text u _ hf hd hw =>
    cases hn with
    | other hn hv => exact ⟨d, .other hn hv, .known hf hd hw⟩
    | @known g text' v _ hg hd' hw' =>
      have hfm := List.mem_of_find?_eq_some hf
      have hgm := List.mem_of_find?_eq_some hg
      -- a member that is present is not taken a second time
      have hne : f ≠ g := by
        rintro rfl
        rw [h.present f hfm hw d] at hd'
        cases hd'
      have hapart := h.apart.forall hfm hgm hne
      rw [hapart.left hw] at hd'
      have hswap := Fills.known hf ((hapart.right hw' d).trans hd) hw
      rw [← hapart.commute hw hw' d] at hswap
      exact ⟨v d, .known hg hd' hw', hswap⟩

/-- A record of fields with places of their own may have its members in any order. -/
theorem reads_fields {fields : List (Field σ)} (h : Field.Lawful fields) :
    Reads (Field.take fields) (fields.map Field.name) (Fills fields) where
  taken := Fills.taken
  other _ hn hv := .other hn hv
  exchanges := Fills.exchanges h

/-- A member with a vacant place in the draft puts its value there. -/
theorem fills_ofSlot {fields : List (Field σ)} {name : String} {read : Reader β}
    {get : σ → Option β} {set : σ → β → σ}
    (hf : fields.find? (·.name == name) = some (.ofSlot name read get set)) {d : σ}
    (hd : get d = none) {text : List Char} {b : β} (h : Takes read text b) :
    Fills fields (name, text) d (set d b) := by
  refine .known (f := .ofSlot name read get set) (u := fun d => set d b) hf ?_ ?_
  · show (get d).isSome = false
    rw [hd]
    rfl
  · exact Field.writes_ofSlot h

/-- **A record of fields is read alike from all texts that hold its known members.** -/
theorem Holds.takes_object {fields : List (Field σ)} (hl : Field.Lawful fields) {ks : List Known}
    {cs : List Char} (h : Holds (fields.map Field.name) ks cs) {d : σ}
    {finish : σ → Except Mismatch α} {a : α}
    (hks : ∀ ms, Listed ks ms → ∃ d', Chain (Fills fields) d ms d' ∧ finish d' = .ok a)
    (expected : String) (ofList : Reader α) :
    Takes (record expected (object fields d finish) ofList) cs a := by
  refine h.takes (d := d) (reads_fields hl) fun ms hms => ?_
  obtain ⟨d', hchain, hd'⟩ := hks ms hms
  refine ⟨d', hchain, fun s t hs => ?_⟩
  unfold object
  rw [bind_apply hs, hd']
  rfl

end HookPlan.Json
