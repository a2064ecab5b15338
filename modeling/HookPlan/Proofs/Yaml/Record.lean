import HookPlan.Configuration.Read
import HookPlan.Proofs.Yaml.Reading
import Mathlib.Data.List.Nodup

/-!
# What readers of records accept

A record is read entry after entry into a draft. Each key has a slot of the draft to itself, so
the slot holds in the end what its key was given, wherever that key stood, and nothing if the
key is not there. That a key is known and not repeated is seen on the way.

* `Node.fields?`: the view of a node as a mapping with texts for keys.
* `Layout`: the slots of a schema, which do not interfere with each other.
* `Layout.Takes`, `Layout.Fills`: what one entry and what all entries make of a draft.
* `Layout.readsAs_record`: a reader accepts what a node describes.
* `Layout.describes_iff_hasFields`: with a strict schema, what a node describes, key by key.
-/

namespace HookPlan.Yaml.Node

/-! ### Keys and values -/

section Lookup

variable {β : Type} {fs gs : List (String × β)} {key name : String} {v : β}

theorem lookup_cons_ne (h : name ≠ key) : ((key, v) :: fs).lookup name = fs.lookup name := by
  rw [List.lookup_cons, beq_false_of_ne h]

theorem lookup_eq_none_iff_keys : fs.lookup key = none ↔ key ∉ fs.map Prod.fst := by
  simp only [List.lookup_eq_none_iff, bne_iff_ne, List.mem_map, not_exists, not_and, ne_comm]

theorem lookup_eq_some_iff (hfs : (fs.map Prod.fst).Nodup) :
    fs.lookup key = some v ↔ (key, v) ∈ fs := by
  induction fs with
  | nil => simp
  | cons f fs ih =>
    obtain ⟨name, w⟩ := f
    rw [List.map_cons, List.nodup_cons] at hfs
    by_cases hkey : key = name
    · subst hkey
      have hnot : (key, v) ∉ fs := fun h => hfs.1 (List.mem_map.2 ⟨_, h, rfl⟩)
      simp [hnot, eq_comm]
    · rw [lookup_cons_ne hkey, ih hfs.2]
      simp [hkey]

/-- Where no key is repeated, the order does not matter. -/
theorem lookup_perm (hfs : (fs.map Prod.fst).Nodup) (h : fs.Perm gs) (key : String) :
    gs.lookup key = fs.lookup key := by
  refine Option.ext fun v => ?_
  rw [lookup_eq_some_iff hfs, lookup_eq_some_iff ((h.map Prod.fst).nodup_iff.1 hfs), h.mem_iff]

end Lookup

/-! ### Drafts -/

/-- The entries of a mapping whose keys are texts; nothing at all is taken for the mapping
without entries. -/
def fields? : Node → Option (List (String × Node))
  | mapping _ es => es.mapM fun e => e.1.text?.map (·, e.2)
  | n => if n.isBlankScalar then some [] else none

/-- A key of a record: the place of its value in a draft, and the values of a node there. -/
structure Slot (σ : Type) where
  {β : Type}
  name : String
  get : σ → Option β
  set : σ → β → σ
  {read : Path → Node → Reader β}
  {Means : Node → β → Prop}
  reads : ReadsAs read Means
  get_set : ∀ d b, get (set d b) = some b

def Slot.field {σ : Type} (s : Slot σ) : Field σ := .ofSlot s.name s.read s.get s.set

/-- The slots of a schema. They have different names and do not interfere with each other, and
there is nothing else in a draft. -/
structure Layout {σ α : Type} (schema : Schema σ α) where
  slots : List (Slot σ)
  fields : schema.fields = slots.map Slot.field
  distinct : (slots.map Slot.name).Nodup
  apart : ∀ s ∈ slots, ∀ t ∈ slots, s.name ≠ t.name → ∀ d b, t.get (s.set d b) = t.get d
  ext : ∀ d d', (∀ s ∈ slots, s.get d' = s.get d) → d' = d
  vacant : ∀ s ∈ slots, s.get schema.empty = none

namespace Layout

variable {σ α : Type} {schema : Schema σ α} (L : Layout schema) {d d' : σ} {key : String} {v : Node}
  {fs : List (String × Node)}

def names : List String := L.slots.map Slot.name

variable {L}

theorem mem_names {s : Slot σ} (hs : s ∈ L.slots) : s.name ∈ L.names :=
  List.mem_map.2 ⟨s, hs, rfl⟩

theorem slot_eq {s t : Slot σ} (hs : s ∈ L.slots) (ht : t ∈ L.slots) (h : s.name = t.name) :
    s = t :=
  List.inj_on_of_nodup_map L.distinct hs ht h

variable (L)

/-- The keys are known and not repeated. A lenient schema lets other keys pass, whose values
only have to be there. -/
structure Permits (fs : List (String × Node)) : Prop where
  known : ∀ f ∈ fs, f.1 ∈ L.names ∨ schema.strict = false ∧ f.2.whole
  once : ((fs.map Prod.fst).filter (· ∈ L.names)).Nodup

/-- What one entry makes of a draft. -/
inductive Takes (d : σ) (key : String) (v : Node) : σ → Prop
  | known {s : Slot σ} (hs : s ∈ L.slots) (hname : s.name = key) (hd : s.get d = none) {b : s.β}
      (hb : s.Means v b) : Takes d key v (s.set d b)
  | unknown (hkey : key ∉ L.names) (hlenient : schema.strict = false) (hv : v.whole) :
      Takes d key v d

variable {L}

theorem takes_of_mem {s : Slot σ} (hs : s ∈ L.slots) :
    L.Takes d s.name v d' ↔ s.get d = none ∧ ∃ b, s.Means v b ∧ s.set d b = d' := by
  constructor
  · intro h
    cases h with
    | @known t ht hname hd b hb =>
      obtain rfl := slot_eq ht hs hname
      exact ⟨hd, b, hb, rfl⟩
    | unknown hkey => exact absurd (mem_names hs) hkey
  · rintro ⟨hd, b, hb, rfl⟩
    exact .known hs rfl hd hb

theorem takes_of_not_mem (hkey : key ∉ L.names) :
    L.Takes d key v d' ↔ (schema.strict = false ∧ v.whole) ∧ d = d' := by
  constructor
  · intro h
    cases h with
    | known hs hname => exact absurd (hname ▸ mem_names hs) hkey
    | unknown _ hlenient hv => exact ⟨⟨hlenient, hv⟩, rfl⟩
  · rintro ⟨⟨hlenient, hv⟩, rfl⟩
    exact .unknown hkey hlenient hv

variable (L)

/-- What a slot holds once its key was given this node, or was not given. -/
def Turns (s : Slot σ) (d : σ) (given : Option Node) (d' : σ) : Prop :=
  match given with
  | none => s.get d' = s.get d
  | some v => s.get d = none ∧ ∃ b, s.Means v b ∧ s.get d' = some b

/-- What all entries make of a draft. -/
structure Fills (d : σ) (fs : List (String × Node)) (d' : σ) : Prop extends L.Permits fs where
  turns : ∀ s ∈ L.slots, Turns s d (fs.lookup s.name) d'

variable {L}

theorem fills_nil : L.Fills d [] d' ↔ d' = d := by
  constructor
  · exact fun h => L.ext d d' h.turns
  · rintro rfl
    exact ⟨⟨nofun, List.nodup_nil⟩, fun s _ => rfl⟩

theorem permits_iff : L.Permits fs ↔
    (∀ f ∈ fs, f.1 ∈ L.names ∨ schema.strict = false ∧ f.2.whole) ∧
      ((fs.map Prod.fst).filter (· ∈ L.names)).Nodup :=
  ⟨fun h => ⟨h.known, h.once⟩, fun h => ⟨h.1, h.2⟩⟩

theorem permits_cons_of_mem (hkey : key ∈ L.names) :
    L.Permits ((key, v) :: fs) ↔ key ∉ fs.map Prod.fst ∧ L.Permits fs := by
  rw [permits_iff, permits_iff, List.forall_mem_cons, List.map_cons,
    List.filter_cons, if_pos (decide_eq_true hkey), List.nodup_cons, List.mem_filter]
  simp only [hkey, decide_true, and_true, true_or, true_and]
  exact and_left_comm

theorem permits_cons_of_not_mem (hkey : key ∉ L.names) :
    L.Permits ((key, v) :: fs) ↔ (schema.strict = false ∧ v.whole) ∧ L.Permits fs := by
  rw [permits_iff, permits_iff, List.forall_mem_cons, List.map_cons,
    List.filter_cons, if_neg (by simpa using hkey)]
  simp only [hkey, false_or, and_assoc]

/-- An entry with a known key fills the slot of that key and no other. -/
theorem turns_set {s t : Slot σ} (hs : s ∈ L.slots) (ht : t ∈ L.slots) (hd : s.get d = none)
    {b : s.β} (hb : s.Means v b) (hfs : s.name ∉ fs.map Prod.fst) :
    Turns t (s.set d b) (fs.lookup t.name) d' →
      Turns t d (((s.name, v) :: fs).lookup t.name) d' := by
  intro h
  by_cases hst : s.name = t.name
  · obtain rfl := slot_eq hs ht hst
    rw [lookup_eq_none_iff_keys.2 hfs] at h
    rw [List.lookup_cons_self]
    exact ⟨hd, b, hb, h.trans (s.get_set d b)⟩
  · rw [lookup_cons_ne (Ne.symm hst)]
    unfold Turns at h ⊢
    rwa [L.apart s hs t ht hst] at h

/-- **Entries are taken one after another.** -/
theorem fills_cons :
    L.Fills d ((key, v) :: fs) d' ↔ ∃ d₁, L.Takes d key v d₁ ∧ L.Fills d₁ fs d' := by
  constructor
  · rintro ⟨hpermits, hturns⟩
    by_cases hkey : key ∈ L.names
    · obtain ⟨s, hs, rfl⟩ := List.mem_map.1 hkey
      obtain ⟨hfs, hrest⟩ := (permits_cons_of_mem hkey).1 hpermits
      have hself := hturns s hs
      rw [List.lookup_cons_self] at hself
      obtain ⟨hd, b, hb, hd'⟩ := hself
      refine ⟨s.set d b, .known hs rfl hd hb, hrest, fun t ht => ?_⟩
      -- the key does not come again, and no other slot notices that its own was filled
      by_cases hst : s.name = t.name
      · obtain rfl := slot_eq hs ht hst
        rw [lookup_eq_none_iff_keys.2 hfs]
        exact hd'.trans (s.get_set d b).symm
      · have hother := hturns t ht
        rw [lookup_cons_ne (Ne.symm hst)] at hother
        unfold Turns at hother ⊢
        rwa [L.apart s hs t ht hst]
    · obtain ⟨⟨hlenient, hv⟩, hrest⟩ := (permits_cons_of_not_mem hkey).1 hpermits
      refine ⟨d, .unknown hkey hlenient hv, hrest, fun t ht => ?_⟩
      have hother := hturns t ht
      rwa [lookup_cons_ne (ne_of_mem_of_not_mem (mem_names ht) hkey)] at hother
  · rintro ⟨d₁, htakes, hrest, hturns⟩
    cases htakes with
    | @known s hs hname hd b hb =>
      subst hname
      -- the key cannot come again, as its slot is no longer vacant
      have hfs : s.name ∉ fs.map Prod.fst := by
        intro hmem
        have hself := hturns s hs
        cases hv : fs.lookup s.name with
        | none => exact absurd hmem (lookup_eq_none_iff_keys.1 hv)
        | some w =>
          rw [hv] at hself
          exact absurd (s.get_set d b) (by rw [hself.1]; nofun)
      exact ⟨(permits_cons_of_mem (mem_names hs)).2 ⟨hfs, hrest⟩, fun t ht =>
        turns_set hs ht hd hb hfs (hturns t ht)⟩
    | unknown hkey hlenient hv =>
      refine ⟨(permits_cons_of_not_mem hkey).2 ⟨⟨hlenient, hv⟩, hrest⟩, fun t ht => ?_⟩
      rw [lookup_cons_ne (ne_of_mem_of_not_mem (mem_names ht) hkey)]
      exact hturns t ht

/-- In a draft that was empty each slot holds what its key was given. -/
theorem fills_empty : L.Fills schema.empty fs d ↔
    L.Permits fs ∧ ∀ s ∈ L.slots, Option.Rel s.Means (fs.lookup s.name) (s.get d) := by
  have hturns : ∀ s ∈ L.slots, Turns s schema.empty (fs.lookup s.name) d ↔
      Option.Rel s.Means (fs.lookup s.name) (s.get d) := by
    intro s hs
    unfold Turns
    rw [L.vacant s hs]
    cases fs.lookup s.name <;> cases s.get d <;> simp
  constructor
  · exact fun h => ⟨h.toPermits, fun s hs => (hturns s hs).1 (h.turns s hs)⟩
  · exact fun h => ⟨h.1, fun s hs => (hturns s hs).2 (h.2 s hs)⟩

/-! ### The readers -/

open Reader

theorem accepts_skip (v : Node) : v.skip.Accepts fun _ => v.whole := by
  unfold skip
  cases v.whole with
  | true => exact (accepts_pure ()).congr fun _ => by simp
  | false => exact accepts_stopped.congr fun _ => by simp

/-- The slot that is found for a key. -/
theorem find?_fields (L : Layout schema) (key : String) :
    (∃ s ∈ L.slots, s.name = key ∧ schema.fields.find? (·.name == key) = some s.field) ∨
      key ∉ L.names ∧ schema.fields.find? (·.name == key) = none := by
  have hfind : schema.fields.find? (·.name == key) =
      (L.slots.find? (·.name == key)).map Slot.field := by
    rw [L.fields, List.find?_map]
    rfl
  rw [hfind]
  cases hs : L.slots.find? (·.name == key) with
  | some s =>
    exact .inl ⟨s, List.mem_of_find?_eq_some hs, by simpa using List.find?_some hs, rfl⟩
  | none =>
    refine .inr ⟨fun hkey => ?_, rfl⟩
    obtain ⟨s, hmem, rfl⟩ := List.mem_map.1 hkey
    exact List.find?_eq_none.1 hs s hmem (beq_self_eq_true s.name)

/-- What the reader of one entry accepts. -/
theorem accepts_entry (L : Layout schema) (p : Path) (d : σ) {k v : Node} (hk : k.aliasFree)
    (hv : v.aliasFree) :
    (entry schema p d k v).Accepts fun d' => ∃ key, k.text? = some key ∧ L.Takes d key v d' := by
  unfold entry
  rw [bind_target hk]
  cases k with
  | scalar m t =>
    simp only [text?, Option.some.injEq, exists_eq_left']
    rcases find?_fields L t.content with ⟨s, hs, hname, hfind⟩ | ⟨hkey, hfind⟩
    · rw [hfind, ← hname]
      simp only [takes_of_mem hs]
      show (if (s.get d).isSome then mismatch _ else s.read _ v >>= fun b => pure (s.set d b)
        : Reader σ).Accepts _
      cases hd : s.get d with
      | some b => exact (accepts_mismatch _).congr fun d' => by simp
      | none =>
        exact ((s.reads _ v hv).bind fun b _ => accepts_pure (s.set d b)).congr fun d' => by simp
    · rw [hfind]
      simp only [takes_of_not_mem hkey]
      cases schema.strict with
      | true => exact ((accepts_mismatch _).located _ _).congr fun d' => by simp
      | false =>
        exact ((accepts_skip v).bind fun _ _ => accepts_pure d).congr fun d' => by simp
  | _ => exact (accepts_refuse _ _ _).congr fun d' => by simp [text?]

theorem accepts_entries (p : Path) {es : List (Node × Node)}
    (hes : ∀ e ∈ es, e.1.aliasFree ∧ e.2.aliasFree) (d : σ) :
    (entries schema p d es).Accepts fun d' =>
      ∃ fs, es.mapM (fun e => e.1.text?.map (·, e.2)) = some fs ∧ L.Fills d fs d' := by
  -- the draft changes with each entry, so the claim is about all drafts to start from
  induction es generalizing d with
  | nil =>
    refine (accepts_pure d).congr fun d' => ?_
    simp [fills_nil, eq_comm]
  | cons e es ih =>
    obtain ⟨k, v⟩ := e
    rw [List.forall_mem_cons] at hes
    refine ((accepts_entry (L := L) p d hes.1.1 hes.1.2).bind fun d₁ _ => ih hes.2 d₁).congr
      fun d' => ?_
    simp only [List.mapM_cons]
    constructor
    · rintro ⟨d₁, ⟨key, hkey, htakes⟩, fs, hfs, hfills⟩
      exact ⟨(key, v) :: fs, by simp [hkey, hfs], fills_cons.2 ⟨d₁, htakes, hfills⟩⟩
    · rintro ⟨gs, hgs, hfills⟩
      simp only [Option.bind_eq_bind, Option.bind_eq_some_iff, Option.map_eq_some_iff,
        Option.pure_def, Option.some.injEq] at hgs
      obtain ⟨f, ⟨key, hkey, rfl⟩, fs, hfs, rfl⟩ := hgs
      obtain ⟨d₁, htakes, hrest⟩ := fills_cons.1 hfills
      exact ⟨d₁, ⟨key, hkey, htakes⟩, fs, hfs, hrest⟩

/-- The record that a node describes: each slot holds what its key is given there. -/
def Describes (L : Layout schema) (n : Node) (a : α) : Prop :=
  ∃ fs, n.fields? = some fs ∧ L.Permits fs ∧
    ∃ d, (∀ s ∈ L.slots, Option.Rel s.Means (fs.lookup s.name) (s.get d)) ∧ schema.finish d = .ok a

theorem describes_iff_fills {n : Node} {a : α} : L.Describes n a ↔
    ∃ fs, n.fields? = some fs ∧ ∃ d, L.Fills schema.empty fs d ∧ schema.finish d = .ok a := by
  simp only [Describes, fills_empty, and_assoc, exists_and_left]

/-- **Readers of records accept what nodes describe.** -/
theorem readsAs_record (L : Layout schema) :
    ReadsAs (fun p n => n.record schema p) L.Describes := by
  intro p n hn
  show (n.record schema p).Accepts _
  unfold record
  rw [bind_target hn]
  -- what is not a mapping counts as one only if nothing is written
  have hother : ∀ n : Node, n.fields? = (if n.isBlankScalar then some [] else none) →
      (if n.isBlankScalar then (Reader.ofExcept (schema.finish schema.empty)).located n.mark p
        else n.refuse p s!"struct {schema.name}" : Reader α).Accepts (L.Describes n) := by
    intro n hfields
    cases hblank : n.isBlankScalar with
    | true =>
      refine ((accepts_ofExcept _).located n.mark p).congr fun a => ?_
      simp [describes_iff_fills, hfields, hblank, fills_nil]
    | false =>
      exact (accepts_refuse _ _ _).congr fun a => by simp [describes_iff_fills, hfields, hblank]
  cases n with
  | mapping m es =>
    refine (((accepts_entries (L := L) p (aliasFree_mapping.1 hn) schema.empty).bind fun d _ =>
      accepts_ofExcept (schema.finish d)).located m p).congr fun a => ?_
    rw [describes_iff_fills]
    constructor
    · rintro ⟨d, ⟨fs, hfs, hfills⟩, hfinish⟩
      exact ⟨fs, hfs, d, hfills, hfinish⟩
    · rintro ⟨fs, hfs, d, hfills, hfinish⟩
      exact ⟨d, ⟨fs, hfs, hfills⟩, hfinish⟩
  | _ => exact hother _ rfl

end Layout

/-! ### Key by key -/

variable {α : Type}

/-- What a key says that must be there. -/
def Required (P : Node → α → Prop) : Option Node → α → Prop
  | some n, a => P n a
  | none, _ => False

/-- What a key says that may be left out. -/
def Defaulted (P : Node → α → Prop) (default : α) : Option Node → α → Prop
  | some n, a => P n a
  | none, a => a = default

variable {P : Node → α → Prop} {given : Option Node}

theorem required_iff {a : α} : Required P given a ↔ Option.Rel P given (some a) := by
  cases given <;> simp [Required]

theorem defaulted_iff {default a : α} :
    Defaulted P default given a ↔ ∃ x, Option.Rel P given x ∧ x.getD default = a := by
  cases given with
  | none =>
    constructor
    · rintro rfl; exact ⟨none, .none, rfl⟩
    · rintro ⟨x, hx, rfl⟩; cases hx; rfl
  | some n =>
    constructor
    · exact fun h => ⟨some a, .some h, rfl⟩
    · rintro ⟨x, hx, rfl⟩; cases hx; assumption

/-- The node is a mapping with these entries. All keys are among `names`, and none is repeated. -/
structure HasFields (n : Node) (names : List String) (fs : List (String × Node)) : Prop where
  fields : n.fields? = some fs
  known : ∀ key ∈ fs.map Prod.fst, key ∈ names
  once : (fs.map Prod.fst).Nodup

/-- With a strict schema these are the mappings that a layout permits. -/
theorem Layout.hasFields_iff {σ : Type} {schema : Schema σ α} (L : Layout schema)
    (hstrict : schema.strict = true) {n : Node} {fs : List (String × Node)} :
    n.HasFields L.names fs ↔ n.fields? = some fs ∧ L.Permits fs := by
  have hknown : (∀ f ∈ fs, f.1 ∈ L.names ∨ schema.strict = false ∧ f.2.whole) ↔
      ∀ key ∈ fs.map Prod.fst, key ∈ L.names := by
    simp only [hstrict, Bool.true_eq_false, false_and, or_false, List.forall_mem_map]
  have honce : (∀ key ∈ fs.map Prod.fst, key ∈ L.names) →
      (fs.map Prod.fst).filter (· ∈ L.names) = fs.map Prod.fst := fun h =>
    List.filter_eq_self.2 fun key hkey => decide_eq_true (h key hkey)
  rw [Layout.permits_iff, hknown]
  constructor
  · exact fun h => ⟨h.fields, h.known, (honce h.known).symm ▸ h.once⟩
  · exact fun h => ⟨h.1, h.2.1, honce h.2.1 ▸ h.2.2⟩

theorem Layout.describes_iff_hasFields {σ : Type} {schema : Schema σ α} (L : Layout schema)
    (hstrict : schema.strict = true) {n : Node} {a : α} {Content : List (String × Node) → Prop}
    (hcontent : ∀ fs, (∃ d, (∀ s ∈ L.slots, Option.Rel s.Means (fs.lookup s.name) (s.get d)) ∧
      schema.finish d = .ok a) ↔ Content fs) :
    L.Describes n a ↔ ∃ fs, n.HasFields L.names fs ∧ Content fs := by
  simp only [Layout.Describes, hcontent, L.hasFields_iff hstrict, and_assoc]

end HookPlan.Yaml.Node
