import HookPlan.Proofs.Traversal
import HookPlan.Proofs.Yaml.Growing
import HookPlan.Proofs.Yaml.Reordered

/-!
# Keys that nobody looks at

A lenient schema lets keys pass that it does not know, with any values and any number of times. What
such a record says depends on the known keys alone: whether each of them comes once, and what it is
given.

* `whole_of_mem_items`, `whole_of_mem_fields`: what is in a node was read to its end if that was.
* `Layout.describes_iff_of_whole`: what a node describes, key by key.
* `Node.AgreeOn`: nodes that differ in nothing but other keys, the order of keys, and places.
-/

namespace HookPlan.Yaml

namespace Node

variable {α : Type} {n n' : Node} {ns : List Node} {fs fs' : List (String × Node)}

theorem whole_of_mem_items (h : n.whole) (hns : n.items? = some ns) {item : Node}
    (hi : item ∈ ns) : item.whole := by
  cases n with
  | sequence m items =>
    obtain rfl := Option.some.inj hns
    exact whole_sequence.1 h item hi
  | mapping | reference | cut => contradiction
  | absent =>
    obtain rfl := Option.some.inj hns
    cases hi
  | scalar =>
    obtain rfl : [] = ns := Option.some.inj (Option.ite_none_right_eq_some.1 hns).2
    cases hi

theorem whole_of_mem_fields (h : n.whole) (hfs : n.fields? = some fs) {f : String × Node}
    (hf : f ∈ fs) : f.2.whole := by
  cases n with
  | mapping m es =>
    obtain ⟨e, he, hef⟩ := exists_of_mem_right (mapM_eq_some_iff.1 hfs) hf
    obtain ⟨key, -, rfl⟩ := Option.map_eq_some_iff.1 hef
    exact (whole_mapping.1 h e he).2
  | sequence | reference | cut => contradiction
  | absent =>
    obtain rfl := Option.some.inj hfs
    cases hf
  | scalar =>
    obtain rfl : [] = fs := Option.some.inj (Option.ite_none_right_eq_some.1 hfs).2
    cases hf

/-! ### Known keys -/

/-- Each of these keys comes at most once. Other keys may come any number of times. -/
def Once (names : List String) (fs : List (String × Node)) : Prop :=
  ∀ key ∈ names, (fs.map Prod.fst).count key ≤ 1

theorem nodup_filter_iff_once {names : List String} :
    ((fs.map Prod.fst).filter (· ∈ names)).Nodup ↔ Once names fs := by
  have hcount : ∀ key ∈ names, ((fs.map Prod.fst).filter (· ∈ names)).count key =
      (fs.map Prod.fst).count key := fun key hkey => List.count_filter (by simpa using hkey)
  rw [List.nodup_iff_count_le_one]
  constructor
  · intro h key hkey
    exact hcount key hkey ▸ h key
  · intro h key
    by_cases hkey : key ∈ names
    · rw [hcount key hkey]
      exact h key hkey
    · rw [List.count_eq_zero_of_not_mem (by simp [hkey])]
      exact Nat.zero_le 1

/-- With a lenient schema, what a node describes is a matter of the known keys. -/
theorem Layout.describes_iff_of_whole {σ : Type} {schema : Schema σ α} (L : Layout schema)
    (hlenient : schema.strict = false) (hn : n.whole) {a : α}
    {Content : List (String × Node) → Prop}
    (hcontent : ∀ fs, (∃ d, (∀ s ∈ L.slots, Option.Rel s.Means (fs.lookup s.name) (s.get d)) ∧
      schema.finish d = .ok a) ↔ Content fs) :
    L.Describes n a ↔ ∃ fs, n.fields? = some fs ∧ Once L.names fs ∧ Content fs := by
  have hpermits : ∀ fs, n.fields? = some fs → (L.Permits fs ↔ Once L.names fs) := by
    intro fs hfs
    rw [Layout.permits_iff, nodup_filter_iff_once]
    exact and_iff_right fun f hf => .inr ⟨hlenient, whole_of_mem_fields hn hfs hf⟩
  unfold Layout.Describes
  simp only [hcontent]
  constructor
  · rintro ⟨fs, hfs, hp, hc⟩
    exact ⟨fs, hfs, (hpermits fs hfs).1 hp, hc⟩
  · rintro ⟨fs, hfs, ho, hc⟩
    exact ⟨fs, hfs, (hpermits fs hfs).2 ho, hc⟩

/-- The fields with one of these keys. -/
def fieldsOf (names : List String) (fs : List (String × Node)) : List (String × Node) :=
  fs.filter (·.1 ∈ names)

theorem map_fst_fieldsOf (names : List String) (fs : List (String × Node)) :
    (fieldsOf names fs).map Prod.fst = (fs.map Prod.fst).filter (· ∈ names) := by
  rw [List.filter_map]
  rfl

theorem lookup_fieldsOf {names : List String} {key : String} (hkey : key ∈ names)
    (fs : List (String × Node)) : (fieldsOf names fs).lookup key = fs.lookup key := by
  induction fs with
  | nil => rfl
  | cons f fs ih =>
    obtain ⟨name, v⟩ := f
    by_cases hname : name ∈ names
    · rw [fieldsOf, List.filter_cons_of_pos (by simpa using hname), List.lookup_cons,
        List.lookup_cons]
      cases key == name
      · exact ih
      · rfl
    · rw [fieldsOf, List.filter_cons_of_neg (by simpa using hname),
        lookup_cons_ne (ne_of_mem_of_not_mem hkey hname)]
      exact ih

/-- Both nodes are mappings with texts for keys, and their fields with one of these keys are the
same up to the order of keys, here and further down, and the places of everything in the text.
Nothing is said about other fields. -/
def AgreeOn (names : List String) (n n' : Node) : Prop :=
  ∃ fs fs' gs, n.fields? = some fs ∧ n'.fields? = some fs' ∧
    List.Forall₂ Alike (fieldsOf names fs) gs ∧ gs.Perm (fieldsOf names fs')

namespace AgreeOn

variable {names : List String}

theorem symm (h : AgreeOn names n n') : AgreeOn names n' n := by
  obtain ⟨fs, fs', gs, hfs, hfs', halike, hperm⟩ := h
  obtain ⟨gs', halike', hperm'⟩ := List.perm_comp_forall₂ hperm.symm halike.flip
  exact ⟨fs', fs, gs', hfs', hfs, halike'.imp fun _ _ h => ⟨h.1.symm, h.2.symm⟩, hperm'⟩

/-- Each key comes as often in both, and what a key is given that comes once is the same. -/
theorem fields (h : AgreeOn names n n') (hfs : n.fields? = some fs) (honce : Once names fs) :
    ∃ fs', n'.fields? = some fs' ∧ Once names fs' ∧
      ∀ key ∈ names, Option.Rel Reordered (fs.lookup key) (fs'.lookup key) := by
  obtain ⟨fs₁, fs', gs, hfs₁, hfs', halike, hperm⟩ := h
  obtain rfl : fs = fs₁ := Option.some.inj (hfs.symm.trans hfs₁)
  -- keys are compared first: lookup is stable under a permutation only where they come once
  have hkeys : gs.map Prod.fst = (fieldsOf names fs).map Prod.fst := by
    rw [← List.forall₂_eq_eq_eq, List.forall₂_map_left_iff, List.forall₂_map_right_iff]
    exact (List.Forall₂.flip halike).imp fun _ _ h => h.1.symm
  have hgs : (gs.map Prod.fst).Nodup := by
    rw [hkeys, map_fst_fieldsOf]
    exact nodup_filter_iff_once.2 honce
  refine ⟨fs', hfs', nodup_filter_iff_once.1 ?_, fun key hkey => ?_⟩
  · rw [← map_fst_fieldsOf]
    exact (hperm.map Prod.fst).nodup_iff.1 hgs
  · rw [← lookup_fieldsOf hkey fs, ← lookup_fieldsOf hkey fs', lookup_perm hgs hperm key]
    exact Reordered.lookup_alike halike key

end AgreeOn

end Node

end HookPlan.Yaml
