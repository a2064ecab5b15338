import HookPlan.Proofs.Yaml.Record
import Mathlib.Data.List.Perm.Basic

/-!
# The order of keys

Two texts may differ in nothing but the order of the keys in their mappings, at any depth, and
so in the places where things are written. What a node says about a record does not depend on
either.

* `Node.Reordered`: the nodes of such texts.
* `Reordered.hasFields`: their mappings have the same keys, with such nodes for values.
* `Stable`: what such nodes agree on; kept by optional values, sequences and keys.
-/

namespace HookPlan.Yaml.Node

/-- The nodes are the same up to the order of the entries of their mappings and the places of
everything in the text. -/
inductive Reordered : Node → Node → Prop
  | scalar {m m' : Mark} (s : Scalar) : Reordered (.scalar m s) (.scalar m' s)
  | absent {m m' : Mark} : Reordered (.absent m) (.absent m')
  | sequence {m m' : Mark} {ns ns' : List Node} (h : List.Forall₂ Reordered ns ns') :
      Reordered (.sequence m ns) (.sequence m' ns')
  | mapping {m m' : Mark} {es es' gs : List (Node × Node)}
      (hk : List.Forall₂ Reordered (es.map Prod.fst) (gs.map Prod.fst))
      (hv : List.Forall₂ Reordered (es.map Prod.snd) (gs.map Prod.snd)) (hp : gs.Perm es') :
      Reordered (.mapping m es) (.mapping m' es')

theorem mapM_eq_some_iff {α β : Type} {f : α → Option β} {as : List α} {bs : List β} :
    as.mapM f = some bs ↔ List.Forall₂ (fun a b => f a = some b) as bs := by
  induction as generalizing bs with
  | nil => simp [List.forall₂_nil_left_iff, eq_comm]
  | cons a as ih =>
    rw [List.mapM_cons, List.forall₂_cons_left_iff]
    simp only [Option.bind_eq_bind, Option.bind_eq_some_iff, Option.pure_def, Option.some.injEq,
      ih, eq_comm (a := bs)]
    tauto

/-- What makes an entry of a mapping a field. -/
def IsField (e : Node × Node) (f : String × Node) : Prop := e.1.text?.map (·, e.2) = some f

/-- The same key with nodes that are the same up to order. -/
def Alike (f g : String × Node) : Prop := f.1 = g.1 ∧ Reordered f.2 g.2

namespace Reordered

variable {n n' : Node} {fs gs : List (String × Node)}

theorem symm (h : Reordered n n') : Reordered n' n := by
  refine @Reordered.rec (fun n n' _ => Reordered n' n)
    (fun ns ns' _ => List.Forall₂ Reordered ns' ns) ?scalar ?absent ?sequence ?mapping ?nil ?cons
    n n' h
  case scalar => exact fun s => .scalar s
  case absent => exact .absent
  case sequence => exact fun _ ih => .sequence ih
  case nil => exact .nil
  case cons => exact fun _ _ ih ihs => .cons ih ihs
  case mapping =>
    intro m m' es es' gs _ _ hp ihk ihv
    -- the entries first change places back, then they are compared one by one
    have hpairs : List.Forall₂ (fun g e => Reordered g.1 e.1 ∧ Reordered g.2 e.2) gs es := by
      rw [List.forall₂_map_left_iff, List.forall₂_map_right_iff, List.forall₂_iff_zip] at ihk ihv
      exact List.forall₂_iff_zip.2 ⟨ihk.1, fun hmem => ⟨ihk.2 hmem, ihv.2 hmem⟩⟩
    obtain ⟨hs, hpairs, hperm⟩ := List.perm_comp_forall₂ hp.symm hpairs
    refine .mapping ?_ ?_ hperm
    · rw [List.forall₂_map_left_iff, List.forall₂_map_right_iff]
      exact hpairs.imp fun _ _ h => h.1
    · rw [List.forall₂_map_left_iff, List.forall₂_map_right_iff]
      exact hpairs.imp fun _ _ h => h.2

theorem text?_eq (h : Reordered n n') : n'.text? = n.text? := by cases h <;> rfl

theorem truth?_eq (h : Reordered n n') : n'.truth? = n.truth? := by cases h <;> rfl

theorem null?_eq (h : Reordered n n') : n'.null? = n.null? := by cases h <;> rfl

theorem items? {ns : List Node} (h : Reordered n n') (hns : n.items? = some ns) :
    ∃ ns', n'.items? = some ns' ∧ List.Forall₂ Reordered ns ns' := by
  cases h with
  | @sequence m m' ns ns' h =>
    obtain rfl := Option.some.inj hns
    exact ⟨ns', rfl, h⟩
  | scalar s =>
    obtain rfl : [] = ns := Option.some.inj (Option.ite_none_right_eq_some.1 hns).2
    exact ⟨[], hns, .nil⟩
  | absent =>
    obtain rfl : [] = ns := Option.some.inj hns
    exact ⟨[], rfl, .nil⟩
  | mapping => contradiction

theorem isField {e e' : Node × Node} {f : String × Node} (hf : IsField e f)
    (hk : Reordered e.1 e'.1) (hv : Reordered e.2 e'.2) : ∃ f', IsField e' f' ∧ Alike f f' := by
  obtain ⟨key, hkey, rfl⟩ := Option.map_eq_some_iff.1 hf
  exact ⟨(key, e'.2), by rw [IsField, hk.text?_eq, hkey]; rfl, rfl, hv⟩

theorem areFields {es gs : List (Node × Node)} (hfs : List.Forall₂ IsField es fs)
    (hk : List.Forall₂ Reordered (es.map Prod.fst) (gs.map Prod.fst))
    (hv : List.Forall₂ Reordered (es.map Prod.snd) (gs.map Prod.snd)) :
    ∃ gs', List.Forall₂ IsField gs gs' ∧ List.Forall₂ Alike fs gs' := by
  induction hfs generalizing gs with
  | nil =>
    obtain rfl : gs = [] := by simpa using hk
    exact ⟨[], .nil, .nil⟩
  | cons hf hfs ih =>
    cases gs with
    | nil => nomatch hk
    | cons g gs =>
      obtain ⟨f', hf', halike⟩ := isField hf (List.forall₂_cons.1 hk).1 (List.forall₂_cons.1 hv).1
      obtain ⟨gs', hgs', hrest⟩ := ih (List.forall₂_cons.1 hk).2 (List.forall₂_cons.1 hv).2
      exact ⟨f' :: gs', .cons hf' hgs', .cons halike hrest⟩

theorem fields? (h : Reordered n n') (hfs : n.fields? = some fs) :
    ∃ fs', n'.fields? = some fs' ∧ ∃ gs, List.Forall₂ Alike fs gs ∧ gs.Perm fs' := by
  cases h with
  | mapping hk hv hp =>
    -- first entry by entry in the old order, then the entries change places
    obtain ⟨gs', hgs', halike⟩ := areFields (mapM_eq_some_iff.1 hfs) hk hv
    obtain ⟨fs', hfs', hperm⟩ := List.perm_comp_forall₂ hp.symm hgs'
    exact ⟨fs', mapM_eq_some_iff.2 hfs', gs', halike, hperm.symm⟩
  | scalar s =>
    obtain rfl : [] = fs := Option.some.inj (Option.ite_none_right_eq_some.1 hfs).2
    exact ⟨[], hfs, [], .nil, .nil⟩
  | absent =>
    obtain rfl : [] = fs := Option.some.inj hfs
    exact ⟨[], rfl, [], .nil, .nil⟩
  | sequence => contradiction

theorem lookup_alike (h : List.Forall₂ Alike fs gs) (key : String) :
    Option.Rel Reordered (fs.lookup key) (gs.lookup key) := by
  induction h with
  | nil => exact .none
  | @cons f g fs gs hfg _ ih =>
    obtain ⟨name, v⟩ := f
    obtain ⟨name, w⟩ := g
    obtain ⟨rfl, hvw⟩ := hfg
    by_cases hkey : key = name
    · rw [hkey, List.lookup_cons_self, List.lookup_cons_self]
      exact .some hvw
    · rwa [lookup_cons_ne hkey, lookup_cons_ne hkey]

theorem hasFields {names : List String} (h : Reordered n n') (hfs : n.HasFields names fs) :
    ∃ fs', n'.HasFields names fs' ∧
      ∀ key, Option.Rel Reordered (fs.lookup key) (fs'.lookup key) := by
  obtain ⟨fs', hfs', gs, halike, hperm⟩ := h.fields? hfs.fields
  have hkeys : gs.map Prod.fst = fs.map Prod.fst := by
    rw [← List.forall₂_eq_eq_eq, List.forall₂_map_left_iff, List.forall₂_map_right_iff]
    exact (List.Forall₂.flip halike).imp fun _ _ h => h.1.symm
  have hperm' : (fs.map Prod.fst).Perm (fs'.map Prod.fst) := hkeys ▸ hperm.map Prod.fst
  refine ⟨fs', ⟨hfs', fun key hkey => hfs.known key (hperm'.mem_iff.2 hkey),
    hperm'.nodup_iff.1 hfs.once⟩, fun key => ?_⟩
  rw [lookup_perm (hkeys ▸ hfs.once) hperm key]
  exact lookup_alike halike key

end Reordered

/-! ### What does not depend on the order -/

variable {α : Type} {P : Node → α → Prop}

/-- What nodes say that are the same up to order. -/
def Stable (P : Node → α → Prop) : Prop :=
  ∀ ⦃n n' : Node⦄, n.Reordered n' → ∀ ⦃a : α⦄, P n a → P n' a

theorem Stable.optionally (hP : Stable P) : Stable (Optionally P) := by
  intro n n' h o ho
  cases o with
  | none => exact h.null?_eq.trans ho
  | some a => exact ⟨h.null?_eq.trans ho.1, hP h ho.2⟩

theorem Stable.lists (hP : Stable P) : Stable (Lists P) := by
  rintro n n' h as ⟨ns, hns, has⟩
  obtain ⟨ns', hns', hsame⟩ := h.items? hns
  refine ⟨ns', hns', ?_⟩
  clear hns hns'
  induction hsame generalizing as with
  | nil => exact has
  | cons hn _ ih =>
    obtain ⟨a, rest, ha, hrest, rfl⟩ := List.forall₂_cons_left_iff.1 has
    exact .cons (hP hn ha) (ih hrest)

variable {given given' : Option Node}

theorem Stable.required (hP : Stable P) (h : Option.Rel Reordered given given') {a : α} :
    Required P given a → Required P given' a := by
  cases h with
  | some h => exact fun ha => hP h ha
  | none => exact id

theorem Stable.defaulted (hP : Stable P) (h : Option.Rel Reordered given given') {default a : α} :
    Defaulted P default given a → Defaulted P default given' a := by
  cases h with
  | some h => exact fun ha => hP h ha
  | none => exact id

end HookPlan.Yaml.Node
