import Mathlib.Data.List.Forall2
import Mathlib.Data.List.Sort
import Mathlib.Data.Prod.Lex
import Mathlib.Order.Bounds.Basic

/-!
# Walks through nested lists

Sources have hooks, and steps meet paths. Both are walks through the cells of a nested list,
row after row, and both end at the first cell that fails.

* `mem_cells`, `cells_sorted`: the cells are exactly the pairs of indices in range, in strict
  lexicographic order.
* `mapM_eq_ok_iff`: a walk succeeds iff each of its steps does.
* `mapM_eq_error_iff`, `mapM_cells_eq_error_iff`: a walk fails as the least cell that fails.
-/

namespace HookPlan

variable {α β γ δ ε κ : Type}

/-- A member of a nested list, with its indices and the row that it stands in. -/
structure Cell (α β : Type) where
  row : ℕ
  column : ℕ
  outer : α
  inner : β

namespace Cell

def position (x : Cell α β) : ℕ ×ₗ ℕ := toLex (x.row, x.column)

/-- The cells of one row, where the first has column `j`. -/
def rowFrom (i : ℕ) (a : α) (j : ℕ) (bs : List β) : List (Cell α β) :=
  (bs.zipIdx j).map fun b => ⟨i, b.2, a, b.1⟩

/-- The cells of a nested list, where the first row has index `i`. -/
def cellsFrom (f : α → List β) (i : ℕ) (as : List α) : List (Cell α β) :=
  (as.zipIdx i).flatMap fun a => rowFrom a.2 a.1 0 (f a.1)

/-- The cells of a nested list, row after row. -/
def cells (f : α → List β) (as : List α) : List (Cell α β) := cellsFrom f 0 as

variable {f : α → List β} {as : List α} {x : Cell α β} {i j : ℕ}

theorem rowFrom_cons (i : ℕ) (a : α) (j : ℕ) (b : β) (bs : List β) :
    rowFrom i a j (b :: bs) = ⟨i, j, a, b⟩ :: rowFrom i a (j + 1) bs := rfl

theorem cellsFrom_cons (f : α → List β) (i : ℕ) (a : α) (as : List α) :
    cellsFrom f i (a :: as) = rowFrom i a 0 (f a) ++ cellsFrom f (i + 1) as := rfl

theorem mem_rowFrom {a : α} {bs : List β} :
    x ∈ rowFrom i a 0 bs ↔ x.row = i ∧ x.outer = a ∧ bs[x.column]? = some x.inner := by
  obtain ⟨r, c, o, b⟩ := x
  simp only [rowFrom, List.mem_map, mk.injEq, Prod.exists, List.mk_mem_zipIdx_iff_getElem?]
  constructor
  · rintro ⟨b', c', h, rfl, rfl, rfl, rfl⟩; exact ⟨rfl, rfl, h⟩
  · rintro ⟨rfl, rfl, h⟩; exact ⟨b, c, h, rfl, rfl, rfl, rfl⟩

/-- **The cells are the pairs of indices in range**, each with what stands there. -/
theorem mem_cells :
    x ∈ cells f as ↔ as[x.row]? = some x.outer ∧ (f x.outer)[x.column]? = some x.inner := by
  simp only [cells, cellsFrom, List.mem_flatMap, mem_rowFrom, Prod.exists,
    List.mk_mem_zipIdx_iff_getElem?]
  constructor
  · rintro ⟨a, i, ha, rfl, rfl, hb⟩; exact ⟨ha, hb⟩
  · rintro ⟨ha, hb⟩; exact ⟨x.outer, x.row, ha, rfl, rfl, hb⟩

theorem map_inner_rowFrom (i : ℕ) (a : α) (j : ℕ) (bs : List β) :
    (rowFrom i a j bs).map inner = bs := by
  simp [rowFrom, Function.comp_def, List.zipIdx_map_fst]

/-- Nothing is lost or repeated between a nested list and its cells. -/
theorem map_inner_cells (f : α → List β) (as : List α) :
    (cells f as).map inner = as.flatMap f := by
  have key : ∀ i, (cellsFrom f i as).map inner = as.flatMap f := by
    induction as with
    | nil => intro i; rfl
    | cons a as ih =>
      intro i
      rw [cellsFrom_cons, List.map_append, map_inner_rowFrom, ih, List.flatMap_cons]
  exact key 0

theorem row_sorted (i : ℕ) (a : α) (bs : List β) (j : ℕ) :
    (rowFrom i a j bs).Pairwise (fun x y => x.position < y.position) := by
  rw [rowFrom, List.pairwise_map]
  have h : ((bs.zipIdx j).map Prod.snd).Pairwise (· < ·) := by
    rw [List.zipIdx_map_snd]; exact List.pairwise_lt_range'
  rw [List.pairwise_map] at h
  refine h.imp ?_
  intro b b' hlt
  exact Prod.Lex.toLex_lt_toLex.2 (Or.inr ⟨rfl, hlt⟩)

/-- **The cells stand in strict lexicographic order** of their indices. -/
theorem cells_sorted (f : α → List β) (as : List α) :
    (cells f as).Pairwise (fun x y => x.position < y.position) := by
  rw [cells, cellsFrom, List.pairwise_flatMap]
  refine ⟨fun a _ => row_sorted _ _ _ _, ?_⟩
  have h : (as.zipIdx.map Prod.snd).Pairwise (· < ·) := by
    rw [List.zipIdx_map_snd]; exact List.pairwise_lt_range'
  rw [List.pairwise_map] at h
  refine h.imp ?_
  intro a a' hlt x hx y hy
  -- cells of two rows compare as the rows do
  obtain ⟨hx, -⟩ := mem_rowFrom.1 hx
  obtain ⟨hy, -⟩ := mem_rowFrom.1 hy
  exact Prod.Lex.toLex_lt_toLex.2 (Or.inl (by simpa [hx, hy] using hlt))

end Cell

/-! ### Walks that may fail -/

theorem bind_eq_ok_iff {r : Except ε α} {f : α → Except ε β} {b : β} :
    (r >>= f) = .ok b ↔ ∃ a, r = .ok a ∧ f a = .ok b := by
  cases r <;> simp [bind, Except.bind]

theorem bind_eq_error_iff {r : Except ε α} {f : α → Except ε β} {e : ε} :
    (r >>= f) = .error e ↔ r = .error e ∨ ∃ a, r = .ok a ∧ f a = .error e := by
  cases r <;> simp [bind, Except.bind]

theorem bind_pure_eq_error_iff {r : Except ε α} {g : α → β} {e : ε} :
    (r >>= fun a => pure (g a)) = .error e ↔ r = .error e := by
  cases r <;> simp [bind, Except.bind, pure, Except.pure]

/-- A computation succeeds unless it fails. -/
theorem exists_eq_ok_iff {r : Except ε α} : (∃ a, r = .ok a) ↔ ¬ ∃ e, r = .error e := by
  cases r <;> simp

theorem mapError_eq_ok_iff {r : Except ε α} {g : ε → δ} {a : α} :
    r.mapError g = .ok a ↔ r = .ok a := by
  cases r <;> simp [Except.mapError]

theorem mapError_eq_error_iff {r : Except ε α} {g : ε → δ} {d : δ} :
    r.mapError g = .error d ↔ ∃ e, r = .error e ∧ d = g e := by
  cases r <;> simp [Except.mapError, eq_comm]

/-- A computation without effects but failure is a plain one. -/
theorem exceptT_bind_eq (x : ExceptT ε Id α) (f : α → ExceptT ε Id β) :
    (x >>= f) = ((show Except ε α from x) >>= f : Except ε β) := by
  cases x <;> rfl

theorem mapM_congr {f g : α → Except ε β} {as : List α} (h : ∀ a ∈ as, f a = g a) :
    as.mapM f = as.mapM g := by
  induction as with
  | nil => rfl
  | cons a as ih =>
    obtain ⟨ha, has⟩ := List.forall_mem_cons.1 h
    rw [List.mapM_cons, List.mapM_cons, ha, ih has]

/-- A walk succeeds iff each of its steps does. -/
theorem mapM_eq_ok_iff {f : α → Except ε β} {as : List α} {bs : List β} :
    as.mapM f = .ok bs ↔ List.Forall₂ (fun a b => f a = .ok b) as bs := by
  induction as generalizing bs with
  | nil => rw [List.mapM_nil, List.forall₂_nil_left_iff]; simp [pure, Except.pure, eq_comm]
  | cons a as ih =>
    simp only [List.mapM_cons, bind_eq_ok_iff, ih]
    constructor
    · rintro ⟨b, hb, bs', hbs, h⟩
      cases h
      exact .cons hb hbs
    · intro h
      cases h with
      | cons hb hbs => exact ⟨_, hb, _, hbs, rfl⟩

/-- A walk succeeds unless some step fails. -/
theorem exists_mapM_eq_ok_iff {f : α → Except ε β} {as : List α} :
    (∃ bs, as.mapM f = .ok bs) ↔ ∀ a ∈ as, ∃ b, f a = .ok b := by
  induction as with
  | nil => exact ⟨fun _ => by simp, fun _ => ⟨[], rfl⟩⟩
  | cons a as ih =>
    rw [List.forall_mem_cons, ← ih]
    constructor
    · rintro ⟨bs, h⟩
      cases mapM_eq_ok_iff.1 h with
      | cons hb hbs => exact ⟨⟨_, hb⟩, _, mapM_eq_ok_iff.2 hbs⟩
    · rintro ⟨⟨b, hb⟩, bs, hbs⟩
      exact ⟨b :: bs, mapM_eq_ok_iff.2 (.cons hb (mapM_eq_ok_iff.1 hbs))⟩

/-- Whatever a walk yields comes from one of its steps. -/
theorem exists_of_mem_right {R : α → β → Prop} {as : List α} {bs : List β}
    (h : List.Forall₂ R as bs) {b : β} (hb : b ∈ bs) : ∃ a ∈ as, R a b := by
  induction h with
  | nil => cases hb
  | cons hR _ ih =>
    rcases List.mem_cons.1 hb with rfl | hb
    · exact ⟨_, List.mem_cons_self, hR⟩
    · obtain ⟨a, ha, hab⟩ := ih hb
      exact ⟨a, List.mem_cons_of_mem _ ha, hab⟩

theorem filterMap_cons_eq_append (f : α → Option β) (a : α) (as : List α) :
    (a :: as).filterMap f = (f a).toList ++ as.filterMap f := by
  rw [List.filterMap_cons]
  cases f a <;> rfl

/-- A test that has one outcome for all members keeps all of them or none. -/
theorem filter_eq_ite_of_forall {bs : List β} {keeps : β → Bool} {c : Bool}
    (h : ∀ b ∈ bs, keeps b = c) : bs.filter keeps = if c then bs else [] := by
  cases c with
  | false => exact List.filter_eq_nil_iff.2 fun b hb => by simp [h b hb]
  | true => exact List.filter_eq_self.2 h

/-- A walk that leaves out some steps leaves out what they yielded, if its members tell them
apart. -/
theorem exists_mapM_filter_eq_ok {f : α → Except ε (List β)} {keep : α → Bool} {keeps : β → Bool}
    (hf : ∀ a bs, f a = .ok bs → ∀ b ∈ bs, keeps b = keep a) {as : List α} {bss : List (List β)}
    (h : as.mapM f = .ok bss) :
    ∃ kept, (as.filter keep).mapM f = .ok kept ∧ kept.flatten = bss.flatten.filter keeps := by
  rw [mapM_eq_ok_iff] at h
  simp only [mapM_eq_ok_iff]
  induction h with
  | nil => exact ⟨[], .nil, rfl⟩
  | @cons a bs as bss hab _ ih =>
    obtain ⟨kept, hkept, hflat⟩ := ih
    rw [List.filter_cons, List.flatten_cons, List.filter_append, ← hflat,
      filter_eq_ite_of_forall (hf a bs hab)]
    cases keep a with
    | false => exact ⟨kept, hkept, rfl⟩
    | true => exact ⟨bs :: kept, .cons hab hkept, rfl⟩

/-- **A walk fails with the error of the first step that fails**, which is the least one if
the steps are sorted. -/
theorem mapM_eq_error_iff [LinearOrder κ] {key : α → κ} {f : α → Except ε β} {as : List α} {e : ε}
    (hs : as.Pairwise (fun x y => key x < key y)) :
    as.mapM f = .error e ↔
      ∃ a ∈ as, f a = .error e ∧ ∀ a' ∈ as, ∀ e', f a' = .error e' → key a ≤ key a' := by
  induction as with
  | nil => simp [pure, Except.pure]
  | cons a as ih =>
    obtain ⟨ha, hs⟩ := List.pairwise_cons.1 hs
    rw [List.mapM_cons, bind_eq_error_iff]
    constructor
    · rintro (h | ⟨b, hb, h⟩)
      · refine ⟨a, List.mem_cons_self, h, fun a' ha' _ _ => ?_⟩
        rcases List.mem_cons.1 ha' with rfl | ha'
        · exact le_rfl
        · exact (ha a' ha').le
      · obtain h | ⟨bs, -, h⟩ := bind_eq_error_iff.1 h
        · obtain ⟨x, hx, hxe, hmin⟩ := (ih hs).1 h
          refine ⟨x, List.mem_cons_of_mem _ hx, hxe, fun a' ha' e' he' => ?_⟩
          rcases List.mem_cons.1 ha' with rfl | ha'
          · rw [hb] at he'; cases he'
          · exact hmin a' ha' e' he'
        · cases h
    · rintro ⟨x, hx, hxe, hmin⟩
      cases hfa : f a with
      | error e' =>
        -- the head fails, so nothing after it is least
        rcases List.mem_cons.1 hx with rfl | hx
        · exact Or.inl (hfa.symm.trans hxe)
        · exact absurd (hmin a List.mem_cons_self e' hfa) (not_le.2 (ha x hx))
      | ok b =>
        refine Or.inr ⟨b, rfl, bind_eq_error_iff.2 (Or.inl ((ih hs).2 ?_))⟩
        rcases List.mem_cons.1 hx with rfl | hx
        · rw [hfa] at hxe; cases hxe
        · exact ⟨x, hx, hxe, fun a' ha' => hmin a' (List.mem_cons_of_mem _ ha')⟩

/-! ### Walks through cells -/

namespace Cell

/-- The positions of the cells that fail. -/
def faults (f : Cell α β → Except ε γ) (xs : List (Cell α β)) : Set (ℕ ×ₗ ℕ) :=
  {y | ∃ x ∈ xs, x.position = y ∧ ∃ e, f x = .error e}

variable {f : Cell α β → Except ε γ} {g : α → List β} {as : List α} {xs : List (Cell α β)}

/-- **A walk through all cells fails as the cell at the least position does.** -/
theorem mapM_cells_eq_error_iff {e : ε} :
    (cells g as).mapM f = .error e ↔
      ∃ x ∈ cells g as, IsLeast (faults f (cells g as)) x.position ∧ f x = .error e := by
  rw [mapM_eq_error_iff (cells_sorted g as)]
  constructor
  · rintro ⟨x, hx, he, hmin⟩
    refine ⟨x, hx, ⟨⟨x, hx, rfl, e, he⟩, ?_⟩, he⟩
    rintro _ ⟨y, hy, rfl, e', he'⟩
    exact hmin y hy e' he'
  · rintro ⟨x, hx, hl, he⟩
    exact ⟨x, hx, he, fun y hy e' he' => hl.2 ⟨y, hy, rfl, e', he'⟩⟩

/-- A walk succeeds iff no cell fails. -/
theorem exists_mapM_eq_ok_iff_faults : (∃ bs, xs.mapM f = .ok bs) ↔ faults f xs = ∅ := by
  rw [exists_mapM_eq_ok_iff, Set.eq_empty_iff_forall_notMem]
  constructor
  · rintro hall _ ⟨x, hx, rfl, e, he⟩
    obtain ⟨b, hb⟩ := hall x hx
    rw [he] at hb
    cases hb
  · intro hf x hx
    cases hfx : f x with
    | ok b => exact ⟨b, rfl⟩
    | error e => exact absurd ⟨x, hx, rfl, e, hfx⟩ (hf x.position)

end Cell

end HookPlan
