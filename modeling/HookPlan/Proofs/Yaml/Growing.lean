import HookPlan.Proofs.Yaml.Steps
import HookPlan.Yaml.Node

/-!
# A document without a fault is whole

The tree of a document grows by its events. While they last, all that has been added is whole, and
what is still open is open around the events too. Where a text has no fault nothing is left open, so
nothing has to be cut.

* `Growth.Grown`: a tree that has grown so far.
* `Growth.Grown.events`: it keeps growing over a walk.
* `Document.whole_root`: a document without a fault was read to its end.
-/

namespace HookPlan.Yaml

namespace Node

theorem whole_sequence {m : Mark} {ns : List Node} :
    (sequence m ns).whole ↔ ∀ n ∈ ns, n.whole := by
  rw [whole]
  induction ns with
  | nil => exact ⟨fun _ => nofun, fun _ => rfl⟩
  | cons n ns ih => rw [wholeItems, Bool.and_eq_true, ih, List.forall_mem_cons]

theorem whole_mapping {m : Mark} {es : List (Node × Node)} :
    (mapping m es).whole ↔ ∀ e ∈ es, e.1.whole ∧ e.2.whole := by
  rw [whole]
  induction es with
  | nil => exact ⟨fun _ => nofun, fun _ => rfl⟩
  | cons e es ih =>
    obtain ⟨k, v⟩ := e
    rw [wholeEntries, Bool.and_eq_true, Bool.and_eq_true, ih, List.forall_mem_cons]

end Node

/-- All that has been added to a collection is whole. -/
def Frame.IsWhole : Frame → Prop
  | sequence _ _ items => ∀ n ∈ items, n.whole
  | mapping _ _ entries key => (∀ e ∈ entries, e.1.whole ∧ e.2.whole) ∧ ∀ n ∈ key, n.whole

namespace Growth

variable {g g' : Growth} {n m : Option ℕ} {k place : ℕ} {x : Node} {e : Event} {es : List Event}

/-- So many collections are open, and nothing has been cut. -/
structure Sound (g : Growth) (k : ℕ) : Prop where
  frames : g.frames.length = k
  whole : ∀ f ∈ g.frames, f.IsWhole
  root : ∀ r ∈ g.root, r.whole

/-- So many collections are open, if the root has begun. Once none is, the root is there. -/
structure Grown (g : Growth) (n : Option ℕ) : Prop extends g.Sound (n.getD 0) where
  begun : n = some 0 → g.root ≠ none

/-- Only the frames and the root matter. -/
theorem Grown.congr (h : g.Grown n) (hframes : g'.frames = g.frames) (hroot : g'.root = g.root) :
    g'.Grown n where
  frames := hframes ▸ h.frames
  whole := hframes ▸ h.whole
  root := hroot ▸ h.root
  begun := hroot ▸ h.begun

/-- A node is added to the collection around it, or it is the root. -/
theorem Sound.add (h : g.Sound k) (hx : x.whole) (place : ℕ) : (g.add place x).Grown (some k) := by
  obtain ⟨frames, root, names, taken, nodes, p⟩ := g
  obtain ⟨hlen, hwhole, hroot⟩ := h
  dsimp only at hlen hwhole hroot
  cases frames with
  | nil => exact ⟨⟨hlen, hwhole, fun r hr => Option.some.inj hr ▸ hx⟩, nofun⟩
  | cons f fs =>
    obtain ⟨hf, hfs⟩ := List.forall_mem_cons.1 hwhole
    have hopen : some k ≠ some 0 := by
      rw [← hlen]
      nofun
    -- what is added to the innermost collection leaves it whole, and the others as they are
    cases f with
    | sequence m q items =>
      exact ⟨⟨hlen, List.forall_mem_cons.2 ⟨List.forall_mem_cons.2 ⟨hx, hf⟩, hfs⟩, hroot⟩,
        fun h => absurd h hopen⟩
    | mapping m q entries key =>
      cases key with
      | none =>
        have hkey : ∀ n ∈ some x, n.whole := fun _ h => Option.some.inj h ▸ hx
        exact ⟨⟨hlen, List.forall_mem_cons.2 ⟨⟨hf.1, hkey⟩, hfs⟩, hroot⟩, fun h => absurd h hopen⟩
      | some key =>
        have hentries : ∀ e ∈ (key, x) :: entries, e.1.whole ∧ e.2.whole :=
          List.forall_mem_cons.2 ⟨⟨hf.2 key rfl, hx⟩, hf.1⟩
        exact ⟨⟨hlen, List.forall_mem_cons.2 ⟨⟨hentries, nofun⟩, hfs⟩, hroot⟩,
          fun h => absurd h hopen⟩

/-- The innermost collection ends, and is added to the one around it. -/
theorem Sound.closed (h : g.Sound (k + 1)) : g.close.Grown (some k) := by
  obtain ⟨frames, root, names, taken, nodes, p⟩ := g
  obtain ⟨hlen, hwhole, hroot⟩ := h
  dsimp only at hlen hwhole hroot
  cases frames with
  | nil => cases hlen
  | cons f fs =>
    obtain ⟨hf, hfs⟩ := List.forall_mem_cons.1 hwhole
    have hrest : Sound ⟨fs, root, names, taken, nodes, p⟩ k := ⟨Nat.succ.inj hlen, hfs, hroot⟩
    cases f with
    | sequence m q items =>
      exact hrest.add (Node.whole_sequence.2 fun n hn => hf n (List.mem_reverse.1 hn)) q
    | mapping m q entries key =>
      exact hrest.add (Node.whole_mapping.2 fun e he => hf.1 e (List.mem_reverse.1 he)) q

/-- A collection begins. -/
theorem Sound.opened (h : g.Sound k) {f : Frame} (hf : f.IsWhole) :
    Grown { g with frames := f :: g.frames } (some (k + 1)) where
  frames := congrArg Nat.succ h.frames
  whole := List.forall_mem_cons.2 ⟨hf, h.whole⟩
  root := h.root
  begun := nofun

/-- **One event keeps the tree growing.** -/
theorem Grown.event (h : g.Grown n) (he : e.kind.Turns n m) (hg : g.event e = some g') :
    g'.Grown m := by
  obtain ⟨kind, mark⟩ := e
  -- an anchor is only noted
  have hanchor : ∀ props, (g.anchor props).Sound (n.getD 0) := fun props => by
    unfold anchor
    split <;> exact ⟨h.frames, h.whole, h.root⟩
  unfold Growth.event at hg
  cases he with
  | documentStart =>
    cases hg
    exact h.congr rfl rfl
  | reference =>
    obtain ⟨number, -, rfl⟩ := Option.map_eq_some_iff.1 hg
    exact (h.toSound.add rfl g.place).congr rfl rfl
  | scalar =>
    cases hg
    exact ((hanchor _).add rfl g.place).congr rfl rfl
  | @sequenceStart props =>
    cases hg
    have hopened := (hanchor props).opened (f := .sequence mark (g.anchor props).place []) nofun
    exact hopened.congr rfl rfl
  | @mappingStart props =>
    cases hg
    have hopened := (hanchor props).opened (f := .mapping mark (g.anchor props).place [] none)
      ⟨nofun, nofun⟩
    exact hopened.congr rfl rfl
  | sequenceEnd | mappingEnd =>
    cases hg
    exact h.toSound.closed.congr rfl rfl

/-- **A tree keeps growing over a walk**, unless a name is not known. -/
theorem Grown.events (h : g.Grown n) (hw : Walk n es m) (hg : g.events es = (g', none)) :
    g'.Grown m := by
  induction hw generalizing g with
  | nil =>
    cases hg
    exact h
  | cons he _ ih =>
    rw [Growth.events] at hg
    split at hg
    case h_1 g₁ hg₁ => exact ih (h.event he hg₁) hg
    case h_2 => cases hg

end Growth

namespace Document

theorem whole_ofEvents {es : Events} (hw : es.fault = none → es.absent = none →
    Walk none es.list (some 0)) (h : (ofEvents es).fault = none) : (ofEvents es).root.whole := by
  unfold ofEvents at h ⊢
  cases habsent : es.absent with
  | some m => rfl
  | none =>
    rw [habsent] at h
    dsimp only at h ⊢
    cases hg : ({} : Growth).events es.list with
    | mk g unknown =>
      rw [hg] at h
      cases unknown with
      | some m => cases h
      | none =>
        have hstart : ({} : Growth).Grown none := ⟨⟨rfl, nofun, nofun⟩, nofun⟩
        have hgrown := hstart.events (hw (Option.map_eq_none_iff.1 h) habsent) hg
        -- no collection is open any more, so there is nothing to cut
        have hframes : g.frames = [] := List.length_eq_zero_iff.1 hgrown.frames
        obtain ⟨root, hroot⟩ := Option.ne_none_iff_exists'.1 (hgrown.begun rfl)
        rw [hframes, Growth.cut, hroot]
        exact hgrown.root root hroot

/-- **A document without a fault was read to its end.** -/
theorem whole_root {text : String} (h : (ofString text).fault = none) :
    (ofString text).root.whole :=
  whole_ofEvents (Events.walk_of_fault_eq_none Tokens.closed_of_fault_eq_none) h

end Document

end HookPlan.Yaml
