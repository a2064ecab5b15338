import HookPlan.Catalog.Filling
import Mathlib.Data.Finset.Card
import Mathlib.Data.List.Induction

/-!
# What a store of manifests remembers

A store is filled by one attempt after another, some of which fail. For each source it holds the
manifest of the last attempt that did not.

* `Attempt`, `Manifests.afterAll`: attempts, and the store that they leave behind.
* `LastManifest`: what the attempts for one source come to.
* `Reflects.step`: each attempt keeps the store in line with the attempts made so far.
* `lookup_afterAll`: lookups and the size in terms of the attempts alone.
-/

namespace HookPlan

variable {key : String × String} {ds : List Definition} {ms : Manifests}

/-! ### One manifest more -/

namespace Manifests

/-- The sources that have a manifest. -/
def sources (ms : Manifests) : List (String × String) := ms.entries.map Prod.fst

theorem lookup_filter_ne {α β : Type} [BEq α] [LawfulBEq α] {k k' : α} (h : k' ≠ k)
    (l : List (α × β)) : (l.filter (·.1 != k)).lookup k' = l.lookup k' := by
  induction l with
  | nil => rfl
  | cons x l ih =>
    obtain ⟨a, b⟩ := x
    rw [List.filter_cons, List.lookup_cons]
    by_cases ha : a = k
    · have hk : (k' == a) = false := by rw [beq_eq_false_iff_ne, ha]; exact h
      rw [hk]
      simpa [ha] using ih
    · simp [ha, ih, List.lookup_cons]

/-- A manifest that is put in replaces the one of the same source, and no other. -/
theorem find?_put (ms : Manifests) (l r : String) (ds : List Definition) (l' r' : String) :
    (ms.put l r ds).find? l' r' = if (l', r') = (l, r) then some ds else ms.find? l' r' := by
  unfold find? put
  rw [List.lookup_cons]
  by_cases h : (l', r') = (l, r)
  · simp [h]
  · have hk : ((l', r') == (l, r)) = false := beq_eq_false_iff_ne.2 h
    rw [if_neg h, hk]
    exact lookup_filter_ne h ms.entries

theorem sources_put (ms : Manifests) (l r : String) (ds : List Definition) :
    (ms.put l r ds).sources = (l, r) :: ms.sources.filter (· != (l, r)) := by
  rw [sources, put, List.map_cons, sources, List.filter_map]
  rfl

theorem mem_sources_iff : key ∈ ms.sources ↔ ∃ ds, ms.find? key.1 key.2 = some ds := by
  unfold sources find?
  rw [← Option.isSome_iff_exists, List.lookup_isSome_iff, List.mem_map]
  simp only [beq_iff_eq, eq_comm (a := key)]

theorem lookup_eq_ok_iff {l r id : String} {d : Definition} :
    ms.lookup l r id = .ok d ↔
      ∃ ds, ms.find? l r = some ds ∧ ds.find? (·.id == id) = some d := by
  unfold lookup
  cases ms.find? l r with
  | none => simp
  | some ds =>
    dsimp only
    cases hd : ds.find? (·.id == id) <;> simp [hd]

theorem lookup_eq_unknownSource_iff {l r id : String} :
    ms.lookup l r id = .error .unknownSource ↔ ∀ ds, ms.find? l r ≠ some ds := by
  unfold lookup
  cases ms.find? l r with
  | none => simp
  | some ds =>
    dsimp only
    cases ds.find? (·.id == id) <;> simp

theorem lookup_eq_unknownHook_iff {l r id id' : String} :
    ms.lookup l r id = .error (.unknownHook id') ↔
      id' = id ∧ ∃ ds, ms.find? l r = some ds ∧ ∀ d ∈ ds, d.id ≠ id := by
  unfold lookup
  cases ms.find? l r with
  | none => simp
  | some ds =>
    dsimp only
    cases hd : ds.find? (·.id == id) with
    | none =>
      have hall : ∀ d ∈ ds, ¬d.id = id := by simpa using hd
      simpa [eq_comm (a := id)] using fun _ => hall
    | some d =>
      have hid : d.id = id := by simpa using List.find?_some hd
      simpa using fun _ => ⟨d, List.mem_of_find?_eq_some hd, hid⟩

end Manifests

/-! ### Attempts -/

/-- One attempt to fill a store with the manifest of a source: from its text, or from a checkout,
with the files as they are at that time. -/
inductive Attempt where
  | text (location revision text : String)
  | checkout (files : Files.Access Id) (location revision directory : String)

namespace Attempt

variable {a : Attempt}

/-- The location and the revision of the source. -/
def source : Attempt → String × String
  | text l r _ | checkout _ l r _ => (l, r)

def filling : Attempt → Manifests.Filling Id Unit
  | text l r t => .ofText l r t
  | checkout files l r directory => .ofCheckout files l r directory

/-- The outcome for a store, and the store afterwards. -/
def run (a : Attempt) (ms : Manifests) : Except ManifestFault Unit × Manifests :=
  a.filling.run.run ms

/-- The text that there is to read. -/
def content : Attempt → Except ManifestFault String
  | text _ _ t => .ok t
  | checkout files _ _ directory =>
    (files.readText (Files.Path.join directory manifestName)).run.mapError
      (.unreadable (Files.Path.join directory manifestName))

/-- The manifest that there is to put in. -/
def manifest (a : Attempt) : Except ManifestFault (List Definition) := do
  (Definition.parseAll (← a.content)).mapError (.invalid a.source.1 a.source.2)

/-- An attempt fails if its file cannot be read or its text is no manifest. -/
def Succeeds (a : Attempt) : Prop := ∃ ds, a.manifest = .ok ds

instance : DecidablePred Succeeds := fun a => decidable_of_iff (a.manifest.isOk = true) <| by
  unfold Succeeds
  cases a.manifest <;> simp [Except.isOk, Except.toBool]

theorem run_ofText (l r t : String) (ms : Manifests) :
    (Manifests.Filling.ofText (m := Id) l r t).run.run ms =
      match (Definition.parseAll t).mapError (ManifestFault.invalid l r) with
      | .ok ds => (.ok (), ms.put l r ds)
      | .error e => (.error e, ms) := by
  unfold Manifests.Filling.ofText Manifests.Filling.change Manifests.insert
  cases Definition.parseAll t <;> rfl

theorem run_ofCheckout (files : Files.Access Id) (l r directory : String) (ms : Manifests) :
    (Manifests.Filling.ofCheckout files l r directory).run.run ms =
      match (checkout files l r directory).content with
      | .ok t => (Manifests.Filling.ofText (m := Id) l r t).run.run ms
      | .error e => (.error e, ms) := by
  unfold Manifests.Filling.ofCheckout content
  dsimp only
  generalize files.readText (Files.Path.join directory manifestName) = read
  cases read <;> rfl

/-- **An attempt** puts its manifest in, or fails and leaves the store as it was. Which of the two
it does has nothing to do with the store. -/
theorem run_eq (a : Attempt) (ms : Manifests) :
    a.run ms = match a.manifest with
      | .ok ds => (.ok (), ms.put a.source.1 a.source.2 ds)
      | .error e => (.error e, ms) := by
  unfold run manifest
  cases a with
  | text l r t => exact run_ofText l r t ms
  | checkout files l r directory =>
    rw [filling, run_ofCheckout]
    cases (checkout files l r directory).content with
    | error e => rfl
    | ok t => exact run_ofText l r t ms

theorem run_fst_eq_ok_iff : (a.run ms).1 = .ok () ↔ a.Succeeds := by
  rw [run_eq, Succeeds]
  cases a.manifest <;> simp

end Attempt

/-- The store after some attempts, whatever became of each. -/
def Manifests.afterAll (as : List Attempt) : Manifests := as.foldl (fun ms a => (a.run ms).2) {}

theorem Manifests.afterAll_append_singleton (as : List Attempt) (a : Attempt) :
    afterAll (as ++ [a]) = (a.run (afterAll as)).2 := by
  rw [afterAll, List.foldl_append]
  rfl

/-! ### The last attempt for a source -/

variable {as : List Attempt} {a : Attempt}

/-- The last attempt for a source that succeeded had this manifest. -/
def LastManifest (as : List Attempt) (key : String × String) (ds : List Definition) : Prop :=
  ∃ before a after, as = before ++ a :: after ∧ a.source = key ∧ a.manifest = .ok ds ∧
    ∀ b ∈ after, b.source = key → ¬ b.Succeeds

theorem not_lastManifest_nil : ¬ LastManifest [] key ds := by
  rintro ⟨before, a, after, h, -⟩
  simp at h

/-- One attempt more is the last one if it succeeds, and else makes no difference. -/
theorem lastManifest_append_singleton_iff :
    LastManifest (as ++ [a]) key ds ↔ a.source = key ∧ a.manifest = .ok ds ∨
      (a.source = key → ¬ a.Succeeds) ∧ LastManifest as key ds := by
  constructor
  · rintro ⟨before, b, after, h, hkey, hds, hafter⟩
    rcases List.eq_nil_or_concat after with rfl | ⟨after, b', rfl⟩
    · obtain ⟨rfl, hb⟩ := List.append_inj' h rfl
      cases hb
      exact Or.inl ⟨hkey, hds⟩
    · rw [List.concat_eq_append] at h hafter
      rw [← List.cons_append, ← List.append_assoc] at h
      obtain ⟨rfl, hb⟩ := List.append_inj' h rfl
      cases hb
      exact Or.inr ⟨hafter a (by simp), before, b, after, rfl, hkey, hds,
        fun x hx => hafter x (by simp [hx])⟩
  · rintro (⟨hkey, hds⟩ | ⟨ha, before, b, after, rfl, hkey, hds, hafter⟩)
    · exact ⟨as, a, [], rfl, hkey, hds, by simp⟩
    · refine ⟨before, b, after ++ [a], by simp, hkey, hds, fun x hx => ?_⟩
      rcases List.mem_append.1 hx with hx | hx
      · exact hafter x hx
      · rw [List.mem_singleton.1 hx]
        exact ha

theorem exists_lastManifest_iff :
    (∃ ds, LastManifest as key ds) ↔ ∃ a ∈ as, a.source = key ∧ a.Succeeds := by
  induction as using List.reverseRecOn with
  | nil => simp [not_lastManifest_nil]
  | append_singleton as a ih =>
    constructor
    · rintro ⟨ds, h⟩
      rcases lastManifest_append_singleton_iff.1 h with ⟨hkey, hds⟩ | ⟨-, h⟩
      · exact ⟨a, by simp, hkey, ds, hds⟩
      · obtain ⟨b, hb, hbk⟩ := ih.1 ⟨ds, h⟩
        exact ⟨b, List.mem_append_left _ hb, hbk⟩
    · rintro ⟨b, hb, hkey, hsucc⟩
      by_cases ha : a.source = key ∧ a.Succeeds
      · obtain ⟨hk, ds, hds⟩ := ha
        exact ⟨ds, lastManifest_append_singleton_iff.2 (Or.inl ⟨hk, hds⟩)⟩
      · -- the new attempt does not count, so the one that does is among the old ones
        rcases List.mem_append.1 hb with hb | hb
        · obtain ⟨ds, h⟩ := ih.2 ⟨b, hb, hkey, hsucc⟩
          exact ⟨ds, lastManifest_append_singleton_iff.2 (Or.inr ⟨fun hk hs => ha ⟨hk, hs⟩, h⟩)⟩
        · rw [List.mem_singleton.1 hb] at hkey hsucc
          exact absurd ⟨hkey, hsucc⟩ ha

/-! ### The store and its history -/

/-- A store that is in line with the attempts to fill it. -/
structure Reflects (as : List Attempt) (ms : Manifests) : Prop where
  nodup : ms.sources.Nodup
  find : ∀ key ds, ms.find? key.1 key.2 = some ds ↔ LastManifest as key ds

namespace Reflects

theorem nil : Reflects [] {} where
  nodup := List.nodup_nil
  find _ _ := iff_of_false nofun not_lastManifest_nil

/-- **Each attempt keeps the store in line**, whether it fails or not. -/
theorem step (h : Reflects as ms) (a : Attempt) : Reflects (as ++ [a]) (a.run ms).2 := by
  rw [Attempt.run_eq]
  cases hm : a.manifest with
  | error e =>
    have hfail : ¬ a.Succeeds := by
      rintro ⟨ds, hds⟩
      rw [hm] at hds
      cases hds
    refine ⟨h.nodup, fun key ds => ?_⟩
    rw [lastManifest_append_singleton_iff, h.find, hm]
    simp [hfail]
  | ok new =>
    have hsucc : a.Succeeds := ⟨new, hm⟩
    constructor
    · rw [Manifests.sources_put]
      exact List.nodup_cons.2 ⟨by simp, h.nodup.filter _⟩
    · intro key ds
      rw [lastManifest_append_singleton_iff, Manifests.find?_put, hm]
      by_cases hkey : a.source = key
      · subst hkey
        simp [hsucc]
      · have hne : (key.1, key.2) ≠ (a.source.1, a.source.2) := fun he => hkey he.symm
        rw [if_neg hne, h.find]
        simp [hkey]

theorem mem_sources_iff (h : Reflects as ms) :
    key ∈ ms.sources ↔ ∃ a ∈ as, a.source = key ∧ a.Succeeds := by
  rw [Manifests.mem_sources_iff, ← exists_lastManifest_iff]
  simp only [h.find]

end Reflects

/-- **The run.** After any attempts the store is in line with all of them. -/
theorem reflects_afterAll (as : List Attempt) : Reflects as (.afterAll as) := by
  induction as using List.reverseRecOn with
  | nil => exact .nil
  | append_singleton as a ih =>
    rw [Manifests.afterAll_append_singleton]
    exact ih.step a

/-- The sources for which an attempt succeeded. -/
def filledSources (as : List Attempt) : Finset (String × String) :=
  ((as.filter (·.Succeeds)).map Attempt.source).toFinset

theorem size_afterAll (as : List Attempt) :
    (Manifests.afterAll as).size = (filledSources as).card := by
  have hset : filledSources as = (Manifests.afterAll as).sources.toFinset := by
    ext key
    rw [List.mem_toFinset, (reflects_afterAll as).mem_sources_iff, filledSources]
    simp [and_comm, and_assoc]
  rw [hset, List.toFinset_card_of_nodup (reflects_afterAll as).nodup]
  simp [Manifests.sources, Manifests.size]

/-- **A store answers from the last attempt that succeeded.** After any attempts, a lookup yields
the first definition with the id in the manifest of the last attempt for just that source that
succeeded. Its source is unknown iff none did, and its hook iff that manifest has no such id. The
size counts the sources for which one did; an attempt that fails leaves the store as it was. -/
theorem lookup_afterAll (as : List Attempt) :
    (∀ l r id d, (Manifests.afterAll as).lookup l r id = .ok d ↔
      ∃ ds, LastManifest as (l, r) ds ∧ ds.find? (·.id == id) = some d) ∧
    (∀ l r id, (Manifests.afterAll as).lookup l r id = .error .unknownSource ↔
      ∀ a ∈ as, a.source = (l, r) → ¬ a.Succeeds) ∧
    (∀ l r id, (Manifests.afterAll as).lookup l r id = .error (.unknownHook id) ↔
      ∃ ds, LastManifest as (l, r) ds ∧ ∀ d ∈ ds, d.id ≠ id) ∧
    (Manifests.afterAll as).size = (filledSources as).card ∧
    ((Manifests.afterAll as).isEmpty = true ↔ ∀ a ∈ as, ¬ a.Succeeds) ∧
    ∀ a, ((a.run (.afterAll as)).1 = .ok () ↔ a.Succeeds) ∧
      (¬ a.Succeeds → Manifests.afterAll (as ++ [a]) = .afterAll as) := by
  have hfind : ∀ l r ds, (Manifests.afterAll as).find? l r = some ds ↔ LastManifest as (l, r) ds :=
    fun l r ds => (reflects_afterAll as).find (l, r) ds
  refine ⟨fun l r id d => ?_, fun l r id => ?_, fun l r id => ?_, size_afterAll as, ?_,
    fun a => ⟨Attempt.run_fst_eq_ok_iff, fun ha => ?_⟩⟩
  · simp only [Manifests.lookup_eq_ok_iff, hfind]
  · rw [Manifests.lookup_eq_unknownSource_iff]
    rw [← not_exists]
    simp only [hfind, exists_lastManifest_iff]
    constructor
    · intro h a ha hkey hs
      exact h ⟨a, ha, hkey, hs⟩
    · rintro h ⟨a, ha, hkey, hs⟩
      exact h a ha hkey hs
  · simp only [Manifests.lookup_eq_unknownHook_iff, hfind, true_and]
  · have hnil : (Manifests.afterAll as).isEmpty = true ↔ (Manifests.afterAll as).sources = [] := by
      simp [Manifests.isEmpty, Manifests.sources]
    rw [hnil, List.eq_nil_iff_forall_not_mem]
    simp only [(reflects_afterAll as).mem_sources_iff]
    constructor
    · intro h a ha hs
      exact h a.source ⟨a, ha, rfl, hs⟩
    · rintro h key ⟨a, ha, -, hs⟩
      exact h a ha hs
  · rw [Manifests.afterAll_append_singleton, Attempt.run_eq]
    cases hm : a.manifest with
    | error e => rfl
    | ok ds => exact absurd ⟨ds, hm⟩ ha

/-- Of two manifests of one source the second counts, also after a checkout that holds none. The
names of another source may run together to the same text. -/
theorem lookup_afterAll_replaced :
    ∃ as : List Attempt, as.map Attempt.source = [("a", "1"), ("a", "1"), ("a", "1")] ∧
      (Manifests.afterAll as).lookup "a" "1" "y" = .ok { id := "y" } ∧
      (Manifests.afterAll as).lookup "a" "1" "x" = .error (.unknownHook "x") ∧
      (Manifests.afterAll as).lookup "a1" "" "y" = .error .unknownSource := by
  let bare : Attempt :=
    .checkout ⟨fun _ => none, fun _ => Except.error .missing, fun _ => Except.error .missing⟩
      "a" "1" "d"
  have hbare : ¬ bare.Succeeds := by
    rintro ⟨ds, hds⟩
    cases hds
  have hlast : LastManifest [.text "a" "1" "- id: x", .text "a" "1" "- id: y", bare] ("a", "1")
      [{ id := "y" }] := by
    refine ⟨[.text "a" "1" "- id: x"], .text "a" "1" "- id: y", [bare], rfl, rfl, by with_unfolding_all rfl, ?_⟩
    intro b hb _
    rwa [List.mem_singleton.1 hb]
  obtain ⟨hok, hsource, hhook, -⟩ :=
    lookup_afterAll [.text "a" "1" "- id: x", .text "a" "1" "- id: y", bare]
  refine ⟨_, rfl, (hok _ _ _ _).2 ⟨_, hlast, rfl⟩, (hhook _ _ _).2 ⟨_, hlast, by simp⟩,
    (hsource _ _ _).2 ?_⟩
  intro a ha hkey
  simp only [List.mem_cons, List.not_mem_nil, or_false] at ha
  rcases ha with rfl | rfl | rfl <;> simp [Attempt.source, bare] at hkey

end HookPlan
