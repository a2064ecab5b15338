import HookPlan.Proofs.Catalog
import HookPlan.Proofs.Schema
import HookPlan.Proofs.Yaml.Lenient

/-!
# The schema of manifests

A manifest is a sequence of mappings, and each of them is read as a definition by five keys alone.
Whatever else a mapping holds has no part in it, so manifests that differ in nothing else, or in the
order of keys, are the same to a store.

* `Node.DescribesDefinition`: the definition that a mapping describes.
* `Definition.parseAll_eq_ok_iff`: a manifest is read as the definitions that its items describe.
* `Definition.parseAll_congr`: manifests that agree on the known keys are read alike.
* `Manifests.insert_by_known_keys`: what a store makes of a manifest.
-/

namespace HookPlan

open Yaml (Document)
open Yaml.Node

namespace Yaml.Node

def definitionKeys : List String := ["id", "name", "args", "files", "exclude"]

/-- A definition must have an id. Everything else may be left out, and all but the arguments may be
null. The known keys come once; there may be others. -/
def DescribesDefinition (n : Node) (d : Definition) : Prop :=
  ∃ fs, n.fields? = some fs ∧ Once definitionKeys fs ∧
    Required IsText (fs.lookup "id") d.id ∧
    Defaulted (Optionally IsText) none (fs.lookup "name") d.name ∧
    Defaulted (Lists IsText) [] (fs.lookup "args") d.args ∧
    Defaulted (Optionally IsText) none (fs.lookup "files") d.files ∧
    Defaulted (Optionally IsText) none (fs.lookup "exclude") d.exclude

/-- Two manifests, whose items agree on the known keys one by one. -/
def ManifestsAgree (n n' : Node) : Prop :=
  ∃ ns ns', n.items? = some ns ∧ n'.items? = some ns' ∧
    List.Forall₂ (AgreeOn definitionKeys) ns ns'

theorem ManifestsAgree.symm {n n' : Node} (h : ManifestsAgree n n') : ManifestsAgree n' n := by
  obtain ⟨ns, ns', hns, hns', hsame⟩ := h
  exact ⟨ns', ns, hns', hns, hsame.flip.imp fun _ _ h => AgreeOn.symm h⟩

/-- What a mapping describes is told by the known keys. -/
theorem AgreeOn.describesDefinition {n n' : Node} (h : AgreeOn definitionKeys n n')
    {d : Definition} (hd : n.DescribesDefinition d) : n'.DescribesDefinition d := by
  obtain ⟨fs, hfs, honce, hid, hname, hargs, hfiles, hexclude⟩ := hd
  obtain ⟨fs', hfs', honce', hsame⟩ := h.fields hfs honce
  refine ⟨fs', hfs', honce', ?_, ?_, ?_, ?_, ?_⟩
  · exact stable_isText.required (hsame _ (by decide)) hid
  · exact stable_isText.optionally.defaulted (hsame _ (by decide)) hname
  · exact stable_isText.lists.defaulted (hsame _ (by decide)) hargs
  · exact stable_isText.optionally.defaulted (hsame _ (by decide)) hfiles
  · exact stable_isText.optionally.defaulted (hsame _ (by decide)) hexclude

end Yaml.Node

/-! ### The readers -/

namespace Definition

/-- The slots of a definition's draft. -/
def layout : Layout schema where
  slots := [
    { name := "id", get := (·.id), set := fun d v => { d with id := some v },
      reads := readsAs_string, get_set := fun _ _ => rfl },
    { name := "name", get := (·.name), set := fun d v => { d with name := some v },
      reads := readsAs_string.optional, get_set := fun _ _ => rfl },
    { name := "args", get := (·.args), set := fun d v => { d with args := some v },
      reads := readsAs_string.items, get_set := fun _ _ => rfl },
    { name := "files", get := (·.files), set := fun d v => { d with files := some v },
      reads := readsAs_string.optional, get_set := fun _ _ => rfl },
    { name := "exclude", get := (·.exclude), set := fun d v => { d with exclude := some v },
      reads := readsAs_string.optional, get_set := fun _ _ => rfl }]
  fields := rfl
  distinct := by decide
  apart := by simp
  ext := by
    rintro ⟨⟩ ⟨⟩ h
    simpa using h
  vacant := by simp [schema]

theorem finish_eq_ok_iff {draft : DefinitionDraft} {d : Definition} :
    schema.finish draft = .ok d ↔ draft.id = some d.id ∧ draft.name.getD none = d.name ∧
      draft.args.getD [] = d.args ∧ draft.files.getD none = d.files ∧
        draft.exclude.getD none = d.exclude := by
  obtain ⟨id, name, args, files, exclude⟩ := draft
  obtain ⟨id', name', args', files', exclude'⟩ := d
  cases id <;> simp [schema, Yaml.required, join_eq_getD]

theorem describes_iff {n : Yaml.Node} (hn : n.whole) {d : Definition} :
    layout.Describes n d ↔ n.DescribesDefinition d := by
  refine layout.describes_iff_of_whole rfl hn fun fs => ?_
  simp only [finish_eq_ok_iff, required_iff, defaulted_iff, layout, List.forall_mem_cons,
    List.not_mem_nil, false_implies, implies_true, and_true]
  constructor
  · rintro ⟨⟨id, name, args, files, exclude⟩, ⟨hid, hname, hargs, hfiles, hexclude⟩, rfl, h₁, h₂,
      h₃, h₄⟩
    exact ⟨hid, ⟨_, hname, h₁⟩, ⟨_, hargs, h₂⟩, ⟨_, hfiles, h₃⟩, ⟨_, hexclude, h₄⟩⟩
  · rintro ⟨hid, ⟨name, hname, h₁⟩, ⟨args, hargs, h₂⟩, ⟨files, hfiles, h₃⟩, exclude, hexclude, h₄⟩
    exact ⟨⟨some d.id, name, args, files, exclude⟩, ⟨hid, hname, hargs, hfiles, hexclude⟩, rfl,
      h₁, h₂, h₃, h₄⟩

variable {text other : String} {ds : List Definition}

/-- **A manifest is read** as the definitions that its items describe, in their order. -/
theorem parseAll_eq_ok_iff (h : (Document.ofString text).Plain) :
    parseAll text = .ok ds ↔ (Document.ofString text).root.Lists DescribesDefinition ds := by
  have hreads : ReadsAs (items read) (Lists layout.Describes) := layout.readsAs_record.items
  have hitem : ∀ ns, (Document.ofString text).root.items? = some ns → ∀ n ∈ ns, ∀ d,
      layout.Describes n d ↔ n.DescribesDefinition d := fun ns hns n hn d =>
    describes_iff (whole_of_mem_items (Document.whole_root h.wellFormed) hns hn)
  unfold parseAll
  rw [h.read_eq_ok_iff hreads]
  refine exists_congr fun ns => and_congr_right fun hns => ?_
  -- only the items of this sequence are known to be whole, so no congruence for all nodes applies
  rw [List.forall₂_iff_zip, List.forall₂_iff_zip]
  exact and_congr_right fun _ =>
    ⟨fun hz n d hmem => (hitem ns hns n (List.of_mem_zip hmem).1 d).1 (hz hmem),
      fun hz n d hmem => (hitem ns hns n (List.of_mem_zip hmem).1 d).2 (hz hmem)⟩

theorem parseAll_of_agree (h : (Document.ofString text).Plain)
    (hother : (Document.ofString other).Plain)
    (hsame : ManifestsAgree (Document.ofString text).root (Document.ofString other).root)
    (hread : parseAll text = .ok ds) : parseAll other = .ok ds := by
  obtain ⟨ns, ns', hns, hns', hagree⟩ := hsame
  obtain ⟨items, hitems, hds⟩ := (parseAll_eq_ok_iff h).1 hread
  obtain rfl : ns = items := Option.some.inj (hns.symm.trans hitems)
  refine (parseAll_eq_ok_iff hother).2 ⟨ns', hns', ?_⟩
  clear hns hns' hitems hread
  induction hagree generalizing ds with
  | nil => exact hds
  | cons hn _ ih =>
    obtain ⟨d, rest, hd, hrest, rfl⟩ := List.forall₂_cons_left_iff.1 hds
    exact .cons (hn.describesDefinition hd) (ih hrest)

/-- **Manifests that agree on the known keys are read alike**, or refused both. -/
theorem parseAll_congr (h : (Document.ofString text).Plain)
    (hother : (Document.ofString other).Plain)
    (hsame : ManifestsAgree (Document.ofString text).root (Document.ofString other).root) :
    parseAll other = .ok ds ↔ parseAll text = .ok ds :=
  ⟨parseAll_of_agree hother h hsame.symm, parseAll_of_agree h hother hsame⟩

end Definition

/-! ### Stores -/

namespace Manifests

theorem insert_eq_ok_iff {ms ms' : Manifests} {l r text : String} :
    ms.insert l r text = .ok ms' ↔
      ∃ ds, Definition.parseAll text = .ok ds ∧ ms' = ms.put l r ds := by
  unfold insert
  cases Definition.parseAll text <;> simp [eq_comm]

end Manifests

namespace Attempt

variable {l r text other : String}

theorem run_text (l r text : String) (ms : Manifests) :
    (Attempt.text l r text).run ms = match Definition.parseAll text with
      | .ok ds => (.ok (), ms.put l r ds)
      | .error e => (.error (.invalid l r e), ms) := by
  refine (run_ofText l r text ms).trans ?_
  cases Definition.parseAll text <;> rfl

/-- Texts that are read alike leave a store alike. -/
theorem run_text_congr (h : ∀ ds, Definition.parseAll other = .ok ds ↔
      Definition.parseAll text = .ok ds) (ms : Manifests) :
    ((Attempt.text l r other).run ms).2 = ((Attempt.text l r text).run ms).2 := by
  rw [run_text, run_text]
  cases ht : Definition.parseAll text with
  | ok ds => rw [(h ds).2 ht]
  | error e =>
    cases ho : Definition.parseAll other with
    | ok ds =>
      rw [(h ds).1 ho] at ht
      cases ht
    | error e' => rfl

end Attempt

theorem Manifests.afterAll_congr {as bs : List Attempt} {a b : Attempt}
    (h : ∀ ms, (b.run ms).2 = (a.run ms).2) :
    Manifests.afterAll (as ++ b :: bs) = Manifests.afterAll (as ++ a :: bs) := by
  unfold afterAll
  rw [List.foldl_append, List.foldl_append, List.foldl_cons, List.foldl_cons, h]

/-- **A store reads manifests by their known keys.** A manifest is put in iff it is a sequence in
which each item is a mapping that has an id, has each known key at most once, and gives it a text,
or null if it is not the id, or a sequence of texts for the arguments. The definitions are those that
the items describe, in their order. Another manifest that agrees with it on the known keys, whatever
other keys there are in the two and in whatever order keys stand, is put in as well or refused as
well, and whatever is done before and after, the store is the same in the end. -/
theorem Manifests.insert_by_known_keys {text : String} (h : (Document.ofString text).Plain) :
    (∀ ms ms' l r, Manifests.insert ms l r text = .ok ms' ↔
      ∃ ds, (Document.ofString text).root.Lists DescribesDefinition ds ∧ ms' = ms.put l r ds) ∧
    ∀ other, (Document.ofString other).Plain →
      ManifestsAgree (Document.ofString text).root (Document.ofString other).root →
        (∀ ms ms' l r, Manifests.insert ms l r other = .ok ms' ↔
          Manifests.insert ms l r text = .ok ms') ∧
        ∀ before after l r, Manifests.afterAll (before ++ .text l r other :: after) =
          Manifests.afterAll (before ++ .text l r text :: after) := by
  refine ⟨fun ms ms' l r => ?_, fun other hother hsame => ?_⟩
  · simp only [insert_eq_ok_iff, Definition.parseAll_eq_ok_iff h]
  · have hread : ∀ ds, Definition.parseAll other = .ok ds ↔ Definition.parseAll text = .ok ds :=
      fun ds => Definition.parseAll_congr h hother hsame
    refine ⟨fun ms ms' l r => ?_, fun before after l r => ?_⟩
    · simp only [insert_eq_ok_iff, hread]
    · exact afterAll_congr (Attempt.run_text_congr hread)

/-- A key that is not known comes twice, with a sequence and with a text. Without it, and with the
other two keys in another order, the manifest is the same. -/
theorem Manifests.insert_by_known_keys_repeated :
    ∃ text other : String, (Document.ofString text).Plain ∧ (Document.ofString other).Plain ∧
      ManifestsAgree (Document.ofString text).root (Document.ofString other).root ∧
      (Document.ofString text).root.Lists DescribesDefinition [{ id := "a", files := some "f" }] ∧
      Manifests.insert {} "l" "r" other =
        .ok (Manifests.put {} "l" "r" [{ id := "a", files := some "f" }]) := by
  have htext : Document.ofString "- \x7bx: [b], id: a, x: c, files: f\x7d" =
      ⟨.sequence ⟨0, 0, 0⟩ [.mapping ⟨2, 0, 2⟩ [
        (.scalar ⟨3, 0, 3⟩ ⟨none, "x", .plain⟩,
          .sequence ⟨6, 0, 6⟩ [.scalar ⟨7, 0, 7⟩ ⟨none, "b", .plain⟩]),
        (.scalar ⟨11, 0, 11⟩ ⟨none, "id", .plain⟩, .scalar ⟨15, 0, 15⟩ ⟨none, "a", .plain⟩),
        (.scalar ⟨18, 0, 18⟩ ⟨none, "x", .plain⟩, .scalar ⟨21, 0, 21⟩ ⟨none, "c", .plain⟩),
        (.scalar ⟨24, 0, 24⟩ ⟨none, "files", .plain⟩, .scalar ⟨31, 0, 31⟩ ⟨none, "f", .plain⟩)]],
        [], none, 14, false⟩ := by with_unfolding_all rfl
  have hother : Document.ofString "- \x7bfiles: f, id: a\x7d" =
      ⟨.sequence ⟨0, 0, 0⟩ [.mapping ⟨2, 0, 2⟩ [
        (.scalar ⟨3, 0, 3⟩ ⟨none, "files", .plain⟩, .scalar ⟨10, 0, 10⟩ ⟨none, "f", .plain⟩),
        (.scalar ⟨13, 0, 13⟩ ⟨none, "id", .plain⟩, .scalar ⟨17, 0, 17⟩ ⟨none, "a", .plain⟩)]],
        [], none, 8, false⟩ := by with_unfolding_all rfl
  have hplain : (Document.ofString "- \x7bx: [b], id: a, x: c, files: f\x7d").Plain := by
    rw [htext]
    exact ⟨rfl, rfl, rfl⟩
  have hplain' : (Document.ofString "- \x7bfiles: f, id: a\x7d").Plain := by
    rw [hother]
    exact ⟨rfl, rfl, rfl⟩
  have hagree : ManifestsAgree
      (Document.ofString "- \x7bx: [b], id: a, x: c, files: f\x7d").root
      (Document.ofString "- \x7bfiles: f, id: a\x7d").root := by
    rw [htext, hother]
    refine ⟨_, _, rfl, rfl, .cons ⟨_, _, _, rfl, rfl, ?_, List.Perm.swap _ _ []⟩ .nil⟩
    exact .cons ⟨rfl, .scalar _⟩ (.cons ⟨rfl, .scalar _⟩ .nil)
  have hinsert : Manifests.insert {} "l" "r" "- \x7bx: [b], id: a, x: c, files: f\x7d" =
      .ok (Manifests.put {} "l" "r" [{ id := "a", files := some "f" }]) := by
    unfold Manifests.insert Definition.parseAll
    rw [htext]
    rfl
  obtain ⟨hfirst, hsecond⟩ := Manifests.insert_by_known_keys hplain
  obtain ⟨ds, hds, hput⟩ := (hfirst _ _ _ _).1 hinsert
  refine ⟨_, _, hplain, hplain', hagree, ?_,
    ((hsecond _ hplain' hagree).1 _ _ _ _).2 hinsert⟩
  obtain rfl : [{ id := "a", files := some "f" }] = ds := by
    simpa [Manifests.put] using hput
  exact hds

end HookPlan
