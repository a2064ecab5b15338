import HookPlan.Proofs.Yaml.Reordered

/-!
# The schema of configurations

A text is read as a configuration exactly if its root describes one: the required keys are
there, no key is unknown or repeated at any level, and each value is of the kind that its key
wants. The order of sources, hooks and arguments is that of the text, and the order of keys
does not matter.

* `Node.DescribesInvocation`, `Node.DescribesSource`, `Node.DescribesConfiguration`: the schema.
* `Invocation.readsAs`, `Source.readsAs`, `Configuration.readsAs`: its readers accept just that.
* `Configuration.read_iff_describes`: reading whole texts.
-/

namespace HookPlan

open Yaml (Document)
open Yaml.Node

namespace Yaml.Node

/-- An invocation must have an id. Everything else may be left out or null. -/
def DescribesInvocation (n : Node) (h : Invocation) : Prop :=
  ∃ fs, n.HasFields ["id", "name", "args", "files", "exclude"] fs ∧
    Required IsText (fs.lookup "id") h.id ∧
    Defaulted (Optionally IsText) none (fs.lookup "name") h.name ∧
    Defaulted (Optionally (Lists IsText)) none (fs.lookup "args") h.args ∧
    Defaulted (Optionally IsText) none (fs.lookup "files") h.files ∧
    Defaulted (Optionally IsText) none (fs.lookup "exclude") h.exclude

/-- A source has just the three keys that it must have. -/
def DescribesSource (n : Node) (s : Source) : Prop :=
  ∃ fs, n.HasFields ["repo", "rev", "hooks"] fs ∧
    Required IsText (fs.lookup "repo") s.location ∧
    Required IsText (fs.lookup "rev") s.revision ∧
    Required (Lists DescribesInvocation) (fs.lookup "hooks") s.hooks

/-- A configuration must have sources. It stops at failures only if it says so. -/
def DescribesConfiguration (n : Node) (c : Configuration) : Prop :=
  ∃ fs, n.HasFields ["exclude", "fail_fast", "repos"] fs ∧
    Defaulted (Optionally IsText) none (fs.lookup "exclude") c.exclude ∧
    Defaulted IsTruth false (fs.lookup "fail_fast") c.failFast ∧
    Required (Lists DescribesSource) (fs.lookup "repos") c.sources

/-! ### The order of keys -/

theorem stable_isText : Stable IsText := fun _ _ h _ ht => h.text?_eq.trans ht

theorem stable_isTruth : Stable IsTruth := fun _ _ h _ hb => h.truth?_eq.trans hb

theorem stable_describesInvocation : Stable DescribesInvocation := by
  rintro n n' h i ⟨fs, hfs, hid, hname, hargs, hfiles, hexclude⟩
  obtain ⟨fs', hfs', hsame⟩ := h.hasFields hfs
  exact ⟨fs', hfs', stable_isText.required (hsame _) hid,
    stable_isText.optionally.defaulted (hsame _) hname,
    stable_isText.lists.optionally.defaulted (hsame _) hargs,
    stable_isText.optionally.defaulted (hsame _) hfiles,
    stable_isText.optionally.defaulted (hsame _) hexclude⟩

theorem stable_describesSource : Stable DescribesSource := by
  rintro n n' h s ⟨fs, hfs, hlocation, hrevision, hhooks⟩
  obtain ⟨fs', hfs', hsame⟩ := h.hasFields hfs
  exact ⟨fs', hfs', stable_isText.required (hsame _) hlocation,
    stable_isText.required (hsame _) hrevision,
    stable_describesInvocation.lists.required (hsame _) hhooks⟩

theorem stable_describesConfiguration : Stable DescribesConfiguration := by
  rintro n n' h c ⟨fs, hfs, hexclude, hfailFast, hsources⟩
  obtain ⟨fs', hfs', hsame⟩ := h.hasFields hfs
  exact ⟨fs', hfs', stable_isText.optionally.defaulted (hsame _) hexclude,
    stable_isTruth.defaulted (hsame _) hfailFast,
    stable_describesSource.lists.required (hsame _) hsources⟩

end Yaml.Node

/-! ### The readers -/

theorem join_eq_getD {β : Type} (o : Option (Option β)) : o.join = o.getD none := by
  cases o <;> rfl

namespace Invocation

/-- The slots of an invocation's draft. -/
def layout : Layout schema where
  slots := [
    { name := "id", get := (·.id), set := fun d v => { d with id := some v },
      reads := readsAs_string, get_set := fun _ _ => rfl },
    { name := "name", get := (·.name), set := fun d v => { d with name := some v },
      reads := readsAs_string.optional, get_set := fun _ _ => rfl },
    { name := "args", get := (·.args), set := fun d v => { d with args := some v },
      reads := readsAs_string.items.optional, get_set := fun _ _ => rfl },
    { name := "files", get := (·.files), set := fun d v => { d with files := some v },
      reads := readsAs_string.optional, get_set := fun _ _ => rfl },
    { name := "exclude", get := (·.exclude), set := fun d v => { d with exclude := some v },
      reads := readsAs_string.optional, get_set := fun _ _ => rfl }]
  fields := rfl
  distinct := by decide
  apart := by simp
  ext := by
    rintro ⟨⟩ ⟨⟩ h
    simpa using h
  vacant := by simp [schema]

theorem finish_eq_ok_iff {d : InvocationDraft} {h : Invocation} :
    schema.finish d = .ok h ↔ d.id = some h.id ∧ d.name.getD none = h.name ∧
      d.args.getD none = h.args ∧ d.files.getD none = h.files ∧
        d.exclude.getD none = h.exclude := by
  obtain ⟨id, name, args, files, exclude⟩ := d
  obtain ⟨id', name', args', files', exclude'⟩ := h
  cases id <;> simp [schema, Yaml.required, join_eq_getD]

theorem describes_iff {n : Yaml.Node} {h : Invocation} :
    layout.Describes n h ↔ n.DescribesInvocation h := by
  refine layout.describes_iff_hasFields rfl fun fs => ?_
  simp only [finish_eq_ok_iff, required_iff, defaulted_iff, layout, List.forall_mem_cons,
    List.not_mem_nil, false_implies, implies_true, and_true]
  constructor
  · rintro ⟨⟨id, name, args, files, exclude⟩, ⟨hid, hname, hargs, hfiles, hexclude⟩, rfl, h₁, h₂,
      h₃, h₄⟩
    exact ⟨hid, ⟨_, hname, h₁⟩, ⟨_, hargs, h₂⟩, ⟨_, hfiles, h₃⟩, ⟨_, hexclude, h₄⟩⟩
  · rintro ⟨hid, ⟨name, hname, h₁⟩, ⟨args, hargs, h₂⟩, ⟨files, hfiles, h₃⟩, exclude, hexclude, h₄⟩
    exact ⟨⟨some h.id, name, args, files, exclude⟩, ⟨hid, hname, hargs, hfiles, hexclude⟩, rfl,
      h₁, h₂, h₃, h₄⟩

theorem readsAs : ReadsAs Invocation.read DescribesInvocation := fun p n hn =>
  (layout.readsAs_record p n hn).congr fun _ => describes_iff

end Invocation

namespace Source

/-- The slots of a source's draft. -/
def layout : Layout schema where
  slots := [
    { name := "repo", get := (·.location), set := fun d v => { d with location := some v },
      reads := readsAs_string, get_set := fun _ _ => rfl },
    { name := "rev", get := (·.revision), set := fun d v => { d with revision := some v },
      reads := readsAs_string, get_set := fun _ _ => rfl },
    { name := "hooks", get := (·.hooks), set := fun d v => { d with hooks := some v },
      reads := Invocation.readsAs.items, get_set := fun _ _ => rfl }]
  fields := rfl
  distinct := by decide
  apart := by simp
  ext := by
    rintro ⟨⟩ ⟨⟩ h
    simpa using h
  vacant := by simp [schema]

theorem finish_eq_ok_iff {d : SourceDraft} {s : Source} :
    schema.finish d = .ok s ↔
      d.location = some s.location ∧ d.revision = some s.revision ∧ d.hooks = some s.hooks := by
  obtain ⟨location, revision, hooks⟩ := d
  obtain ⟨location', revision', hooks'⟩ := s
  cases location <;> cases revision <;> cases hooks <;>
    simp [schema, Yaml.required, bind, Except.bind, pure, Except.pure]

theorem describes_iff {n : Yaml.Node} {s : Source} :
    layout.Describes n s ↔ n.DescribesSource s := by
  refine layout.describes_iff_hasFields rfl fun fs => ?_
  simp only [finish_eq_ok_iff, required_iff, layout, List.forall_mem_cons, List.not_mem_nil,
    false_implies, implies_true, and_true]
  constructor
  · rintro ⟨⟨location, revision, hooks⟩, hslots, rfl, rfl, rfl⟩
    exact hslots
  · exact fun hslots => ⟨⟨some s.location, some s.revision, some s.hooks⟩, hslots, rfl, rfl, rfl⟩

theorem readsAs : ReadsAs Source.read DescribesSource := fun p n hn =>
  (layout.readsAs_record p n hn).congr fun _ => describes_iff

end Source

namespace Configuration

/-- The slots of a configuration's draft. -/
def layout : Layout schema where
  slots := [
    { name := "exclude", get := (·.exclude), set := fun d v => { d with exclude := some v },
      reads := readsAs_string.optional, get_set := fun _ _ => rfl },
    { name := "fail_fast", get := (·.failFast), set := fun d v => { d with failFast := some v },
      reads := readsAs_boolean, get_set := fun _ _ => rfl },
    { name := "repos", get := (·.sources), set := fun d v => { d with sources := some v },
      reads := Source.readsAs.items, get_set := fun _ _ => rfl }]
  fields := rfl
  distinct := by decide
  apart := by simp
  ext := by
    rintro ⟨⟩ ⟨⟩ h
    simpa using h
  vacant := by simp [schema]

theorem finish_eq_ok_iff {d : ConfigurationDraft} {c : Configuration} :
    schema.finish d = .ok c ↔ d.exclude.getD none = c.exclude ∧
      d.failFast.getD false = c.failFast ∧ d.sources = some c.sources := by
  obtain ⟨exclude, failFast, sources⟩ := d
  obtain ⟨exclude', failFast', sources'⟩ := c
  cases sources <;> simp [schema, Yaml.required, join_eq_getD]

theorem describes_iff {n : Yaml.Node} {c : Configuration} :
    layout.Describes n c ↔ n.DescribesConfiguration c := by
  refine layout.describes_iff_hasFields rfl fun fs => ?_
  simp only [finish_eq_ok_iff, required_iff, defaulted_iff, layout, List.forall_mem_cons,
    List.not_mem_nil, false_implies, implies_true, and_true]
  constructor
  · rintro ⟨⟨exclude, failFast, sources⟩, ⟨hexclude, hfailFast, hsources⟩, h₁, h₂, rfl⟩
    exact ⟨⟨_, hexclude, h₁⟩, ⟨_, hfailFast, h₂⟩, hsources⟩
  · rintro ⟨⟨exclude, hexclude, h₁⟩, ⟨failFast, hfailFast, h₂⟩, hsources⟩
    exact ⟨⟨exclude, failFast, some c.sources⟩, ⟨hexclude, hfailFast, hsources⟩, h₁, h₂, rfl⟩

theorem readsAs : ReadsAs Configuration.read DescribesConfiguration := fun p n hn =>
  (layout.readsAs_record p n hn).congr fun _ => describes_iff

end Configuration

/-! ### Whole texts -/

/-- **The schema is accepted exactly.** A text with one document and no references is read as the
configuration that its root describes, and only if there is one. Another text whose nodes are the
same up to the order of keys is read as the same configuration. -/
theorem Configuration.read_iff_describes {text : String} (h : (Document.ofString text).Plain) :
    (∀ c, (Document.ofString text).read Configuration.read = .ok c ↔
      (Document.ofString text).root.DescribesConfiguration c) ∧
    ∀ other, (Document.ofString other).Plain →
      (Document.ofString text).root.Reordered (Document.ofString other).root → ∀ c,
        (Document.ofString text).read Configuration.read = .ok c →
          (Document.ofString other).read Configuration.read = .ok c := by
  refine ⟨fun c => h.read_eq_ok_iff readsAs, fun other hother hsame c hc => ?_⟩
  rw [h.read_eq_ok_iff readsAs] at hc
  rw [hother.read_eq_ok_iff readsAs]
  exact stable_describesConfiguration hsame hc

/-- The keys of a source in two orders. -/
theorem Configuration.read_iff_describes_turned :
    (Document.ofString
      "repos: [\x7brepo: l, rev: r, hooks: [id: a]\x7d]").root.DescribesConfiguration
        ⟨none, false, [⟨"l", "r", [⟨"a", none, none, none, none⟩]⟩]⟩ ∧
      (Document.ofString "repos: [\x7bhooks: [id: a], rev: r, repo: l\x7d]").read
        Configuration.read = .ok ⟨none, false, [⟨"l", "r", [⟨"a", none, none, none, none⟩]⟩]⟩ := by
  have hfirst : Document.ofString "repos: [\x7brepo: l, rev: r, hooks: [id: a]\x7d]" =
      ⟨.mapping ⟨0, 0, 0⟩ [(.scalar ⟨0, 0, 0⟩ ⟨none, "repos", .plain⟩,
        .sequence ⟨7, 0, 7⟩ [.mapping ⟨8, 0, 8⟩ [
          (.scalar ⟨9, 0, 9⟩ ⟨none, "repo", .plain⟩, .scalar ⟨15, 0, 15⟩ ⟨none, "l", .plain⟩),
          (.scalar ⟨18, 0, 18⟩ ⟨none, "rev", .plain⟩, .scalar ⟨23, 0, 23⟩ ⟨none, "r", .plain⟩),
          (.scalar ⟨26, 0, 26⟩ ⟨none, "hooks", .plain⟩,
            .sequence ⟨33, 0, 33⟩ [.mapping ⟨34, 0, 34⟩ [(.scalar ⟨34, 0, 34⟩ ⟨none, "id", .plain⟩,
              .scalar ⟨38, 0, 38⟩ ⟨none, "a", .plain⟩)]])]])],
        [], none, 18, false⟩ := by with_unfolding_all rfl
  have hturned : Document.ofString "repos: [\x7bhooks: [id: a], rev: r, repo: l\x7d]" =
      ⟨.mapping ⟨0, 0, 0⟩ [(.scalar ⟨0, 0, 0⟩ ⟨none, "repos", .plain⟩,
        .sequence ⟨7, 0, 7⟩ [.mapping ⟨8, 0, 8⟩ [
          (.scalar ⟨9, 0, 9⟩ ⟨none, "hooks", .plain⟩,
            .sequence ⟨16, 0, 16⟩ [.mapping ⟨17, 0, 17⟩ [(.scalar ⟨17, 0, 17⟩ ⟨none, "id", .plain⟩,
              .scalar ⟨21, 0, 21⟩ ⟨none, "a", .plain⟩)]]),
          (.scalar ⟨25, 0, 25⟩ ⟨none, "rev", .plain⟩, .scalar ⟨30, 0, 30⟩ ⟨none, "r", .plain⟩),
          (.scalar ⟨33, 0, 33⟩ ⟨none, "repo", .plain⟩, .scalar ⟨39, 0, 39⟩ ⟨none, "l", .plain⟩)]])],
        [], none, 18, false⟩ := by with_unfolding_all rfl
  have hplain : (Document.ofString "repos: [\x7brepo: l, rev: r, hooks: [id: a]\x7d]").Plain := by
    rw [hfirst]
    exact ⟨rfl, rfl, rfl⟩
  have hread : (Document.ofString "repos: [\x7brepo: l, rev: r, hooks: [id: a]\x7d]").read
      Configuration.read = .ok ⟨none, false, [⟨"l", "r", [⟨"a", none, none, none, none⟩]⟩]⟩ := by
    rw [hfirst]
    rfl
  refine ⟨((Configuration.read_iff_describes hplain).1 _).1 hread,
    (Configuration.read_iff_describes hplain).2 _ ?_ ?_ _ hread⟩
  · rw [hturned]
    exact ⟨rfl, rfl, rfl⟩
  · rw [hfirst, hturned]
    have hhook : ∀ {m m₁ m₂ m' m₁' m₂'} (s t : Yaml.Scalar),
        (Yaml.Node.mapping m [(.scalar m₁ s, .scalar m₂ t)]).Reordered
          (.mapping m' [(.scalar m₁' s, .scalar m₂' t)]) := fun s t =>
      .mapping (.cons (.scalar s) .nil) (.cons (.scalar t) .nil) (.refl _)
    refine .mapping (.cons (.scalar _) .nil) ?_ (.refl _)
    refine .cons (.sequence (.cons (.mapping ?_ ?_ (List.reverse_perm _)) .nil)) .nil
    · exact .cons (.scalar _) (.cons (.scalar _) (.cons (.scalar _) .nil))
    · exact .cons (.scalar _) (.cons (.scalar _) (.cons (.sequence (.cons (hhook _ _) .nil)) .nil))

end HookPlan
