import HookPlan.Proofs.Resolution

/-!
# Defaults and declarations

What an invocation declares is taken as it is, so of the answers of a catalog only the defaults
for open fields matter, and the reasons for which there is none.

* `Invocation.SuppliedAlike`: answers with the same defaults for the fields left open.
* `Invocation.step_congr`: these make the same step.
* `resolve_of_answeredAlike`: catalogs with such answers make the same plan or fail alike.
-/

namespace HookPlan

variable {cat cat₁ cat₂ : Catalog} {c : Configuration} {h : Invocation}

namespace Invocation

/-- Two answers supply the same default for each field that an invocation leaves open. An answer
without a definition supplies no name, no patterns and no arguments. -/
structure SuppliedAlike (h : Invocation) (d₁ d₂ : Option Definition) : Prop where
  name : h.name = none → d₁.bind (·.name) = d₂.bind (·.name)
  args : h.args = none → (d₁.map (·.args)).getD [] = (d₂.map (·.args)).getD []
  files : h.files = none → d₁.bind (·.files) = d₂.bind (·.files)
  exclude : h.exclude = none → d₁.bind (·.exclude) = d₂.bind (·.exclude)

/-- Two outcomes of a lookup that are alike for an invocation: failures for the same reason, or
answers that supply the same. -/
inductive AnsweredAlike (h : Invocation) :
    Except String (Option Definition) → Except String (Option Definition) → Prop where
  | unknown (reason : String) : h.AnsweredAlike (.error reason) (.error reason)
  | known {d₁ d₂ : Option Definition} (hd : h.SuppliedAlike d₁ d₂) :
    h.AnsweredAlike (.ok d₁) (.ok d₂)

/-- **A step depends on its defaults only where nothing is declared.** -/
theorem step_congr {d₁ d₂ : Option Definition} (hd : h.SuppliedAlike d₁ d₂) (s : Source)
    (i j : ℕ) : h.step s i j d₁ = h.step s i j d₂ := by
  have hname : (h.name <|> d₁.bind (·.name)) = (h.name <|> d₂.bind (·.name)) := by
    cases hn : h.name with
    | some name => rfl
    | none => rw [hd.name hn]
  have hargs : (h.args <|> d₁.map (·.args)).getD [] = (h.args <|> d₂.map (·.args)).getD [] := by
    cases ha : h.args with
    | some args => rfl
    | none => exact hd.args ha
  have hfiles : (h.files <|> d₁.bind (·.files)) = (h.files <|> d₂.bind (·.files)) := by
    cases hf : h.files with
    | some files => rfl
    | none => rw [hd.files hf]
  have hexclude : (h.exclude <|> d₁.bind (·.exclude)) = (h.exclude <|> d₂.bind (·.exclude)) := by
    cases he : h.exclude with
    | some exclude => rfl
    | none => rw [hd.exclude he]
  rw [step, step, hname, hargs, hfiles, hexclude]

end Invocation

namespace Configuration

theorem stepAt_congr {x : Cell Source Invocation}
    (hx : x.inner.AnsweredAlike (cat₁ x.outer.location x.outer.revision x.inner.id)
      (cat₂ x.outer.location x.outer.revision x.inner.id)) : stepAt cat₁ x = stepAt cat₂ x := by
  unfold stepAt Source.resolveHook
  generalize cat₁ x.outer.location x.outer.revision x.inner.id = answer₁ at hx ⊢
  generalize cat₂ x.outer.location x.outer.revision x.inner.id = answer₂ at hx ⊢
  cases hx with
  | unknown reason => rfl
  | known hd => exact congrArg Except.ok (Invocation.step_congr hd _ _ _)

/-- Catalogs that answer alike make the same plan, or fail with the same error. -/
theorem resolve_congr
    (h : ∀ i j s h, c.Invokes i j s h →
      h.AnsweredAlike (cat₁ s.location s.revision h.id) (cat₂ s.location s.revision h.id)) :
    c.resolve cat₁ = c.resolve cat₂ := by
  have hwalk : c.places.mapM (stepAt cat₁) = c.places.mapM (stepAt cat₂) :=
    mapM_congr fun x hx => stepAt_congr (h _ _ _ _ (mem_places.1 hx))
  rw [resolve_eq, resolve_eq, hwalk]

end Configuration

/-- **Defaults never touch what is declared.** Two catalogs that fail for the same reasons, and
supply the same for what each invocation leaves open, make the same plan or the same error. So a
catalog that knows every hook, and supplies nothing for what is left open, is as good as none. -/
theorem resolve_of_answeredAlike (c : Configuration) (cat₁ cat₂ cat : Catalog) :
    ((∀ i j s h, c.Invokes i j s h →
        h.AnsweredAlike (cat₁ s.location s.revision h.id) (cat₂ s.location s.revision h.id)) →
      c.resolve cat₁ = c.resolve cat₂) ∧
    ((∀ i j s h, c.Invokes i j s h →
        ∃ d, cat s.location s.revision h.id = .ok d ∧ h.SuppliedAlike none d) →
      c.resolve .declaredOnly = c.resolve cat) := by
  refine ⟨Configuration.resolve_congr, fun hknown => Configuration.resolve_congr ?_⟩
  intro i j s h hi
  obtain ⟨d, hd, hnothing⟩ := hknown i j s h hi
  rw [hd]
  exact .known hnothing

/-- Two catalogs that differ in the arguments, which every invocation declares, and in the files
of one hook, for which its invocation declares a pattern. -/
theorem resolve_of_answeredAlike_declared :
    ∃ (cat₁ cat₂ : Catalog) (c : Configuration) (p : Plan),
      cat₁ "a" "1" "x" = .ok (some { id := "x", name := some "X", args := ["-v"] }) ∧
      cat₂ "a" "1" "x" =
        .ok (some { id := "x", name := some "X", args := ["-q"], files := some "z" }) ∧
      c.sources =
        [⟨"a", "1", [{ id := "x", args := some [], files := some "" }]⟩,
          ⟨"b", "2", [{ id := "y", args := some ["-v"] }]⟩] ∧
      c.resolve cat₁ = .ok p ∧ c.resolve cat₂ = .ok p := by
  let cat₁ : Catalog := fun _ _ id => .ok (some { id, name := some "X", args := ["-v"] })
  let cat₂ : Catalog := fun _ _ id =>
    .ok (some { id, name := some "X", args := ["-q"],
                files := if id = "x" then some "z" else none })
  let c : Configuration := { sources :=
    [⟨"a", "1", [{ id := "x", args := some [], files := some "" }]⟩,
      ⟨"b", "2", [{ id := "y", args := some ["-v"] }]⟩] }
  have heq : c.resolve cat₁ = c.resolve cat₂ := by
    refine (resolve_of_answeredAlike c cat₁ cat₂ .declaredOnly).1 fun i j s h hi => .known ?_
    have hs := List.mem_of_getElem? hi.1
    have hh := List.mem_of_getElem? hi.2
    simp only [c, List.mem_cons, List.not_mem_nil, or_false] at hs
    rcases hs with rfl | rfl <;> rw [List.mem_singleton] at hh <;> subst hh <;>
      exact ⟨fun _ => rfl, nofun, by decide, fun _ => rfl⟩
  exact ⟨cat₁, cat₂, c, _, rfl, rfl, rfl, rfl, heq ▸ rfl⟩

end HookPlan
