import HookPlan.Catalog
import HookPlan.Files.Access
import HookPlan.Files.Path

/-!
# Filling a store of manifests

A store is filled source by source, from the text of a manifest or from a checkout of the source.
Whatever can fail comes before the store is changed.

* `Manifests.Filling.ofText`, `Manifests.Filling.ofCheckout`: the two ways to fill a store.
-/

namespace HookPlan.Manifests

variable {m : Type → Type} [Monad m]

/-- A computation that changes a store, or fails and says why. -/
abbrev Filling (m : Type → Type) := ExceptT ManifestFault (StateT Manifests m)

namespace Filling

/-- Goes on with the changed store, if the change succeeded. -/
def change (f : Manifests → Except ManifestFault Manifests) : Filling m Unit := do
  match f (← get) with
  | .ok ms => set ms
  | .error e => throw e

/-- Puts in the manifest of a source from its text. -/
def ofText (location revision text : String) : Filling m Unit :=
  change (·.insert location revision text)

/-- Puts in the manifest that stands in a checkout of its source. -/
def ofCheckout (files : Files.Access m) (location revision directory : String) :
    Filling m Unit := do
  let path := Files.Path.join directory manifestName
  let content ← files.readText path
  change (·.load location revision path content)

end Filling

end HookPlan.Manifests
