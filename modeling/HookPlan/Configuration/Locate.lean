import HookPlan.Configuration.Read
import HookPlan.Git.Repository

/-!
# Configurations in files

A configuration is at the root of a working tree, unless its path is given.

* `Configuration.load`: the configuration in the file at a path.
* `Configuration.discover`: the path of the configuration of a working tree.
-/

namespace HookPlan

open Files (Access)

variable {m : Type → Type} [Monad m]

namespace Configuration

/-- The configuration in the file at a path. -/
def load (files : Access m) (path : String) : m (Except Error Configuration) := do
  match ← files.readText path with
  | .ok text => return parse text
  | .error cause => return .error (.documentRead path cause)

/-- The root of the working tree that a path is in. -/
def root (files : Access m) (home start : String) : m (Except Error String) := do
  match ← (Git.Repository.rootOf files home start).run with
  | .ok root => return .ok root
  | .error cause => return .error (.repositoryRoot cause)

/-- The path of the configuration of the working tree that a path is in. -/
def discover (files : Access m) (home start : String) : m (Except Error String) := do
  match ← root files home start with
  | .error e => return .error e
  | .ok root =>
    let path := Files.Path.join root configurationName
    if ← files.occupied path then return .ok path else return .error (.documentNotFound path)

end Configuration

end HookPlan
