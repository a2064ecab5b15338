import HookPlan.Git.Repository
import HookPlan.Plan.Format

/-!
# Settings

A setting comes from the environment, from the configuration of the repository or from the
one of the home directory, whichever has it first. The two settings are independent of each
other.

* `Setting.value?`: the value of a setting.
* `Settings.ofLayers`: the settings that three layers make.
* `Settings.load`: the settings that hold in a directory.
-/

namespace HookPlan

/-- What can be set. -/
inductive Setting where
  | configuration
  | format
  deriving Repr, DecidableEq

/-- The variables of the environment. -/
abbrev Environment := String → Option String

/-- The values that one layer has for its names. -/
abbrev Layer := String → Option String

namespace Setting

/-- The name of a setting in the environment. -/
def envName : Setting → String
  | configuration => "HOOKWIRE_CONFIG"
  | format => "HOOKWIRE_FORMAT"

/-- The name of a setting in a configuration of git. -/
def key : Setting → String
  | configuration => "hookwire.config"
  | format => "hookwire.format"

/-- The first value of a setting. One in the environment must not be empty. -/
def value? (s : Setting) (env : Environment) (inner outer : Option Layer) : Option String :=
  ((env s.envName).filter (!·.isEmpty)) <|> inner.bind (· s.key) <|> outer.bind (· s.key)

end Setting

structure Settings where
  /-- The path of the configuration, if it is not to be looked for. -/
  configuration : Option String := none
  format : Plan.Format := .text
  deriving Repr, DecidableEq

namespace Settings

/-- The settings that the environment, a repository and a home directory make. -/
def ofLayers (env : Environment) (inner outer : Option Layer) :
    Except Plan.Format.Unknown Settings := do
  let configuration := Setting.configuration.value? env inner outer
  match Setting.format.value? env inner outer with
  | none => return { configuration }
  | some name => return { configuration, format := ← Plan.Format.parse name }

/-- The layer of some variables; one that could not be read is no layer. -/
def layer (r : Except Git.Fault Git.Variables) : Option Layer :=
  r.toOption.map Git.Config.get?

/-- The settings in the working directory. The layers are those that `Git.Config.loadGlobal` and
`Git.Repository.discover` open, which leave out some files that git would read. -/
def load {m : Type → Type} [Monad m] (files : Files.Access m) (env : Environment) (home : String) :
    m (Except Plan.Format.Unknown Settings) := do
  let outer ← (Git.Config.loadGlobal files home).run
  let inner ← (Git.Repository.discover files home ".").run
  return ofLayers env (layer (inner.map (·.config))) (layer outer)

end Settings

end HookPlan
