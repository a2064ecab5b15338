import HookPlan.Configuration.Read

/-!
# Hook catalogs

A source describes the hooks it provides in a manifest, which gives defaults for what an
invocation leaves undeclared. A `Catalog` answers questions about the hook with some id in
the source at some location and revision: its defaults, nothing if the catalog has no
opinion, or the reason why the source cannot be used.

* `Catalog.declaredOnly`: has no opinion on anything.
* `Manifests`: a store of manifests by location and revision.
* `Manifests.insert`, `Manifests.load`: a failed insertion changes nothing.
* `Manifests.lookup`: the first definition with the id, in the manifest inserted last.
-/

namespace HookPlan

open Yaml (Node Path Reader)
open Yaml.Node (Field Schema)

/-- The defaults that a source declares for one of its hooks. -/
structure Definition where
  id : String
  name : Option String := none
  args : List String := []
  files : Option String := none
  exclude : Option String := none
  deriving Repr, DecidableEq, Inhabited

/-- The defaults of a hook by location, revision and id. A failure is a reason in words. -/
abbrev Catalog := String → String → String → Except String (Option Definition)

/-- Knows nothing, so every invocation is used as declared. -/
def Catalog.declaredOnly : Catalog := fun _ _ _ => .ok none

structure DefinitionDraft where
  id : Option String := none
  name : Option (Option String) := none
  args : Option (List String) := none
  files : Option (Option String) := none
  exclude : Option (Option String) := none

/-- Manifests may say more about a hook than is needed here, so other keys are skipped. -/
def Definition.schema : Schema DefinitionDraft Definition where
  name := "HookDefinition"
  strict := false
  empty := {}
  fields := [
    .ofSlot "id" Node.string (·.id) fun d v => { d with id := some v },
    .ofSlot "name" (Node.optional Node.string) (·.name) fun d v => { d with name := some v },
    .ofSlot "args" (Node.items Node.string) (·.args) fun d v => { d with args := some v },
    .ofSlot "files" (Node.optional Node.string) (·.files) fun d v => { d with files := some v },
    .ofSlot "exclude" (Node.optional Node.string) (·.exclude)
      fun d v => { d with exclude := some v }]
  finish := fun d => do
    let id ← Yaml.required "id" d.id
    return ⟨id, d.name.join, d.args.getD [], d.files.join, d.exclude.join⟩

def Definition.read (p : Path) (n : Node) : Reader Definition := n.record Definition.schema p

/-- The definitions in the text of a manifest. -/
def Definition.parseAll (text : String) : Except Yaml.ReadError (List Definition) :=
  (Yaml.Document.ofString text).read (Node.items Definition.read)

/-- The name of a manifest in a checkout of its source. -/
def manifestName : String := ".pre-commit-hooks.yaml"

/-- Why a manifest was not inserted. -/
inductive ManifestFault where
  | invalid (location revision : String) (cause : Yaml.ReadError)
  | unreadable (path : String) (cause : Files.Fault)
  deriving Repr, DecidableEq

/-- What failed, then its cause. -/
def ManifestFault.text : ManifestFault → String
  | invalid location revision cause =>
    s!"invalid hook manifest for {location}@{revision}: {cause.text}"
  | unreadable path cause => s!"could not read {path}: {cause.text}"

/-- Why a lookup in a store of manifests fails. -/
inductive LookupFault where
  | unknownSource
  | unknownHook (id : String)
  deriving Repr, DecidableEq

def LookupFault.text : LookupFault → String
  | unknownSource => "no manifest is available for this source"
  | unknownHook id => s!"hook '{id}' is not provided by this source"

/-- Manifests by location and revision. No pair of these occurs twice. -/
structure Manifests where
  entries : List ((String × String) × List Definition) := []
  deriving Repr, DecidableEq

namespace Manifests

/-- The store with the manifest of a source, in place of the one it had before. -/
def put (ms : Manifests) (location revision : String) (ds : List Definition) : Manifests :=
  ⟨((location, revision), ds) :: ms.entries.filter (·.1 != (location, revision))⟩

/-- Inserts the manifest of a source from its text. -/
def insert (ms : Manifests) (location revision text : String) : Except ManifestFault Manifests :=
  match Definition.parseAll text with
  | .ok ds => .ok (ms.put location revision ds)
  | .error e => .error (.invalid location revision e)

/-- Inserts the manifest of a source from what reading the file at `path` gave. -/
def load (ms : Manifests) (location revision path : String) (content : Except Files.Fault String) :
    Except ManifestFault Manifests :=
  match content with
  | .ok text => ms.insert location revision text
  | .error e => .error (.unreadable path e)

/-- How many sources have a manifest. -/
def size (ms : Manifests) : Nat := ms.entries.length

def isEmpty (ms : Manifests) : Bool := ms.entries.isEmpty

def find? (ms : Manifests) (location revision : String) : Option (List Definition) :=
  ms.entries.lookup (location, revision)

def lookup (ms : Manifests) (location revision id : String) : Except LookupFault Definition :=
  match ms.find? location revision with
  | none => .error .unknownSource
  | some ds =>
    match ds.find? (·.id == id) with
    | none => .error (.unknownHook id)
    | some d => .ok d

def catalog (ms : Manifests) : Catalog := fun location revision id =>
  match ms.lookup location revision id with
  | .ok d => .ok (some d)
  | .error e => .error e.text

end Manifests

end HookPlan
