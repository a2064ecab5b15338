import HookPlan.Error

/-!
# Reading configurations

The schema is strict at every level: unknown and repeated keys are refused, and so are
values of another type than the key's. A configuration that has been read is also valid.

* `Configuration.schema`, `Source.schema`, `Invocation.schema`: the three kinds of record.
* `Configuration.parse`: the configuration that a text describes.
-/

namespace HookPlan

open Yaml (Node Path Reader)
open Yaml.Node (Field Schema)

/-- A key of a draft that has been read or not. -/
def Yaml.Node.Field.ofSlot {σ β : Type} (name : String) (read : Path → Node → Reader β)
    (get : σ → Option β) (set : σ → β → σ) : Field σ where
  name
  present := fun d => (get d).isSome
  read := fun p n d => do return set d (← read p n)

/-- A value that a record must have. -/
def Yaml.required {β : Type} (name : String) : Option β → Except Mismatch β
  | some b => .ok b
  | none => .error (.missingField name)

/-- An invocation of which some keys have been read. Keys whose value may be null have two
layers: the inner one is the value. -/
structure InvocationDraft where
  id : Option String := none
  name : Option (Option String) := none
  args : Option (Option (List String)) := none
  files : Option (Option String) := none
  exclude : Option (Option String) := none

def Invocation.schema : Schema InvocationDraft Invocation where
  name := "HookInvocation"
  strict := true
  empty := {}
  fields := [
    .ofSlot "id" Node.string (·.id) fun d v => { d with id := some v },
    .ofSlot "name" (Node.optional Node.string) (·.name) fun d v => { d with name := some v },
    .ofSlot "args" (Node.optional (Node.items Node.string)) (·.args)
      fun d v => { d with args := some v },
    .ofSlot "files" (Node.optional Node.string) (·.files) fun d v => { d with files := some v },
    .ofSlot "exclude" (Node.optional Node.string) (·.exclude)
      fun d v => { d with exclude := some v }]
  finish := fun d => do
    let id ← Yaml.required "id" d.id
    return ⟨id, d.name.join, d.args.join, d.files.join, d.exclude.join⟩

def Invocation.read (p : Path) (n : Node) : Reader Invocation := n.record Invocation.schema p

structure SourceDraft where
  location : Option String := none
  revision : Option String := none
  hooks : Option (List Invocation) := none

def Source.schema : Schema SourceDraft Source where
  name := "RepositorySource"
  strict := true
  empty := {}
  fields := [
    .ofSlot "repo" Node.string (·.location) fun d v => { d with location := some v },
    .ofSlot "rev" Node.string (·.revision) fun d v => { d with revision := some v },
    .ofSlot "hooks" (Node.items Invocation.read) (·.hooks) fun d v => { d with hooks := some v }]
  finish := fun d => do
    let location ← Yaml.required "repo" d.location
    let revision ← Yaml.required "rev" d.revision
    let hooks ← Yaml.required "hooks" d.hooks
    return ⟨location, revision, hooks⟩

def Source.read (p : Path) (n : Node) : Reader Source := n.record Source.schema p

structure ConfigurationDraft where
  exclude : Option (Option String) := none
  failFast : Option Bool := none
  sources : Option (List Source) := none

def Configuration.schema : Schema ConfigurationDraft Configuration where
  name := "Document"
  strict := true
  empty := {}
  fields := [
    .ofSlot "exclude" (Node.optional Node.string) (·.exclude)
      fun d v => { d with exclude := some v },
    .ofSlot "fail_fast" Node.boolean (·.failFast) fun d v => { d with failFast := some v },
    .ofSlot "repos" (Node.items Source.read) (·.sources) fun d v => { d with sources := some v }]
  finish := fun d => do
    let sources ← Yaml.required "repos" d.sources
    return ⟨d.exclude.join, d.failFast.getD false, sources⟩

def Configuration.read (p : Path) (n : Node) : Reader Configuration :=
  n.record Configuration.schema p

/-- The entry for an error of reading: its line and column, counted from one. -/
def Yaml.ReadError.entry (e : Yaml.ReadError) : EntryRef :=
  match e.mark? with
  | some m => .position (m.line + 1) (m.column + 1)
  | none => {}

/-- The configuration that a text describes. -/
def Configuration.parse (text : String) : Except Error Configuration :=
  match (Yaml.Document.ofString text).read Configuration.read with
  | .error e => .error (.malformed e.entry (.unreadable e))
  | .ok c => do
    c.validate
    return c

end HookPlan
