import HookPlan.Json.Reader
import HookPlan.Json.Writer
import HookPlan.Plan

/-!
# Plans as JSON

Every part of a plan is written except exclusions that are absent. A plan is read back from
its members in any order, whatever other members there are.

* `Plan.toJson`, `Plan.toText`: a plan as a JSON value and as text.
* `Plan.read`, `Plan.ofText`: a plan from JSON.
-/

namespace HookPlan

open Json (Value Reader Numeral)

/-! ### Writing -/

/-- A member that is left out if it is absent. -/
def Json.optionalMember (name : String) : Option String → List (String × Value)
  | none => []
  | some s => [(name, .string s)]

def FileFilter.toJson : FileFilter → Value
  | all => .object [("kind", .string "all")]
  | pattern p => .object [("kind", .string "pattern"), ("pattern", .string p)]

def Step.toJson (s : Step) : Value := .object <|
  [("source_location", .string s.location), ("revision", .string s.revision),
    ("hook_id", .string s.hookId), ("effective_name", .string s.name),
    ("effective_args", .list (s.args.map .string)), ("file_filter", s.files.toJson)]
  ++ Json.optionalMember "exclude" s.exclude
  ++ [("repo_index", .natural s.repoIndex), ("hook_index", .natural s.hookIndex)]

def Plan.toJson (p : Plan) : Value := .object <|
  [("steps", .list (p.steps.map Step.toJson))]
  ++ Json.optionalMember "exclude" p.exclude
  ++ [("fail_fast", .boolean p.failFast)]

def Plan.toText (p : Plan) : String := p.toJson.text

/-! ### Reading filters -/

namespace FileFilter

/-- What the kind of a filter may be. -/
inductive Tag where
  | all
  | pattern
  deriving Repr, DecidableEq

def Tag.name : Tag → String
  | all => "all"
  | pattern => "pattern"

def Tag.readName : Reader Tag := do
  let name ← Json.stringAs "variant identifier"
  if name == Tag.all.name then return .all
  else if name == Tag.pattern.name then return .pattern
  else Json.mismatch (.unknownVariant name [Tag.all.name, Tag.pattern.name])

/-- Null. -/
def readUnit : Reader Unit := do
  match ← Json.next? with
  | some 'n' => Json.word "null".toList
  | _ => Json.wrong "unit"

/-- The kind of a filter: its name, or an object that has null under that name. -/
def Tag.read : Reader Tag := do
  match ← Json.next? with
  | none => Json.stopAt .valueEnds
  | some '"' => Tag.readName
  | some '\x7b' =>
    Json.drop
    let tag ← Tag.readName
    Json.valueOf readUnit
    match ← Json.next? with
    | none => Json.stop .objectEnds
    | some '\x7d' =>
      Json.drop
      return tag
    | some _ => Json.stop .value
  | some _ => Json.stopAt .value

/-- What messages call the place of the pattern in a filter for all paths. -/
def unitName : String := "unit variant FileFilter::All"

/-- The filter of a kind, from the value of its pattern. -/
def readContent : Tag → Reader FileFilter
  | .pattern => do return .pattern (← Json.string)
  | .all => do
    match ← Json.next? with
    | some 'n' =>
      Json.word "null".toList
      return .all
    | some '[' => Json.Bracket.list.around (Json.loose (.wrongType "sequence" unitName))
    | some '\x7b' => Json.Bracket.object.around (Json.loose (.wrongType "map" unitName))
    | _ => Json.wrong unitName

/-- The value of a pattern whose kind is not known yet. -/
inductive Content where
  | null
  | boolean (b : Bool)
  | number (n : Numeral)
  | text (s : String)
  | list
  | object

def Content.describe : Content → String
  | null => "null"
  | boolean b => s!"boolean `{b}`"
  | number n => n.describe
  | text s => s!"string {Text.quoted s}"
  | list => "sequence"
  | object => "map"

/-- How deep the value of a pattern may be nested when it comes before the kind. -/
def maxContentDepth : Nat := 123

/-- A value in which brackets may be nested `depth` deep. -/
def Content.read (depth : Nat) : Reader Content := do
  match ← Json.next? with
  | none => Json.stopAt .valueEnds
  | some 'n' =>
    Json.word "null".toList
    return .null
  | some 't' =>
    Json.word "true".toList
    return .boolean true
  | some 'f' =>
    Json.word "false".toList
    return .boolean false
  | some '"' => return .text (← Json.quoted)
  | some '[' =>
    match depth with
    | 0 => Json.stopAt .tooDeep
    | depth + 1 =>
      let _ ← Json.items (read depth)
      return .list
  | some '\x7b' =>
    match depth with
    | 0 => Json.stopAt .tooDeep
    | depth + 1 => Json.Bracket.object.around do
      Json.members (fun _ _ => Json.valueOf do let _ ← read depth) ()
      return .object
  | some c =>
    if c == '-' || c.isDigit then return .number (← Json.numeral) else Json.stopAt .value

/-- The filter of a kind, from the value of a pattern that came first. -/
def ofContent : Tag → Content → Except Mismatch FileFilter
  | .all, .null => .ok .all
  | .all, c => .error (.wrongType c.describe unitName)
  | .pattern, .text p => .ok (.pattern p)
  | .pattern, c => .error (.wrongType c.describe "a string")

/-- What has been read of a filter. -/
inductive Draft where
  | nothing
  | tagged (t : Tag)
  | waiting (c : Content)
  | complete (f : FileFilter)

def tagKey : String := "kind"
def contentKey : String := "pattern"

/-- Takes one member of a filter. -/
def Draft.take (name : String) (d : Draft) : Reader Draft := do
  if name == tagKey then
    match d with
    | nothing => return .tagged (← Json.valueOf Tag.read)
    | waiting c =>
      let tag ← Json.valueOf Tag.read
      match ofContent tag c with
      | .ok f => return .complete f
      | .error m => Json.loose m
    | tagged _ | complete _ => Json.loose (.duplicateField tagKey)
  else if name == contentKey then
    match d with
    | nothing => return .waiting (← Json.valueOf (Content.read maxContentDepth))
    | tagged tag => return .complete (← Json.valueOf (readContent tag))
    | waiting _ | complete _ => Json.loose (.duplicateField contentKey)
  else
    Json.valueOf Json.skip
    return d

/-- The filter that has been read. One for all paths needs no pattern. -/
def Draft.finish : Draft → Except Mismatch FileFilter
  | nothing | waiting _ => .error (.missingField tagKey)
  | tagged .all => .ok .all
  | tagged .pattern => .error (.missingField contentKey)
  | complete f => .ok f

def expected : String := "adjacently tagged enum FileFilter"

def read : Reader FileFilter := Json.record expected
  (do
    match (← Json.members Draft.take .nothing).finish with
    | .ok f => return f
    | .error m => Json.loose m)
  (do
    let tag ← Json.element expected 0 Tag.read
    Json.element expected 1 (readContent tag))

end FileFilter

/-! ### Reading steps and plans -/

/-- A step of which some members have been read. -/
structure StepDraft where
  location : Option String := none
  revision : Option String := none
  hookId : Option String := none
  name : Option String := none
  args : Option (List String) := none
  files : Option FileFilter := none
  exclude : Option (Option String) := none
  repoIndex : Option Nat := none
  hookIndex : Option Nat := none

namespace Step

def fields : List (Json.Field StepDraft) := [
  .ofSlot "source_location" Json.string (·.location) fun d v => { d with location := some v },
  .ofSlot "revision" Json.string (·.revision) fun d v => { d with revision := some v },
  .ofSlot "hook_id" Json.string (·.hookId) fun d v => { d with hookId := some v },
  .ofSlot "effective_name" Json.string (·.name) fun d v => { d with name := some v },
  .ofSlot "effective_args" (Json.items Json.string) (·.args) fun d v => { d with args := some v },
  .ofSlot "file_filter" FileFilter.read (·.files) fun d v => { d with files := some v },
  .ofSlot "exclude" (Json.optional Json.string) (·.exclude) fun d v => { d with exclude := some v },
  .ofSlot "repo_index" Json.natural (·.repoIndex) fun d v => { d with repoIndex := some v },
  .ofSlot "hook_index" Json.natural (·.hookIndex) fun d v => { d with hookIndex := some v }]

/-- The step that has been read. Only the exclusion may be missing. -/
def ofDraft (d : StepDraft) : Except Mismatch Step := do
  let location ← Json.required "source_location" d.location
  let revision ← Json.required "revision" d.revision
  let hookId ← Json.required "hook_id" d.hookId
  let name ← Json.required "effective_name" d.name
  let args ← Json.required "effective_args" d.args
  let files ← Json.required "file_filter" d.files
  let repoIndex ← Json.required "repo_index" d.repoIndex
  let hookIndex ← Json.required "hook_index" d.hookIndex
  return { location, revision, hookId, name, args, files, exclude := d.exclude.join, repoIndex,
           hookIndex }

def shapeName : String := "struct PlanStep"

def readElements : Reader Step := do
  let cell {α : Type} (i : Nat) (read : Reader α) : Reader α :=
    Json.element s!"{shapeName} with 9 elements" i read
  let location ← cell 0 Json.string
  let revision ← cell 1 Json.string
  let hookId ← cell 2 Json.string
  let name ← cell 3 Json.string
  let args ← cell 4 (Json.items Json.string)
  let files ← cell 5 FileFilter.read
  let exclude ← Json.element? 6 (Json.optional Json.string)
  let repoIndex ← cell 7 Json.natural
  let hookIndex ← cell 8 Json.natural
  return { location, revision, hookId, name, args, files, exclude := exclude.join, repoIndex,
           hookIndex }

def read : Reader Step := Json.record shapeName (Json.object fields {} ofDraft) readElements

end Step

/-- A plan of which some members have been read. -/
structure PlanDraft where
  steps : Option (List Step) := none
  exclude : Option (Option String) := none
  failFast : Option Bool := none

namespace Plan

def fields : List (Json.Field PlanDraft) := [
  .ofSlot "steps" (Json.items Step.read) (·.steps) fun d v => { d with steps := some v },
  .ofSlot "exclude" (Json.optional Json.string) (·.exclude) fun d v => { d with exclude := some v },
  .ofSlot "fail_fast" Json.boolean (·.failFast) fun d v => { d with failFast := some v }]

/-- The plan that has been read. Only the steps must be there. -/
def ofDraft (d : PlanDraft) : Except Mismatch Plan := do
  let steps ← Json.required "steps" d.steps
  return { steps, exclude := d.exclude.join, failFast := d.failFast.getD false }

def shapeName : String := "struct ExecutionPlan"

def readElements : Reader Plan := do
  let steps ← Json.element s!"{shapeName} with 3 elements" 0 (Json.items Step.read)
  let exclude ← Json.element? 1 (Json.optional Json.string)
  let failFast ← Json.element? 2 Json.boolean
  return { steps, exclude := exclude.join, failFast := failFast.getD false }

def read : Reader Plan := Json.record shapeName (Json.object fields {} ofDraft) readElements

/-- The plan that a text describes, or what is wrong with the text. -/
def ofText (text : String) : Except String Plan :=
  (Json.Reader.ofText read text.toList).mapError (·.text text.toList)

end Plan

end HookPlan
