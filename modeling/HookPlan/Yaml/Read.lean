import HookPlan.Mismatch
import HookPlan.Yaml.Literal

/-!
# Reading typed values

A reader turns a node into a value of a known type or says what is wrong with it: the
cause, the path to the node and its place. Readers follow references, and a document may
not make them follow more than a hundred for each of its events.

* `Node.string`, `Node.boolean`, `Node.optional`, `Node.items`: values of the basic types.
* `Node.record`: a mapping with known keys, strict or lenient about others.
* `Document.read`: the value of a text that holds one document and nothing else.
-/

namespace HookPlan.Yaml

/-- The way from the root of a document to a node. -/
inductive Path where
  | root
  | item (parent : Path) (index : Nat)
  | field (parent : Path) (key : String)
  /-- The value of a key that is not written at its place. -/
  | unnamed (parent : Path)
  deriving Repr, DecidableEq

namespace Path

mutual

def text : Path → String
  | root => "."
  | item p i => s!"{p.text}[{i}]"
  | field p key => p.stem ++ key
  | unnamed p => p.stem ++ "?"

/-- What stands before a key. -/
def stem : Path → String
  | root => ""
  | item p i => s!"{p.text}[{i}]."
  | field p key => p.stem ++ key ++ "."
  | unnamed p => p.stem ++ "?."

end

end Path

/-- Why a text has no value of the type wanted. -/
inductive ReadError where
  | content (m : Mismatch) (place : Option (Mark × Path))
  | document (f : DocumentFault)
  | endOfText
  | tooManyReferences
  | severalDocuments
  deriving Repr, DecidableEq

namespace ReadError

/-- The place that an error points at. -/
def mark? : ReadError → Option Mark
  | content _ place => place.map (·.1)
  | document (.form f) => some f.mark
  | document (.unknownAnchor m) => some m
  | endOfText | tooManyReferences | severalDocuments => none

/-- The place in a message: nothing for the start of the text. -/
def placeText (m : Mark) : String := if m.isOrigin then "" else s!" at {m.text}"

def text : ReadError → String
  | content m none => m.text
  | content m (some (mark, path)) =>
    let place := if path == .root then "" else s!"{path.text}: "
    place ++ m.text ++ placeText mark
  | document (.form f) => f.text
  | document (.unknownAnchor m) => "unknown anchor" ++ placeText m
  | endOfText => "EOF while parsing a value"
  | tooManyReferences => "repetition limit exceeded"
  | severalDocuments =>
    "deserializing from YAML containing more than one document is not supported"

/-- Gives an error a place, unless it has one. -/
def locate (m : Mark) (p : Path) : ReadError → ReadError
  | content cause none => content cause (some (m, p))
  | e => e

end ReadError

/-- Reading happens in a document and counts the references followed so far. -/
abbrev Reader := ReaderT Document (StateT Nat (Except ReadError))

namespace Reader

variable {α : Type}

/-- Errors without a place get this one. -/
def located (m : Mark) (p : Path) (r : Reader α) : Reader α :=
  fun d n => (r d n).mapError (.locate m p)

def mismatch (m : Mismatch) : Reader α := throw (.content m none)

/-- The text ended here, or something is wrong with it. -/
def stopped : Reader α := do
  match (← read).fault with
  | some f => throw (.document f)
  | none => throw .endOfText

def ofExcept : Except Mismatch α → Reader α
  | .ok a => pure a
  | .error m => mismatch m

end Reader

namespace Node

variable {α σ : Type}

/-- The node that a reference means; any other node is meant by itself. -/
def target (n : Node) : Reader Node := do
  match n with
  | reference _ number =>
    let d ← read
    let count ← get
    set (count + 1)
    if 100 * d.size < count + 1 then throw .tooManyReferences
    match d.anchors.lookup number with
    | some n => return n
    | none => Reader.stopped
  | n => return n

/-- What a message says about a node of the wrong type. -/
def wrong (n : Node) (expected : String) : Mismatch :=
  match n with
  | scalar _ s =>
    match s.literal with
    | .ok l => .wrongType l.describe expected
    | .error core => .wrongValue s!"string {Text.quoted s.content}" core.wanted
  | sequence .. => .wrongType "sequence" expected
  | mapping .. => .wrongType "map" expected
  | reference .. | absent _ | cut => .wrongType "unit value" expected

/-- Refuses a node that is not of the type expected; where the text was cut, that is why. -/
def refuse (n : Node) (p : Path) (expected : String) : Reader α :=
  match n with
  | cut => Reader.stopped
  | n => Reader.located n.mark p (Reader.mismatch (n.wrong expected))

/-- Whether nothing is written in place of a node. -/
def isBlankScalar : Node → Bool
  | scalar _ s => s.style == .plain && s.content.isEmpty
  | absent _ => true
  | _ => false

/-- Every scalar is text, whatever else it might stand for. -/
def string (p : Path) (n : Node) : Reader String := do
  match ← n.target with
  | scalar _ s => return s.content
  | n => n.refuse p "a string"

/-- A boolean is written without quotes, or in a literal block with the tag for booleans. -/
def boolean (p : Path) (n : Node) : Reader Bool := do
  let n ← n.target
  let b? := match n with
    | scalar _ s =>
      if s.style == .plain
          || (s.style == .literal && s.tag.bind CoreTag.ofTag? == some .bool) then
        boolean? s.content
      else none
    | _ => none
  match b? with
  | some b => return b
  | none => n.refuse p "a boolean"

/-- Null, or nothing at all, is an absent value. The tag for null demands null. -/
def optional (read : Path → Node → Reader α) (p : Path) (n : Node) : Reader (Option α) := do
  match ← n.target with
  | scalar m s =>
    let some' : Reader (Option α) := some <$> read p (scalar m s)
    if s.style != .plain then some'
    else match s.tag with
      | none => if s.content.isEmpty || isNull s.content then return none else some'
      | some tag =>
        if CoreTag.ofTag? tag != some .null then some'
        else if isNull s.content then return none
        else Reader.mismatch (.wrongValue s!"string {Text.quoted s.content}" "null")
  | absent _ => return none
  | cut => Reader.stopped
  | n => some <$> read p n

/-- The items of a sequence, with their paths. -/
def itemsFrom (read : Path → Node → Reader α) (p : Path) : Nat → List Node → Reader (List α)
  | _, [] => return []
  | i, n :: ns => do
    let a ← read (.item p i) n
    let as ← itemsFrom read p (i + 1) ns
    return a :: as

/-- A sequence; nothing at all is the empty one. -/
def items (read : Path → Node → Reader α) (p : Path) (n : Node) : Reader (List α) := do
  match ← n.target with
  | sequence m ns => Reader.located m p (itemsFrom read p 0 ns)
  | n => if n.isBlankScalar then return [] else n.refuse p "a sequence"

/-- One key of a record that is being read into a draft of type `σ`. -/
structure Field (σ : Type) where
  name : String
  present : σ → Bool
  read : Path → Node → σ → Reader σ

/-- A kind of record: its name in messages, its keys, whether other keys are refused, and
what its draft must hold in the end. -/
structure Schema (σ α : Type) where
  name : String
  fields : List (Field σ)
  strict : Bool
  empty : σ
  finish : σ → Except Mismatch α

/-- A value that nobody looks at. -/
def skip (n : Node) : Reader Unit := if n.whole then return () else Reader.stopped

/-- Takes one entry of a mapping into the draft. -/
def entry (schema : Schema σ α) (p : Path) (draft : σ) (k v : Node) : Reader σ := do
  let key ← k.target
  match key with
  | scalar m s =>
    let valuePath := match k with
      | scalar .. => Path.field p s.content
      | _ => .unnamed p
    match schema.fields.find? (·.name == s.content) with
    | some f =>
      if f.present draft then Reader.mismatch (.duplicateField f.name)
      else f.read valuePath v draft
    | none =>
      if schema.strict then
        Reader.located m p
          (Reader.mismatch (.unknownField s.content (schema.fields.map (·.name))))
      else do
        v.skip
        return draft
  | key => key.refuse p "field identifier"

def entries (schema : Schema σ α) (p : Path) : σ → List (Node × Node) → Reader σ
  | draft, [] => return draft
  | draft, (k, v) :: es => do
    let draft ← entry schema p draft k v
    entries schema p draft es

/-- A record; nothing at all is the one without entries. -/
def record (schema : Schema σ α) (p : Path) (n : Node) : Reader α := do
  match ← n.target with
  | mapping m es => Reader.located m p do
      let draft ← entries schema p schema.empty es
      Reader.ofExcept (schema.finish draft)
  | n =>
    if n.isBlankScalar then
      Reader.located n.mark p (Reader.ofExcept (schema.finish schema.empty))
    else n.refuse p s!"struct {schema.name}"

end Node

namespace Document

variable {α : Type}

/-- The value of the root, whatever comes after it. -/
def readRoot (read : Path → Node → Reader α) (d : Document) : Except ReadError α :=
  (read .root d.root d 0).map (·.1)

/-- The value of a document that is read to its end and followed by nothing. -/
def read (read : Path → Node → Reader α) (d : Document) : Except ReadError α := do
  let a ← d.readRoot read
  match d.fault with
  | some f => throw (.document f)
  | none => if d.followed then throw .severalDocuments else return a

end Document

end HookPlan.Yaml
