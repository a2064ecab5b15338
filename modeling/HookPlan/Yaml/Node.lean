import HookPlan.Yaml.Event
import HookPlan.Yaml.Scan

/-!
# From events to trees

A `Document` is the tree of one YAML document together with the nodes its references mean.
A text can stop being YAML in the middle of a document. What came before is still a tree,
with `Node.cut` where the rest would have been, and the fault is kept beside it: a reader
meets the fault only if it gets that far.

* `Document.ofEvents`: the tree of a list of events.
* `Document.ofString`: the first document of a text.

A reference means the node whose anchor was given the same number. Numbers count the
distinct names known so far, so a name that is used again takes the number the next new
name will take too, and then both mean the later node.
-/

namespace HookPlan.Yaml

/-- A scalar: its tag, its content and how it was written. -/
structure Scalar where
  tag : Option String
  content : String
  style : ScalarStyle
  deriving Repr, DecidableEq

inductive Node where
  | scalar (mark : Mark) (s : Scalar)
  | sequence (mark : Mark) (items : List Node)
  | mapping (mark : Mark) (entries : List (Node × Node))
  /-- The node with this anchor number. -/
  | reference (mark : Mark) (number : Nat)
  /-- An empty text has this in place of a tree. -/
  | absent (mark : Mark)
  /-- Here the text stopped being YAML. -/
  | cut
  deriving Inhabited

/-- What can be wrong with a document before its content is looked at. -/
inductive DocumentFault where
  | form (f : Fault)
  | unknownAnchor (mark : Mark)
  deriving Repr, DecidableEq

structure Document where
  root : Node
  /-- The node each anchor number means. -/
  anchors : List (Nat × Node)
  /-- What cut the document short. -/
  fault : Option DocumentFault
  /-- How many events it took to describe the tree. -/
  size : Nat
  /-- Whether anything follows the document. -/
  followed : Bool

/-- The number of a reference, if its name is known, and the number of a new anchor. -/
structure AnchorNames where
  numbers : List (String × Nat) := []

def AnchorNames.find? (a : AnchorNames) (name : String) : Option Nat :=
  (a.numbers.find? (·.1 == name)).map (·.2)

/-- Gives a name the number of distinct names known before it. -/
def AnchorNames.add (a : AnchorNames) (name : String) : AnchorNames :=
  ⟨(name, a.numbers.length) :: a.numbers.filter (·.1 != name)⟩

/-- A collection whose end has not come yet, with its content in reverse. `place` counts the
events before it. -/
inductive Frame where
  | sequence (mark : Mark) (place : Nat) (items : List Node)
  | mapping (mark : Mark) (place : Nat) (entries : List (Node × Node)) (key : Option Node)

/-- The walk over a list of events. -/
structure Growth where
  frames : List Frame := []
  root : Option Node := none
  names : AnchorNames := {}
  /-- For each anchor number the place of the event that took it, the latest first. -/
  taken : List (Nat × Nat) := []
  /-- The nodes by the place of their first event. -/
  nodes : List (Nat × Node) := []
  place : Nat := 0

namespace Growth

/-- Registers the anchor of the event at the current place. -/
def anchor (g : Growth) (props : Properties) : Growth :=
  match props.anchor with
  | none => g
  | some name =>
    { g with taken := (g.names.numbers.length, g.place) :: g.taken, names := g.names.add name }

/-- Adds a finished node that began at `place` to the collection around it. -/
def add (g : Growth) (place : Nat) (n : Node) : Growth :=
  let g := { g with nodes := (place, n) :: g.nodes }
  match g.frames with
  | [] => { g with root := some n }
  | .sequence m p items :: fs => { g with frames := .sequence m p (n :: items) :: fs }
  | .mapping m p entries none :: fs => { g with frames := .mapping m p entries (some n) :: fs }
  | .mapping m p entries (some k) :: fs =>
    { g with frames := .mapping m p ((k, n) :: entries) none :: fs }

/-- Ends the innermost collection. -/
def close (g : Growth) : Growth :=
  match g.frames with
  | [] => g
  | .sequence m p items :: fs => { g with frames := fs }.add p (.sequence m items.reverse)
  | .mapping m p entries _ :: fs => { g with frames := fs }.add p (.mapping m entries.reverse)

/-- Takes in one event; fails at a reference to an unknown anchor. -/
def event (g : Growth) (e : Event) : Option Growth :=
  let next (g : Growth) : Growth := { g with place := g.place + 1 }
  match e.kind with
  | .scalar props content style =>
    some (next ((g.anchor props).add g.place (.scalar e.mark ⟨props.tag, content, style⟩)))
  | .reference name =>
    (g.names.find? name).map fun n => next (g.add g.place (.reference e.mark n))
  | .sequenceStart props =>
    let g := g.anchor props
    some (next { g with frames := .sequence e.mark g.place [] :: g.frames })
  | .mappingStart props =>
    let g := g.anchor props
    some (next { g with frames := .mapping e.mark g.place [] none :: g.frames })
  | .sequenceEnd | .mappingEnd => some (next g.close)
  | _ => some (next g)

/-- Takes in the events up to the first reference to an unknown anchor. -/
def events (g : Growth) : List Event → Growth × Option Mark
  | [] => (g, none)
  | e :: es =>
    match g.event e with
    | some g => g.events es
    | none => (g, some e.mark)

/-- Ends all open collections of a document that was cut short. -/
def cut : List Frame → Growth → Growth
  | [], g => g
  | .sequence .. :: fs, g => cut fs (g.add g.place .cut).close
  | .mapping _ _ _ none :: fs, g => cut fs ((g.add g.place .cut).add g.place .cut).close
  | .mapping _ _ _ (some _) :: fs, g => cut fs (g.add g.place .cut).close

/-- The node of each anchor number; of two events that took one number the later counts. -/
def anchors (g : Growth) : List (Nat × Node) :=
  g.taken.filterMap fun (number, place) =>
    (g.nodes.find? (·.1 == place)).map fun (_, n) => (number, n)

end Growth

namespace Document

def ofEvents (es : Events) : Document :=
  match es.absent with
  | some m => ⟨.absent m, [], none, 1, false⟩
  | none =>
    let (g, unknown) := ({} : Growth).events es.list
    let fault := match unknown with
      | some m => some (DocumentFault.unknownAnchor m)
      | none => es.fault.map DocumentFault.form
    let g := Growth.cut g.frames g
    ⟨g.root.getD .cut, g.anchors, fault, g.place, es.followed⟩

def ofString (text : String) : Document :=
  let tokens := Tokens.ofString text
  ofEvents (Events.ofTokens tokens.list tokens.fault)

end Document

namespace Node

/-- The place of a node's first token. -/
def mark : Node → Mark
  | scalar m _ | sequence m _ | mapping m _ | reference m _ | absent m => m
  | cut => .zero

mutual

/-- Whether the text of a node was read to its end. -/
def whole : Node → Bool
  | cut => false
  | sequence _ items => wholeItems items
  | mapping _ entries => wholeEntries entries
  | scalar .. | reference .. | absent _ => true

def wholeItems : List Node → Bool
  | [] => true
  | n :: ns => n.whole && wholeItems ns

def wholeEntries : List (Node × Node) → Bool
  | [] => true
  | (k, v) :: es => k.whole && v.whole && wholeEntries es

end

end Node

end HookPlan.Yaml
