import HookPlan.Pattern.Expr
import HookPlan.Unicode.Bytes
import Std.Data.HashMap

/-!
# The memory that a pattern takes

A pattern is matched by two automata over the bytes of a text, one from the first byte to the
last and one from the last to the first. Counted repetitions are written out, so that they can
grow very large.

* `Expr.bytes`: the memory that the larger automaton takes.
-/

namespace HookPlan.Pattern

open Unicode (Ranges ByteBox)

/-- The memory of one state. -/
def stateBytes : Nat := 32

/-- The memory of one range of bytes in a state that tells bytes apart. -/
def rangeBytes : Nat := 8

/-- The memory of one way to go on in a state that has several. -/
def branchBytes : Nat := 4

/-- The nodes of an automaton by the ranges of bytes that lead to others. -/
abbrev Nodes := Std.HashMap (List (Nat × Nat × Nat)) Nat

/-- Groups what follows on equal first ranges; these stand next to each other. -/
def groupBoxes : List ByteBox → List ((Nat × Nat) × List ByteBox)
  | [] => []
  | [] :: boxes => groupBoxes boxes
  | (r :: box) :: boxes =>
    match groupBoxes boxes with
    | (r', rest) :: groups => if r == r' then (r, box :: rest) :: groups
        else (r, [box]) :: (r', rest) :: groups
    | [] => [(r, [box])]

/-- The number of the node for some boxes; boxes that are used up end in node zero. -/
def nodeOf : Nat → List ByteBox → StateM Nodes Nat
  | 0, _ => return 0
  | length + 1, boxes => do
    match groupBoxes boxes with
    | [] => return 0
    | groups =>
      let edges ← groups.mapM fun (r, rest) => do
        let next ← nodeOf length rest
        return (r.1, r.2, next)
      let nodes ← get
      match nodes[edges]? with
      | some n => return n
      | none =>
        let n := nodes.size + 1
        set (nodes.insert edges n)
        return n

/-- A set that goes beyond the first 128 characters, forwards: equal ends are shared. -/
def forwardSetBytes (boxes : List ByteBox) : Nat :=
  let (_, nodes) := (nodeOf 4 boxes).run {}
  stateBytes + nodes.toList.foldl (fun n (edges, _) => n + stateBytes + rangeBytes * edges.length) 0

/-- How many ranges two boxes have in common at the start. -/
def sharedLength : ByteBox → ByteBox → Nat
  | r :: b, r' :: b' => if r == r' then sharedLength b b' + 1 else 0
  | _, _ => 0

/-- The ranges of some boxes after which no earlier box goes on in the same way. -/
def ownLength : List ByteBox → Nat
  | [] => 0
  | [b] => b.length
  | b :: b' :: boxes => (b.length - sharedLength b b') + ownLength (b' :: boxes)

/-- The same backwards: equal starts are shared. -/
def backwardSetBytes (boxes : List ByteBox) : Nat :=
  stateBytes * (2 + ownLength boxes) + branchBytes * boxes.length

def setBytes (forward : Bool) (ranges : Ranges) : Nat :=
  if List.all ranges (·.2 ≤ 0x7F) then 2 * stateBytes + rangeBytes * ranges.length
  else
    let boxes := Ranges.byteBoxes ranges
    if forward then forwardSetBytes boxes else backwardSetBytes boxes

/-- The bytes of a text in UTF-8, in the order in which they are met. -/
def bytesOf (forward : Bool) (text : List Char) : List UInt8 :=
  let bytes := text.flatMap String.utf8EncodeChar
  if forward then bytes else bytes.reverse

/-- Puts a text into the first group with the same first byte. -/
def insertByte (b : UInt8) (rest : List UInt8) :
    List (UInt8 × List (List UInt8)) → List (UInt8 × List (List UInt8))
  | [] => [(b, [rest])]
  | (b', rests) :: groups =>
    if b == b' then (b', rests ++ [rest]) :: groups else (b', rests) :: insertByte b rest groups

/-- The texts between those that are empty, as groups by first byte. -/
def chunksOf (texts : List (List UInt8)) : List (List (UInt8 × List (List UInt8))) :=
  let add (chunks : List (List (UInt8 × List (List UInt8)))) (text : List UInt8) :=
    match text, chunks with
    | [], _ => [] :: chunks
    | b :: rest, chunk :: chunks => insertByte b rest chunk :: chunks
    | b :: rest, [] => [insertByte b rest []]
  texts.foldl add [[]]

/-- The memory of a tree for texts to choose from. Texts share the nodes for what they start
with, and a text that ends keeps those before it apart from those after it. `fuel` is greater
than the length of the longest text. -/
def treeBytes : Nat → List (List UInt8) → Nat
  | 0, _ => 0
  | fuel + 1, texts =>
    let longer := texts.dropWhile (·.isEmpty)
    if longer.isEmpty then 0
    else
      let ends := (if longer.length < texts.length then 1 else 0) + longer.countP (·.isEmpty)
      let chunks := (chunksOf longer).filter (!·.isEmpty)
      let chunkBytes (chunk : List (UInt8 × List (List UInt8))) : Nat :=
        stateBytes + (if chunk.length == 1 then 0 else rangeBytes * chunk.length)
          + chunk.foldl (fun n (_, rests) => n + treeBytes fuel rests) 0
      let ways := chunks.length + ends
      chunks.foldl (fun n chunk => n + chunkBytes chunk) 0
        + (if ways == 1 then 0 else stateBytes + branchBytes * ways)

/-- The text of a literal. -/
def Expr.text? : Expr → Option (List Char)
  | .literal text => some text
  | _ => none

namespace Expr

mutual

/-- The memory of the states for an expression. -/
def innerBytes (forward : Bool) : Expr → Nat
  | empty | look _ => stateBytes
  | literal text => stateBytes * lengthOf text
  | set ranges => setBytes forward ranges
  | repeated min max _ sub =>
    let one := sub.innerBytes forward
    let option := stateBytes + 2 * branchBytes + one
    let copies := if min == 0 then stateBytes else min * one
    match min, max with
    | 0, some 1 => option + stateBytes
    | 0, none =>
      if (sub.minLength?.getD 0) == 0 then one + 3 * stateBytes + 4 * branchBytes
      else one + stateBytes + 2 * branchBytes
    | _, none => copies + stateBytes + 2 * branchBytes
    | _, some max => if min == max then copies else copies + stateBytes + (max - min) * option
  | capture _ sub => sub.innerBytes forward + (if forward then 2 * stateBytes else 0)
  | concat parts => sumBytes forward parts
  | alternation parts =>
    match parts.mapM text? with
    | some texts =>
      let texts := texts.map (bytesOf forward)
      stateBytes + treeBytes ((texts.map List.length).foldl max 0 + 1) texts
    | none => sumBytes forward parts + 2 * stateBytes + branchBytes * parts.length

def sumBytes (forward : Bool) : List Expr → Nat
  | [] => 0
  | e :: es => e.innerBytes forward + sumBytes forward es

end

mutual

/-- Whether a condition has to hold where a match starts or, with `atEnd`, where it ends. -/
def requires (l : Look) (atEnd : Bool) : Expr → Bool
  | look m => l == m
  | repeated min _ _ sub => 0 < min && sub.requires l atEnd
  | capture _ sub => sub.requires l atEnd
  | concat parts => if atEnd then (lastRequires l parts).1 else firstRequires l parts
  | alternation parts => allRequire l atEnd parts
  | empty | literal _ | set _ => false

/-- One of the parts up to the first one with a length requires it. -/
def firstRequires (l : Look) : List Expr → Bool
  | [] => false
  | e :: es => e.requires l false || (e.maxLength? == some 0 && firstRequires l es)

/-- One of the parts from the last one with a length on requires it; and whether no part has
a length. -/
def lastRequires (l : Look) : List Expr → Bool × Bool
  | [] => (false, true)
  | e :: es =>
    let (found, isShort) := lastRequires l es
    (found || (isShort && e.requires l true), isShort && e.maxLength? == some 0)

def allRequire (l : Look) (atEnd : Bool) : List Expr → Bool
  | [] => true
  | e :: es => e.requires l atEnd && allRequire l atEnd es

end

/-- The memory of an automaton in one direction. It starts anywhere unless its first place is
fixed. -/
def automatonBytes (forward : Bool) (e : Expr) : Nat :=
  let isFixed := if forward then e.requires .textStart false else e.requires .textEnd true
  let start := if isFixed then stateBytes else 3 * stateBytes + rangeBytes + 2 * branchBytes
  let whole := if forward then 2 * stateBytes else 0
  start + whole + e.innerBytes forward + stateBytes

/-- The memory that an expression takes. -/
def bytes (e : Expr) : Nat := max (e.automatonBytes true) (e.automatonBytes false)

end Expr

end HookPlan.Pattern
