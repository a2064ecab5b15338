import HookPlan.Pattern.Fault
import HookPlan.Unicode.Ranges

/-!
# The form of patterns

A pattern as it is written, with the places of its parts.

* `SetItem`, `SetTerm`: what stands between square brackets.
* `Ast`: patterns.
* `Ast.checkDepth`: refuses patterns that are nested too deep.
-/

namespace HookPlan.Pattern

open Unicode (Ranges)

/-- A character in a pattern. -/
structure Literal where
  span : Span
  char : Char
  /-- Written with two digits in base sixteen, so that it may stand for a byte. -/
  isByte : Bool := false
  deriving Repr, DecidableEq

/-- Classes with names of one letter. -/
inductive Shorthand where
  | digit
  | space
  | word
  deriving Repr, DecidableEq

/-- What a class of characters with a property is called. -/
inductive PropertyName where
  | named (name : List Char)
  | valued (property value : List Char)
  deriving Repr, DecidableEq

inductive SetOperator where
  | intersection
  | difference
  | symmetricDifference
  deriving Repr, DecidableEq

mutual

/-- A part of a set. -/
inductive SetItem where
  | empty (span : Span)
  | literal (l : Literal)
  | range (first last : Literal)
  | ascii (span : Span) (negated : Bool) (ranges : Ranges)
  | shorthand (span : Span) (negated : Bool) (name : Shorthand)
  | property (span : Span) (negated : Bool) (name : PropertyName)
  | bracketed (span : Span) (negated : Bool) (set : SetTerm)
  | union (span : Span) (items : List SetItem)

/-- A set. -/
inductive SetTerm where
  | item (i : SetItem)
  | operation (span : Span) (op : SetOperator) (left right : SetTerm)

end

def SetItem.span : SetItem → Span
  | .literal l => l.span
  | .range first last => first.span.to last.span
  | .empty span | .ascii span _ _ | .shorthand span _ _ | .property span _ _
  | .bracketed span _ _ | .union span _ => span

def SetTerm.span : SetTerm → Span
  | .item i => i.span
  | .operation span _ _ _ => span

/-- Conditions on a place in a text. -/
inductive Assertion where
  | startLine
  | endLine
  | startText
  | endText
  | boundary
  | notBoundary
  | boundaryStart
  | boundaryEnd
  | boundaryStartHalf
  | boundaryEndHalf
  deriving Repr, DecidableEq

inductive Flag where
  | caseInsensitive
  | multiLine
  | dotMatchesNewLine
  | swapGreed
  | unicode
  | crlf
  | ignoreSpace
  deriving Repr, DecidableEq

/-- Flags that are switched on or off. -/
abbrev FlagChanges := List (Flag × Bool)

inductive GroupKind where
  | capture (index : Nat)
  | plain (changes : FlagChanges)
  deriving Repr, DecidableEq

inductive Ast where
  | empty
  /-- Flags for the rest of the group. -/
  | flags (changes : FlagChanges)
  | literal (l : Literal)
  | dot (span : Span)
  | assertion (a : Assertion)
  | shorthand (span : Span) (negated : Bool) (name : Shorthand)
  | property (span : Span) (negated : Bool) (name : PropertyName)
  | bracketed (span : Span) (negated : Bool) (set : SetTerm)
  | repetition (span : Span) (min : Nat) (max : Option Nat) (greedy : Bool) (sub : Ast)
  | group (span : Span) (kind : GroupKind) (sub : Ast)
  | alternation (span : Span) (parts : List Ast)
  | concat (span : Span) (parts : List Ast)

/-- Refuses a part that is nested in `depth` others, if these are too many. -/
def enter (depth : Nat) (span : Span) : Except Fault Unit :=
  if maxDepth < depth + 1 then .error (.malformed .tooDeep span none) else .ok ()

mutual

def SetItem.checkDepth (depth : Nat) : SetItem → Except Fault Unit
  | .bracketed span _ set => do
    enter depth span
    set.checkDepth (depth + 1)
  | .union span items => do
    enter depth span
    SetItem.checkAllDepth (depth + 1) items
  | .empty _ | .literal _ | .range _ _ | .ascii _ _ _ | .shorthand _ _ _ | .property _ _ _ => .ok ()

def SetItem.checkAllDepth (depth : Nat) : List SetItem → Except Fault Unit
  | [] => .ok ()
  | i :: is => do
    i.checkDepth depth
    SetItem.checkAllDepth depth is

def SetTerm.checkDepth (depth : Nat) : SetTerm → Except Fault Unit
  | .item i => i.checkDepth depth
  | .operation span _ left right => do
    enter depth span
    left.checkDepth (depth + 1)
    right.checkDepth (depth + 1)

end

mutual

/-- Refuses a pattern with parts that are nested too deep. -/
def Ast.checkDepth (depth : Nat) : Ast → Except Fault Unit
  | .bracketed span _ set => do
    enter depth span
    set.checkDepth (depth + 1)
  | .repetition span _ _ _ sub => do
    enter depth span
    sub.checkDepth (depth + 1)
  | .group span _ sub => do
    enter depth span
    sub.checkDepth (depth + 1)
  | .alternation span parts => do
    enter depth span
    Ast.checkAllDepth (depth + 1) parts
  | .concat span parts => do
    enter depth span
    Ast.checkAllDepth (depth + 1) parts
  | .empty | .flags _ | .literal _ | .dot _ | .assertion _ | .shorthand _ _ _ | .property _ _ _ =>
    .ok ()

def Ast.checkAllDepth (depth : Nat) : List Ast → Except Fault Unit
  | [] => .ok ()
  | a :: as => do
    a.checkDepth depth
    Ast.checkAllDepth depth as

end

end HookPlan.Pattern
