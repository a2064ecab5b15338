import HookPlan.Pattern.Ast

/-!
# Expressions

What a pattern means, without the ways to write it: flags, groups that only hold together and
names of classes are gone.

* `Expr`: expressions.
* `Expr.ofSet`, `Expr.repetition`, `Expr.sequence`, `Expr.choice`: expressions in simple form.
* `Expr.minLength?`, `Expr.maxLength?`: how many bytes of UTF-8 a match has.
-/

namespace HookPlan.Pattern

open Unicode (Ranges)

/-- How a place stands to the words around it. A half looks at one side only. -/
inductive WordEdge where
  | boundary
  | noBoundary
  | start
  | stop
  | startHalf
  | stopHalf
  deriving Repr, DecidableEq

/-- A condition on a place between two characters. -/
inductive Look where
  | textStart
  | textEnd
  /-- After a line break. With `crlf` carriage returns break lines too. -/
  | lineStart (crlf : Bool)
  | lineEnd (crlf : Bool)
  /-- Words are made of the characters of all scripts or of the first 128 only. -/
  | word (edge : WordEdge) (unicode : Bool)
  deriving Repr, DecidableEq

inductive Expr where
  | empty
  | literal (text : List Char)
  /-- One character of a set. -/
  | set (ranges : Ranges)
  | look (l : Look)
  | repeated (min : Nat) (max : Option Nat) (greedy : Bool) (sub : Expr)
  | capture (index : Nat) (sub : Expr)
  | concat (parts : List Expr)
  | alternation (parts : List Expr)

namespace Expr

/-- The number of bytes of a code point in UTF-8. -/
def byteCount (n : Nat) : Nat :=
  if n ≤ 0x7F then 1 else if n ≤ 0x7FF then 2 else if n ≤ 0xFFFF then 3 else 4

def lengthOf (text : List Char) : Nat := text.foldl (fun n c => n + byteCount c.toNat) 0

mutual

/-- The least number of bytes of a match; none if nothing matches. -/
def minLength? : Expr → Option Nat
  | empty | look _ => some 0
  | literal text => some (lengthOf text)
  | set ranges => ranges.head?.map fun r => byteCount r.1
  | repeated min _ _ sub => sub.minLength?.map (min * ·)
  | capture _ sub => sub.minLength?
  | concat parts => minSum? parts
  | alternation parts => minLeast? parts

def minSum? : List Expr → Option Nat
  | [] => some 0
  | e :: es =>
    match e.minLength?, minSum? es with
    | some m, some n => some (m + n)
    | _, _ => none

def minLeast? : List Expr → Option Nat
  | [] => none
  | [e] => e.minLength?
  | e :: es =>
    match e.minLength?, minLeast? es with
    | some m, some n => some (min m n)
    | _, _ => none

end

mutual

/-- The greatest number of bytes of a match; none if nothing matches or if there is no bound. -/
def maxLength? : Expr → Option Nat
  | empty | look _ => some 0
  | literal text => some (lengthOf text)
  | set ranges => ranges.getLast?.map fun r => byteCount r.2
  | repeated _ max _ sub =>
    match max, sub.maxLength? with
    | some m, some n => some (m * n)
    | _, _ => none
  | capture _ sub => sub.maxLength?
  | concat parts => maxSum? parts
  | alternation parts => maxMost? parts

def maxSum? : List Expr → Option Nat
  | [] => some 0
  | e :: es =>
    match e.maxLength?, maxSum? es with
    | some m, some n => some (m + n)
    | _, _ => none

def maxMost? : List Expr → Option Nat
  | [] => none
  | [e] => e.maxLength?
  | e :: es =>
    match e.maxLength?, maxMost? es with
    | some m, some n => some (max m n)
    | _, _ => none

end

mutual

/-- Whether two expressions are the same. -/
def same : Expr → Expr → Bool
  | empty, empty => true
  | literal s, literal t => s == t
  | set r, set s => r == s
  | look l, look m => l == m
  | repeated m n g e, repeated m' n' g' e' => m == m' && n == n' && g == g' && e.same e'
  | capture i e, capture j e' => i == j && e.same e'
  | concat es, concat es' => sameAll es es'
  | alternation es, alternation es' => sameAll es es'
  | _, _ => false

def sameAll : List Expr → List Expr → Bool
  | [], [] => true
  | e :: es, e' :: es' => e.same e' && sameAll es es'
  | _, _ => false

end

/-- One character of a set; a set with one character is a literal. -/
def ofSet (ranges : Ranges) : Expr :=
  match ranges with
  | [(a, b)] => if a == b then literal [Char.ofNat a] else set ranges
  | _ => set ranges

/-- Nothing matches. -/
def never : Expr := set []

/-- A repetition. What has no length is repeated at most once, and a single round is none. -/
def repetition (min : Nat) (max : Option Nat) (greedy : Bool) (sub : Expr) : Expr :=
  let hasNoLength := sub.maxLength? == some 0
  let min := if hasNoLength then Nat.min min 1 else min
  let max := if hasNoLength then some (Nat.min (max.getD 1) 1) else max
  if min == 0 && max == some 0 then empty
  else if min == 1 && max == some 1 then sub
  else repeated min max greedy sub

/-- The parts of an expression in a row. -/
def rowOf : Expr → List Expr
  | concat parts => parts
  | empty => []
  | e => [e]

/-- Joins literals that stand next to each other. -/
def joinLiterals : List Expr → List Expr
  | [] => []
  | e :: es =>
    match e, joinLiterals es with
    | literal s, literal t :: rest => literal (s ++ t) :: rest
    | e, rest => e :: rest

/-- Expressions in a row. -/
def sequence (parts : List Expr) : Expr :=
  match joinLiterals (parts.flatMap rowOf) with
  | [] => empty
  | [e] => e
  | es => concat es

/-- The branches of an expression. -/
def branchesOf : Expr → List Expr
  | alternation parts => parts
  | e => [e]

/-- The set of an expression that matches a single character. -/
def singleSet? : Expr → Option Ranges
  | literal [c] => some [(c.toNat, c.toNat)]
  | set ranges => some ranges
  | _ => none

/-- Expressions to choose from. Where each matches a single character they are one set. -/
def choose (parts : List Expr) : Expr :=
  match parts.flatMap branchesOf with
  | [] => never
  | [e] => e
  | es =>
    match es.mapM singleSet? with
    | some sets => ofSet (Ranges.normalize sets.flatten)
    | none => alternation es

/-- How many parts two rows have in common at the start. -/
def commonLength : List Expr → List Expr → Nat
  | e :: es, e' :: es' => if e.same e' then commonLength es es' + 1 else 0
  | _, _ => 0

/-- The parts of a row of several expressions. -/
def concatParts? : Expr → Option (List Expr)
  | concat parts => some parts
  | _ => none

/-- What all branches start with, and what is left of each. -/
def commonStart? (branches : List Expr) : Option (List Expr × List (List Expr)) :=
  match branches.mapM concatParts? with
  | some (row :: rows) =>
    let n := rows.foldl (fun n r => min n (commonLength row r)) row.length
    if n == 0 then none else some (row.take n, (row :: rows).map (·.drop n))
  | _ => none

/-- Expressions to choose from, after what all of them start with. -/
def choice (parts : List Expr) : Expr :=
  match choose parts with
  | alternation branches =>
    match commonStart? branches with
    | some (start, rests) => sequence (start ++ [choose (rests.map sequence)])
    | none => alternation branches
  | e => e

end Expr

end HookPlan.Pattern
