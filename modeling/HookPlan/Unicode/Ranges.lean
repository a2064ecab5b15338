/-!
# Sets of characters as ranges

A set of characters is an ascending list of closed ranges of code points that do not touch.
Tables of the character database are written as text: two hexadecimal numbers with a dash
between them for a range and one number for a single code point, separated by spaces.

* `Ranges.ofLines`: the set that a table describes.
* `Ranges.contains`: membership, by halving.
* `Ranges.normalize`: the ascending form of any list of ranges.
* `Ranges.union`, `Ranges.inter`, `Ranges.diff`, `Ranges.symmDiff`, `Ranges.compl`.
-/

namespace HookPlan.Unicode

/-- Closed ranges of code points. -/
abbrev Ranges := List (Nat × Nat)

namespace Ranges

/-- The last code point. -/
def top : Nat := 0x10FFFF

/-- All characters: the code points without the surrogates. -/
def all : Ranges := [(0, 0xD7FF), (0xE000, top)]

def hexDigit (c : Char) : Nat :=
  if c.isDigit then c.toNat - '0'.toNat else c.toNat - 'A'.toNat + 10

/-- The state of reading a table: the ranges so far, the start of the current range if its
dash has come, and the current number if any of its digits has come. -/
structure TableReader where
  done : Array (Nat × Nat) := #[]
  start : Option Nat := none
  number : Option Nat := none

def TableReader.flush (r : TableReader) : TableReader :=
  match r.number with
  | none => r
  | some n => { done := r.done.push (r.start.getD n, n) }

def TableReader.char (r : TableReader) (c : Char) : TableReader :=
  if c == ' ' then r.flush
  else if c == '-' then { r with start := r.number, number := none }
  else { r with number := some (16 * r.number.getD 0 + hexDigit c) }

/-- The ranges of a table; the end of a line also ends a number. -/
def tableOfLines (lines : List String) : Array (Nat × Nat) :=
  (lines.foldl (fun (r : TableReader) (line : String) => (line.foldl TableReader.char r).flush) {}).done

def ofLines (lines : List String) : Ranges := (tableOfLines lines).toList

/-- Halving: the part of the table between `lo` and `hi` is searched. -/
def search (table : Array (Nat × Nat)) (n : Nat) : Nat → Nat → Nat → Bool
  | 0, _, _ => false
  | fuel + 1, lo, hi =>
    if lo < hi then
      let mid := (lo + hi) / 2
      match table[mid]? with
      | none => false
      | some (a, b) =>
        if n < a then search table n fuel lo mid
        else if b < n then search table n fuel (mid + 1) hi
        else true
    else false

/-- Membership in an ascending table. -/
def tableContains (table : Array (Nat × Nat)) (n : Nat) : Bool :=
  search table n (table.size.log2 + 2) 0 table.size

def contains (rs : Ranges) (n : Nat) : Bool := rs.any fun r => r.1 ≤ n && n ≤ r.2

/-- Joins ranges that touch; the list ascends by first code point. -/
def join : Ranges → Ranges
  | (a, b) :: (c, d) :: rs =>
    if c ≤ b + 1 then join ((a, max b d) :: rs) else (a, b) :: join ((c, d) :: rs)
  | rs => rs
  termination_by rs => rs.length

/-- The ascending form of any list of ranges. -/
def normalize (rs : Ranges) : Ranges :=
  join ((rs.filter fun r => r.1 ≤ r.2).mergeSort fun a b => a.1 ≤ b.1)

def union (r s : Ranges) : Ranges := normalize (r ++ s)

/-- The code points before `lo`, between the ranges, and after the last one. -/
def gaps (lo : Nat) : Ranges → Ranges
  | [] => if lo ≤ top then [(lo, top)] else []
  | (a, b) :: rs => if lo < a then (lo, a - 1) :: gaps (b + 1) rs else gaps (max lo (b + 1)) rs

/-- What two ascending lists have in common. -/
def overlap : Nat → Ranges → Ranges → Ranges
  | 0, _, _ => []
  | _, [], _ => []
  | _, _, [] => []
  | fuel + 1, (a, b) :: r, (c, d) :: s =>
    let here := if max a c ≤ min b d then [(max a c, min b d)] else []
    if b < d then here ++ overlap fuel r ((c, d) :: s) else here ++ overlap fuel ((a, b) :: r) s

def inter (r s : Ranges) : Ranges := overlap (r.length + s.length + 1) r s

/-- The characters outside a set; surrogates are no characters. -/
def compl (r : Ranges) : Ranges := inter (gaps 0 r) all

def diff (r s : Ranges) : Ranges := inter r (gaps 0 s)

def symmDiff (r s : Ranges) : Ranges := union (diff r s) (diff s r)

end Ranges

end HookPlan.Unicode
