import HookPlan.Unicode.Ranges

/-!
# Sets of characters as bytes

In UTF-8 a range of characters of one length is a union of boxes: each byte runs through a
range of its own.

* `Ranges.byteBoxes`: the boxes of a set, in ascending order.
-/

namespace HookPlan.Unicode

/-- For each byte the range that it runs through. -/
abbrev ByteBox := List (Nat × Nat)

/-- The boxes of the numbers from `a` to `b` that are written with `k` bytes of six bits after
the first byte, which has `lead` added. -/
def boxesBetween (lead a b : Nat) : Nat → List ByteBox
  | 0 => [[(lead + a, lead + b)]]
  | k + 1 =>
    let w := Nat.pow 64 (k + 1)
    let after (x lo hi : Nat) : List ByteBox :=
      (boxesBetween 0x80 lo hi k).map fun box => (lead + x, lead + x) :: box
    if a / w == b / w then after (a / w) (a % w) (b % w)
    else
      let first := if a % w == 0 then [] else after (a / w) (a % w) (w - 1)
      let last := if b % w == w - 1 then [] else after (b / w) 0 (b % w)
      let lo := if a % w == 0 then a / w else a / w + 1
      let hi := if b % w == w - 1 then b / w + 1 else b / w
      let middle := if lo < hi then
        [(lead + lo, lead + (hi - 1)) :: List.replicate (k + 1) (0x80, 0xBF)] else []
      first ++ middle ++ last

/-- The ranges of code points with one length: the first and the last, the bytes after the
first one, and what is added to the first byte. -/
def lengthRanges : List (Nat × Nat × Nat × Nat) :=
  [(0x0, 0x7F, 0, 0), (0x80, 0x7FF, 1, 0xC0), (0x800, 0xD7FF, 2, 0xE0), (0xE000, 0xFFFF, 2, 0xE0),
    (0x10000, 0x10FFFF, 3, 0xF0)]

/-- The boxes of the bytes of a set. -/
def Ranges.byteBoxes (r : Ranges) : List ByteBox :=
  lengthRanges.flatMap fun (lo, hi, k, lead) =>
    (Ranges.inter r [(lo, hi)]).flatMap fun (a, b) => boxesBetween lead a b k

end HookPlan.Unicode
