/-!
# Decimals and 64-bit floating point numbers

A finite positive number of the 64-bit format is `m * 2 ^ q` with `m` below `2 ^ 53`.
Reading a decimal rounds it to the nearest such number, with ties to the even `m`; showing
one takes the fewest digits that read back to it.

* `Binary.ofDecimal`: the nearest number to a decimal.
* `Binary.shortest`: the shortest decimal that reads back.
* `Decimal.positional`, `Decimal.scientific`: two layouts of a decimal.
-/

namespace HookPlan.Number

/-- The number `digits * 10 ^ exp`. -/
structure Decimal where
  digits : Nat
  exp : Int
  deriving Repr, DecidableEq

/-- The number `m * 2 ^ q`, or infinity. -/
inductive Binary where
  | finite (m : Nat) (q : Int)
  | infinite
  deriving Repr, DecidableEq

/-- Numerator and denominator of `n * base ^ e`. -/
def scaled (n base : Nat) (e : Int) : Nat × Nat :=
  (n * Nat.pow base e.toNat, Nat.pow base (-e).toNat)

/-- A quotient rounded to the nearest integer, with ties to even. -/
def roundDiv (num den : Nat) : Nat :=
  let q := num / den
  let twice := 2 * (num % den)
  if twice < den then q
  else if den < twice then q + 1
  else if q % 2 == 0 then q else q + 1

/-- The exponent of the largest power of two that is at most `num / den`. -/
def floorLog2 (num den : Nat) : Int :=
  let e : Int := (num.log2 : Int) - den.log2
  let (n, d) := scaled 1 2 e
  if num * d < n * den then e - 1 else e

namespace Binary

/-- The least exponent of the format, which belongs to its finest grid. -/
def minExp : Int := -1074

/-- The exponent of the coarsest grid. -/
def maxExp : Int := 971

/-- The number nearest to the quotient of two positive numbers. -/
def ofRatio (num den : Nat) : Binary :=
  let q := max (floorLog2 num den - 52) minExp
  let m := roundDiv (num * Nat.pow 2 (-q).toNat) (den * Nat.pow 2 q.toNat)
  let (m, q) := if m == Nat.pow 2 53 then (Nat.pow 2 52, q + 1) else (m, q)
  if maxExp < q then .infinite else .finite m q

def decimalLength (n : Nat) : Nat := (Nat.toDigits 10 n).length

/-- The number nearest to a decimal. Exponents far outside the format are settled without
building the powers of ten. -/
def ofDecimal (d : Decimal) : Binary :=
  if d.digits == 0 then .finite 0 minExp
  else
    let leading := (decimalLength d.digits : Int) + d.exp
    if 400 < leading then .infinite
    else if leading < -400 then .finite 0 minExp
    else
      let (num, den) := scaled d.digits 10 d.exp
      ofRatio num den

def isZero : Binary → Bool
  | finite m _ => m == 0
  | infinite => false

/-- The number nearest to a product. -/
def mul : Binary → Binary → Binary
  | finite m q, finite n r =>
    if m * n == 0 then finite 0 minExp
    else
      let (num, den) := scaled (m * n) 2 (q + r)
      ofRatio num den
  | _, _ => infinite

/-- The number nearest to a quotient; nothing is divided by zero or infinity here. -/
def div : Binary → Binary → Binary
  | finite m q, finite n r =>
    if m * n == 0 then finite 0 minExp
    else
      let (num, den) := scaled 1 2 (q - r)
      ofRatio (m * num) (n * den)
  | b, _ => b

/-- Whether a decimal lies among the reals that round to `m * 2 ^ q`. The reals below are
half as far away at the start of a binade, and the ends belong to even `m`. -/
def readsBack (m : Nat) (q : Int) (d : Decimal) : Bool :=
  let low := if m == Nat.pow 2 52 && minExp < q then 4 * m - 1 else 4 * m - 2
  let (n, nd) := scaled d.digits 10 d.exp
  let (l, ld) := scaled low 2 (q - 2)
  let (h, hd) := scaled (4 * m + 2) 2 (q - 2)
  if m % 2 == 0 then l * nd ≤ n * ld && n * hd ≤ h * nd
  else l * nd < n * ld && n * hd < h * nd

/-- The least `k` with `num / den < 10 ^ k`. -/
def decimalScale (num den : Nat) : Int :=
  if den ≤ num then (decimalLength (num / den) : Int)
  else
    let rec below : Nat → Nat → Nat → Nat
      | 0, k, _ => k
      | fuel + 1, k, n => if den ≤ n then k else below fuel (k + 1) (10 * n)
    1 - (below 400 0 num : Int)

/-- Drops trailing zeros. -/
def stripZeros : Nat → Decimal → Decimal
  | 0, d => d
  | fuel + 1, d =>
    if d.digits ≠ 0 && d.digits % 10 == 0 then stripZeros fuel ⟨d.digits / 10, d.exp + 1⟩ else d

/-- The one of two neighbouring grid points that is nearer; `up` decides a tie. -/
def nearer (num den : Nat) (a b : Decimal) (up : Bool) : Decimal :=
  let (s, sd) := scaled (a.digits + b.digits) 10 a.exp
  let twice := 2 * num * sd
  let mid := s * den
  if twice < mid then a else if mid < twice then b else if up then b else a

/-- The shortest decimal that reads back to `m * 2 ^ q`, the nearest one of that length;
seventeen digits always suffice. -/
def shortest (m : Nat) (q : Int) (up : Bool) : Decimal :=
  let (num, den) := scaled m 2 q
  let k := decimalScale num den
  let grid (n : Nat) : Option Decimal :=
    let e := k - (n : Int)
    let a : Decimal := ⟨num * Nat.pow 10 (-e).toNat / (den * Nat.pow 10 e.toNat), e⟩
    let b : Decimal := ⟨a.digits + 1, e⟩
    match readsBack m q a, readsBack m q b with
    | true, true => some (nearer num den a b up)
    | true, false => some a
    | false, true => some b
    | false, false => none
  if m == 0 then ⟨0, 0⟩
  else stripZeros 20 (((List.range 18).drop 1).findSome? grid |>.getD ⟨num, 0⟩)

end Binary

namespace Decimal

/-- All digits, with zeros up to the point and a zero before a leading point. -/
def positional (d : Decimal) : List Char :=
  let ds := Nat.toDigits 10 d.digits
  if d.digits == 0 then ['0']
  else if 0 ≤ d.exp then ds ++ List.replicate d.exp.toNat '0'
  else
    let places := (-d.exp).toNat
    if places < ds.length then
      ds.take (ds.length - places) ++ '.' :: ds.drop (ds.length - places)
    else ['0', '.'] ++ List.replicate (places - ds.length) '0' ++ ds

/-- The exponent of the first digit. -/
def leading (d : Decimal) : Int := (Binary.decimalLength d.digits : Int) + d.exp - 1

/-- One digit, a point if more follow, and a signed exponent of at least two digits. -/
def scientific (d : Decimal) : List Char :=
  let ds := Nat.toDigits 10 d.digits
  let e := d.leading
  let es := Nat.toDigits 10 e.natAbs
  let mantissa := if ds.length ≤ 1 then ds else ds.take 1 ++ '.' :: ds.drop 1
  mantissa ++ ['e', if e < 0 then '-' else '+'] ++ List.replicate (2 - es.length) '0' ++ es

/-- Adds a fraction of zero to the text of a whole number. -/
def withPoint (text : List Char) : List Char :=
  if text.contains '.' then text else text ++ ['.', '0']

end Decimal

/-- Reads decimal digits. -/
def digitsValue (ds : List Char) : Nat :=
  ds.foldl (fun n d => 10 * n + (d.toNat - '0'.toNat)) 0

end HookPlan.Number
