/-!
# Names that look alike

Two names are alike if many of their characters agree at nearly the same places. The measure is
the mean of three ratios: of the agreeing characters to either length, and of those that also
agree in order to all agreeing ones.

* `Similarity.of`: the measure as a fraction.
* `alike`: the names that are alike to a given one, the best last.
-/

namespace HookPlan.CommandLine

/-- A fraction between zero and one. -/
structure Similarity where
  numerator : Nat
  denominator : Nat
  deriving Repr

namespace Similarity

/-- Whether one fraction is less than another. -/
def less (a b : Similarity) : Bool := a.numerator * b.denominator < b.numerator * a.denominator

/-- The place of the first free character that equals `c`, among the places from `lo` up to
`hi`; `i` is the place of the first character of the list. -/
def freePlace? (c : Char) (lo hi : Nat) (taken : List Nat) (i : Nat) : List Char → Option Nat
  | [] => none
  | d :: ds =>
    if hi ≤ i then none
    else if lo ≤ i && c == d && !taken.contains i then some i
    else freePlace? c lo hi taken (i + 1) ds

/-- The agreeing characters of the first name, with the places that they take in the second. -/
def agreeing (reach : Nat) (b : List Char) (taken : List Nat) (i : Nat) :
    List Char → List (Char × Nat)
  | [] => []
  | c :: cs =>
    match freePlace? c (i - reach) (i + reach + 1) taken 0 b with
    | some j => (c, j) :: agreeing reach b (j :: taken) (i + 1) cs
    | none => agreeing reach b taken (i + 1) cs

/-- How much two names are alike. -/
def of (a b : List Char) : Similarity :=
  if a.isEmpty && b.isEmpty then ⟨1, 1⟩
  else
    let pairs := agreeing (max a.length b.length / 2 - 1) b [] 0 a
    let m := pairs.length
    if m == 0 then ⟨0, 1⟩
    else
      let inOrder := (b.mapIdx fun j d => (j, d)).filter fun (j, _) => pairs.any (·.2 == j)
      let swapped := ((pairs.zip inOrder).countP fun (p, q) => p.1 != q.2) / 2
      -- m / |a| + m / |b| + (m - swapped) / m, all divided by three
      ⟨m * m * b.length + m * m * a.length + (m - swapped) * a.length * b.length,
        3 * a.length * b.length * m⟩

/-- Names are alike from here on. -/
def threshold : Similarity := ⟨7, 10⟩

end Similarity

/-- Puts a name behind those that are not more alike. -/
def insertAlike (n : Similarity × String) :
    List (Similarity × String) → List (Similarity × String)
  | [] => [n]
  | m :: ms => if n.1.less m.1 then n :: m :: ms else m :: insertAlike n ms

/-- The names that are alike to `name`, the best last. -/
def alike (name : String) (names : List String) : List String :=
  let scored := names.map fun n => (Similarity.of name.toList n.toList, n)
  let near := scored.filter fun (s, _) => Similarity.threshold.less s
  (near.foldl (fun ms n => insertAlike n ms) []).map (·.2)

end HookPlan.CommandLine
