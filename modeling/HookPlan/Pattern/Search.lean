import HookPlan.Pattern.Expr
import HookPlan.Unicode.Property

/-!
# Searching texts

The places between the characters of a text are numbered from zero. A set of places is a
number whose binary digits say which places belong to it. In a text an expression is a `Move`,
which takes the places where a match may start to those where it may end. It does so for all of
them at once, so that no search takes back what it tried.

* `Expr.moveIn`: the move that an expression is in a text.
* `Move.ends`: the places where a move ends.
* `Expr.occursIn`: whether there is a match anywhere in a text.
-/

namespace HookPlan.Pattern

open Unicode (Ranges)

/-- Places in a text, as binary digits. -/
abbrev Places := Nat

namespace Places

/-- The places before the characters with a property. -/
def before (p : Char → Bool) : List Char → Places
  | [] => 0
  | c :: cs => 2 * before p cs + (if p c then 1 else 0)

/-- The places with a property that looks at the characters before and after it; `last` stands
before the first place. -/
def between (p : Option Char → Option Char → Bool) (last : Option Char) : List Char → Places
  | [] => if p last none then 1 else 0
  | c :: cs => 2 * between p (some c) cs + (if p last (some c) then 1 else 0)

/-- All places in a text. -/
def all (text : List Char) : Places := Nat.pow 2 (text.length + 1) - 1

/-- Applies a step some times; more often than there are places changes nothing. -/
def iterate (f : Places → Places) : Nat → Places → Places
  | 0, places => places
  | n + 1, places =>
    let next := f places
    if next == places then places else iterate f n next

/-- Adds what a step leads to, some times. -/
def grow (f : Places → Places) : Nat → Places → Places
  | 0, places => places
  | n + 1, places =>
    let next := places ||| f places
    if next == places then places else grow f n next

end Places

/-- Characters of words among the first 128. -/
def isAsciiWord (c : Char) : Bool := c.isAlphanum || c == '_'

def WordEdge.holds (isWord : Char → Bool) (before after : Option Char) : WordEdge → Bool
  | .boundary => before.any isWord != after.any isWord
  | .noBoundary => before.any isWord == after.any isWord
  | .start => !before.any isWord && after.any isWord
  | .stop => before.any isWord && !after.any isWord
  | .startHalf => !before.any isWord
  | .stopHalf => !after.any isWord

/-- Whether a condition holds between two characters. -/
def Look.holds (before after : Option Char) : Look → Bool
  | .textStart => before.isNone
  | .textEnd => after.isNone
  | .lineStart false => before.isNone || before == some '\n'
  | .lineEnd false => after.isNone || after == some '\n'
  | .lineStart true =>
    before.isNone || before == some '\n' || (before == some '\r' && after != some '\n')
  | .lineEnd true =>
    after.isNone || after == some '\r' || (after == some '\n' && before != some '\r')
  | .word edge unicode =>
    edge.holds (if unicode then Unicode.isWordChar else isAsciiWord) before after

/-- What an expression does to places in a text. -/
inductive Move where
  | stay
  /-- One character further from some places. -/
  | advance (starts : Places)
  /-- Nowhere, and only from some places. -/
  | remain (here : Places)
  | repeated (min : Nat) (max : Option Nat) (sub : Move)
  | row (parts : List Move)
  | oneOf (parts : List Move)

/-- How often a step may be repeated after the first `min` times. -/
def extraRounds (min : Nat) (max : Option Nat) (bound : Nat) : Nat :=
  match max with
  | none => bound
  | some m => Nat.min (m - min) bound

namespace Move

mutual

/-- The places where a move ends that starts at some places; `bound` is the number of places in
the text. -/
def ends (bound : Nat) : Move → Places → Places
  | stay, places => places
  | advance starts, places => (places &&& starts) <<< 1
  | remain here, places => places &&& here
  | repeated min max sub, places =>
    let first := Places.iterate (ends bound sub) (Nat.min min bound) places
    Places.grow (ends bound sub) (extraRounds min max bound) first
  | row parts, places => endsInRow bound parts places
  | oneOf parts, places => endsOfAny bound parts places

def endsInRow (bound : Nat) : List Move → Places → Places
  | [], places => places
  | m :: ms, places => endsInRow bound ms (ends bound m places)

def endsOfAny (bound : Nat) : List Move → Places → Places
  | [], _ => 0
  | m :: ms, places => ends bound m places ||| endsOfAny bound ms places

end

end Move

namespace Expr

/-- The places before the characters of a set. -/
def placesOf (text : List Char) (ranges : Ranges) : Places :=
  let table := ranges.toArray
  Places.before (fun c => Ranges.tableContains table c.toNat) text

mutual

/-- The move that an expression is in a text. -/
def moveIn (text : List Char) : Expr → Move
  | empty => .stay
  | literal cs => .row (cs.map fun c => .advance (Places.before (· == c) text))
  | set ranges => .advance (placesOf text ranges)
  | look l => .remain (Places.between (fun b a => l.holds b a) none text)
  | repeated min max _ sub => .repeated min max (moveIn text sub)
  | capture _ sub => moveIn text sub
  | concat parts => .row (movesIn text parts)
  | alternation parts => .oneOf (movesIn text parts)

def movesIn (text : List Char) : List Expr → List Move
  | [] => []
  | e :: es => moveIn text e :: movesIn text es

end

/-- Whether there is a match anywhere in a text. -/
def occursIn (e : Expr) (text : List Char) : Bool :=
  (e.moveIn text).ends (text.length + 1) (Places.all text) != 0

end Expr

end HookPlan.Pattern
