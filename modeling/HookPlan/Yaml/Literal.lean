import HookPlan.Number.Decimal
import HookPlan.Text.Quoted
import HookPlan.Yaml.Node

/-!
# What scalars stand for

A scalar without quotes may stand for null, a boolean or a number; everything else is text.
A tag of the core schema demands one of these readings, and a tag of the document's own
leaves the choice open.

* `Literal.ofText`: what plain text stands for.
* `Scalar.literal`: what a scalar stands for, tags and quotes considered.
* `Literal.describe`: how a message names a literal.
-/

namespace HookPlan.Yaml

/-- Signed floating point numbers. -/
inductive FloatLiteral where
  | finite (negative : Bool) (m : Nat) (q : Int)
  | infinite (negative : Bool)
  | nan
  deriving Repr, DecidableEq

inductive Literal where
  | null
  | boolean (b : Bool)
  /-- A number that fits 64 bits. -/
  | integer (n : Int)
  /-- A number that needs up to 128 bits. -/
  | wideInteger (n : Int)
  | float (f : FloatLiteral)
  | text (s : String)
  deriving Repr, DecidableEq

def isNull (s : String) : Bool := s == "null" || s == "Null" || s == "NULL" || s == "~"

def boolean? (s : String) : Option Bool :=
  if s == "true" || s == "True" || s == "TRUE" then some true
  else if s == "false" || s == "False" || s == "FALSE" then some false
  else none

/-- The value of a digit in a base up to sixteen. -/
def digit? (base : Nat) (c : Char) : Option Nat := do
  let n ← Cursor.hexValue c
  if n < base then some n else none

/-- A nonempty list of digits in a base, if its value is at most `limit`. -/
def magnitude? (base limit : Nat) : List Char → Option Nat
  | [] => none
  | cs => do
    let n ← cs.foldlM (fun n c => do return base * n + (← digit? base c)) 0
    if n ≤ limit then some n else none

/-- The digits after a base mark such as `0x`. -/
def based? : List Char → Option (Nat × List Char)
  | '0' :: 'x' :: ds => some (16, ds)
  | '0' :: 'o' :: ds => some (8, ds)
  | '0' :: 'b' :: ds => some (2, ds)
  | _ => none

/-- Several digits with a leading zero are no number, whatever their sign. -/
def isPaddedDigits (cs : List Char) : Bool :=
  let ds := match cs with
    | '-' :: ds => ds
    | '+' :: ds => ds
    | ds => ds
  decide (1 < ds.length) && ds.head? == some '0' && ds.all Char.isDigit

def dropPlus : List Char → List Char
  | '+' :: cs => cs
  | cs => cs

def startsSigned (cs : List Char) : Bool := cs.head? == some '+' || cs.head? == some '-'

/-- A number without minus sign, at most `limit`. -/
def unsigned? (limit : Nat) (cs : List Char) : Option Nat :=
  let body := dropPlus cs
  match (based? body).bind fun (base, ds) => magnitude? base limit ds with
  | some n => some n
  | none => if isPaddedDigits cs then none else magnitude? 10 limit body

/-- The magnitude, at most `limit`, of a number with minus sign. -/
def negative? (limit : Nat) (cs : List Char) : Option Nat :=
  match cs with
  | '-' :: body =>
    match (based? body).bind fun (base, ds) => magnitude? base limit ds with
    | some n => some n
    | none => if isPaddedDigits cs then none else magnitude? 10 limit body
  | _ => none

def integer? (cs : List Char) : Option Literal :=
  match unsigned? (Nat.pow 2 64 - 1) cs with
  | some n => some (.integer n)
  | none =>
  match negative? (Nat.pow 2 63) cs with
  | some n => some (.integer (-n))
  | none =>
  match unsigned? (Nat.pow 2 128 - 1) cs with
  | some n => some (.wideInteger n)
  | none => (negative? (Nat.pow 2 127) cs).map fun n => .wideInteger (-n)

/-- A decimal number: digits with at most one point, and an optional exponent. -/
def decimal? (cs : List Char) : Option Number.Decimal := do
  let whole := cs.takeWhile Char.isDigit
  let rest := cs.dropWhile Char.isDigit
  let (fraction, rest) := match rest with
    | '.' :: r => (r.takeWhile Char.isDigit, r.dropWhile Char.isDigit)
    | r => ([], r)
  if whole.isEmpty && fraction.isEmpty then none
  let exp : Int ← match rest with
    | [] => some 0
    | e :: r =>
      if e == 'e' || e == 'E' then
        let (negative, ds) := match r with
          | '-' :: ds => (true, ds)
          | '+' :: ds => (false, ds)
          | ds => (false, ds)
        if ds.isEmpty || !ds.all Char.isDigit then none
        else
          let n : Int := Number.digitsValue ds
          some (if negative then -n else n)
      else none
  return ⟨Number.digitsValue (whole ++ fraction), exp - fraction.length⟩

/-- A floating point number; one too large for the format is none. -/
def float? (cs : List Char) : Option FloatLiteral :=
  let body := dropPlus cs
  let s := String.ofList cs
  let bare := String.ofList body
  if cs.head? == some '+' && startsSigned body then none
  else if bare == ".inf" || bare == ".Inf" || bare == ".INF" then some (.infinite false)
  else if s == "-.inf" || s == "-.Inf" || s == "-.INF" then some (.infinite true)
  else if s == ".nan" || s == ".NaN" || s == ".NAN" then some .nan
  else
    let (negative, ds) := match body with
      | '-' :: ds => (true, ds)
      | ds => (false, ds)
    (decimal? ds).bind fun d =>
      match Number.Binary.ofDecimal d with
      | .finite m q => some (.finite negative m q)
      | .infinite => none

/-- What text without quotes stands for. -/
def Literal.ofText (s : String) : Literal :=
  if s.isEmpty || isNull s then .null
  else match boolean? s with
  | some b => .boolean b
  | none =>
    let cs := s.toList
    match integer? cs with
    | some n => n
    | none =>
      match if isPaddedDigits cs then none else float? cs with
      | some f => .float f
      | none => .text s

/-- The tags of the core schema. -/
inductive CoreTag where
  | bool
  | int
  | float
  | null
  deriving DecidableEq

def CoreTag.ofTag? (tag : String) : Option CoreTag :=
  if tag == "tag:yaml.org,2002:bool" then some .bool
  else if tag == "tag:yaml.org,2002:int" then some .int
  else if tag == "tag:yaml.org,2002:float" then some .float
  else if tag == "tag:yaml.org,2002:null" then some .null
  else none

/-- What a message says was expected where a tag demands a reading. -/
def CoreTag.wanted : CoreTag → String
  | bool => "a boolean"
  | int => "an integer"
  | float => "a float"
  | null => "null"

/-- The reading that a tag of the core schema demands, if the text allows it. -/
def CoreTag.read (t : CoreTag) (s : String) : Option Literal :=
  match t with
  | bool => (boolean? s).map .boolean
  | int => integer? s.toList
  | float => (float? s.toList).map .float
  | null => if isNull s then some .null else none

/-- What a scalar stands for, or the tag that its text does not agree with. -/
def Scalar.literal (s : Scalar) : Except CoreTag Literal :=
  match s.tag with
  | some tag =>
    match CoreTag.ofTag? tag with
    | some core => match core.read s.content with
      | some l => .ok l
      | none => .error core
    | none =>
      if tag.startsWith "!" && s.style == .plain then .ok (.ofText s.content)
      else .ok (.text s.content)
  | none => .ok (if s.style == .plain then .ofText s.content else .text s.content)

/-- Numbers in messages are written out in full, with a point. -/
def FloatLiteral.text : FloatLiteral → String
  | finite negative m q =>
    let sign := if negative then ['-'] else []
    String.ofList (sign ++ Number.Decimal.withPoint (Number.Binary.shortest m q true).positional)
  | infinite negative => if negative then "-inf" else "inf"
  | nan => "NaN"

/-- How a message names a literal. -/
def Literal.describe : Literal → String
  | null => "unit value"
  | boolean b => s!"boolean `{b}`"
  | integer n => s!"integer `{n}`"
  | wideInteger n => if 0 ≤ n then s!"integer `{n}` as u128" else s!"integer `{n}` as i128"
  | float f => s!"floating point `{f.text}`"
  | text s => s!"string {Text.quoted s}"

end HookPlan.Yaml
