import HookPlan.Pattern.Expr
import HookPlan.Unicode.Fold
import HookPlan.Unicode.Property

/-!
# Patterns under flags

What the parts of a pattern stand for depends on the flags in force where they stand.

* `SetItem.ranges`, `SetTerm.ranges`: the characters of sets.
* `Ast.expr`: the expression of a pattern, and the flags in force after it.
-/

namespace HookPlan.Pattern

open Unicode (Ranges)

structure Flags where
  caseInsensitive : Bool := false
  multiLine : Bool := false
  dotMatchesNewLine : Bool := false
  swapGreed : Bool := false
  unicode : Bool := true
  crlf : Bool := false
  deriving Repr, DecidableEq, Inhabited

namespace Flags

def apply (f : Flags) : Flag × Bool → Flags
  | (.caseInsensitive, on) => { f with caseInsensitive := on }
  | (.multiLine, on) => { f with multiLine := on }
  | (.dotMatchesNewLine, on) => { f with dotMatchesNewLine := on }
  | (.swapGreed, on) => { f with swapGreed := on }
  | (.unicode, on) => { f with unicode := on }
  | (.crlf, on) => { f with crlf := on }
  | (.ignoreSpace, _) => f

/-- A set with the characters that differ in case only, if case does not matter. -/
def fold (f : Flags) (r : Ranges) : Ranges :=
  if !f.caseInsensitive then r
  else if f.unicode then Unicode.Ranges.fold r else Unicode.Ranges.asciiFold r

/-- A set that stands at some place. Without Unicode it holds no characters beyond the first
128. -/
def checked (f : Flags) (span : Span) (r : Ranges) : Except Fault Ranges :=
  if !f.unicode && r.any (0x7F < ·.2) then .error (.malformed .invalidText span none) else .ok r

/-- A set or what is outside of it. Case is considered first. -/
def foldNegate (f : Flags) (span : Span) (negated : Bool) (r : Ranges) : Except Fault Ranges :=
  let r := f.fold r
  f.checked span (if negated then Ranges.compl r else r)

/-- A character. Without Unicode a byte that is no character means nothing. -/
def scalar (f : Flags) (l : Literal) : Except Fault Char :=
  if !f.unicode && l.isByte && 0x7F < l.char.toNat then
    .error (.malformed .invalidText l.span none)
  else .ok l.char

/-- A character of a set. -/
def setChar (f : Flags) (l : Literal) : Except Fault Char := do
  let c ← f.scalar l
  if !f.unicode && 0x7F < c.toNat then .error (.malformed .unicodeOff l.span none) else .ok c

def asciiDigits : Ranges := [(0x30, 0x39)]

def asciiSpaces : Ranges := [(0x09, 0x0D), (0x20, 0x20)]

def asciiWords : Ranges := [(0x30, 0x39), (0x41, 0x5A), (0x5F, 0x5F), (0x61, 0x7A)]

/-- The characters of a class with a name of one letter. -/
def shorthand (f : Flags) (span : Span) (negated : Bool) (name : Shorthand) :
    Except Fault Ranges :=
  let r := match name, f.unicode with
    | .digit, true => Unicode.digitRanges
    | .space, true => Unicode.spaceRanges
    | .word, true => Unicode.wordRanges
    | .digit, false => asciiDigits
    | .space, false => asciiSpaces
    | .word, false => asciiWords
  f.checked span (if negated then Ranges.compl r else r)

/-- The characters with a property. -/
def property (f : Flags) (span : Span) (negated : Bool) (name : PropertyName) :
    Except Fault Ranges :=
  if !f.unicode then .error (.malformed .unicodeOff span none)
  else
    let found := match name with
      | .named n => Unicode.Property.named n
      | .valued p v => Unicode.Property.valued p v
    match found with
    | .ok r => f.foldNegate span negated r
    | .error .unknownProperty => .error (.malformed .propertyUnknown span none)
    | .error .unknownValue => .error (.malformed .propertyValueUnknown span none)

end Flags

def SetOperator.apply : SetOperator → Ranges → Ranges → Ranges
  | .intersection => Ranges.inter
  | .difference => Ranges.diff
  | .symmetricDifference => Ranges.symmDiff

mutual

/-- The characters of a part of a set. -/
def SetItem.ranges (f : Flags) : SetItem → Except Fault Ranges
  | .empty _ => .ok []
  | .literal l => do
    let c ← f.setChar l
    return [(c.toNat, c.toNat)]
  | .range first last => do
    let a ← f.setChar first
    let b ← f.setChar last
    return Ranges.inter [(a.toNat, b.toNat)] Ranges.all
  | .ascii span negated r => f.foldNegate span negated r
  | .shorthand span negated name => f.shorthand span negated name
  | .property span negated name => f.property span negated name
  | .bracketed span negated set => do f.foldNegate span negated (← set.ranges f)
  | .union _ items => SetItem.unionRanges f items

def SetItem.unionRanges (f : Flags) : List SetItem → Except Fault Ranges
  | [] => .ok []
  | i :: is => do
    let r ← i.ranges f
    let s ← SetItem.unionRanges f is
    return Ranges.union r s

/-- The characters of a set. -/
def SetTerm.ranges (f : Flags) : SetTerm → Except Fault Ranges
  | .item i => i.ranges f
  | .operation _ op left right => do
    let l ← left.ranges f
    let r ← right.ranges f
    return op.apply (f.fold l) (f.fold r)

end

/-- All characters that a dot stands for. -/
def dotRanges (f : Flags) : Ranges :=
  if f.dotMatchesNewLine then Ranges.all
  else if f.crlf then Ranges.diff Ranges.all [(0x0A, 0x0A), (0x0D, 0x0D)]
  else Ranges.diff Ranges.all [(0x0A, 0x0A)]

def Assertion.look (f : Flags) : Assertion → Look
  | .startLine => if f.multiLine then .lineStart f.crlf else .textStart
  | .endLine => if f.multiLine then .lineEnd f.crlf else .textEnd
  | .startText => .textStart
  | .endText => .textEnd
  | .boundary => .word .boundary f.unicode
  | .notBoundary => .word .noBoundary f.unicode
  | .boundaryStart => .word .start f.unicode
  | .boundaryEnd => .word .stop f.unicode
  | .boundaryStartHalf => .word .startHalf f.unicode
  | .boundaryEndHalf => .word .stopHalf f.unicode

/-- A character, or the set of those that differ from it in case only. -/
def literalExpr (f : Flags) (l : Literal) : Except Fault Expr := do
  let c ← f.scalar l
  if f.unicode || c.toNat ≤ 0x7F then return .ofSet (f.fold [(c.toNat, c.toNat)])
  else return .literal [c]

mutual

/-- The expression of a pattern under flags, and the flags in force after it. -/
def Ast.expr (f : Flags) : Ast → Except Fault (Expr × Flags)
  | .empty => .ok (.empty, f)
  | .flags changes => .ok (.empty, changes.foldl Flags.apply f)
  | .literal l => do return (← literalExpr f l, f)
  | .dot span =>
    if f.unicode then .ok (.ofSet (dotRanges f), f)
    else .error (.malformed .invalidText span none)
  | .assertion a => .ok (.look (a.look f), f)
  | .shorthand span negated name => do return (.ofSet (← f.shorthand span negated name), f)
  | .property span negated name => do return (.ofSet (← f.property span negated name), f)
  | .bracketed span negated set => do
    return (.ofSet (← f.foldNegate span negated (← set.ranges f)), f)
  | .repetition _ min max greedy sub => do
    let (e, f) ← sub.expr f
    return (.repetition min max (greedy != f.swapGreed) e, f)
  | .group _ (.capture index) sub => do
    let (e, _) ← sub.expr f
    return (.capture index e, f)
  | .group _ (.plain changes) sub => do
    let (e, _) ← sub.expr (changes.foldl Flags.apply f)
    return (e, f)
  | .alternation _ parts => do
    let (es, f) ← Ast.exprs f parts
    return (.choice es, f)
  | .concat _ parts => do
    let (es, f) ← Ast.exprs f parts
    return (.sequence es, f)

/-- The expressions of several patterns; flags carry over from each to the next. -/
def Ast.exprs (f : Flags) : List Ast → Except Fault (List Expr × Flags)
  | [] => .ok ([], f)
  | a :: as => do
    let (e, f) ← a.expr f
    let (es, f) ← Ast.exprs f as
    return (e :: es, f)

end

end HookPlan.Pattern
