/-!
# Faults of patterns

A pattern is refused because its form is wrong, because it names characters that are not
known, or because matching it would take too much memory.

* `Fault.text`: the wording, with the pattern and marks under the place.
-/

namespace HookPlan.Pattern

/-- A part of a pattern, from one character up to another. -/
structure Span where
  start : Nat
  stop : Nat
  deriving Repr, DecidableEq, Inhabited

/-- From the start of one part to the end of another. -/
def Span.to (a b : Span) : Span := ⟨a.start, b.stop⟩

inductive Cause where
  | classEscape
  | classRange
  | classRangeBoundary
  | classUnclosed
  | decimalEmpty
  | decimalInvalid
  | hexEmpty
  | hexInvalid
  | hexDigit
  | escapeEnds
  | escapeUnknown
  | flagDangling
  | flagDuplicate
  | flagRepeatedNegation
  | flagEnds
  | flagUnknown
  | nameDuplicate
  | nameEmpty
  | nameInvalid
  | nameEnds
  | groupUnclosed
  | groupUnopened
  | tooDeep
  | countRange
  | countEmpty
  | countUnclosed
  | nothingToRepeat
  | boundaryUnclosed
  | boundaryUnknown
  | boundaryEnds
  | propertyForm
  | backreference
  | lookAround
  | unicodeOff
  | invalidText
  | propertyUnknown
  | propertyValueUnknown
  deriving Repr, DecidableEq

/-- How deep groups and classes may be nested. -/
def maxDepth : Nat := 250

def Cause.text : Cause → String
  | classEscape => "invalid escape sequence found in character class"
  | classRange => "invalid character class range, the start must be <= the end"
  | classRangeBoundary => "invalid range boundary, must be a literal"
  | classUnclosed => "unclosed character class"
  | decimalEmpty => "decimal literal empty"
  | decimalInvalid => "decimal literal invalid"
  | hexEmpty => "hexadecimal literal empty"
  | hexInvalid => "hexadecimal literal is not a Unicode scalar value"
  | hexDigit => "invalid hexadecimal digit"
  | escapeEnds => "incomplete escape sequence, reached end of pattern prematurely"
  | escapeUnknown => "unrecognized escape sequence"
  | flagDangling => "dangling flag negation operator"
  | flagDuplicate => "duplicate flag"
  | flagRepeatedNegation => "flag negation operator repeated"
  | flagEnds => "expected flag but got end of regex"
  | flagUnknown => "unrecognized flag"
  | nameDuplicate => "duplicate capture group name"
  | nameEmpty => "empty capture group name"
  | nameInvalid => "invalid capture group character"
  | nameEnds => "unclosed capture group name"
  | groupUnclosed => "unclosed group"
  | groupUnopened => "unopened group"
  | tooDeep => s!"exceed the maximum number of nested parentheses/brackets ({maxDepth})"
  | countRange => "invalid repetition count range, the start must be <= the end"
  | countEmpty => "repetition quantifier expects a valid decimal"
  | countUnclosed => "unclosed counted repetition"
  | nothingToRepeat => "repetition operator missing expression"
  | boundaryUnclosed =>
    "special word boundary assertion is either unclosed or contains an invalid character"
  | boundaryUnknown => "unrecognized special word boundary assertion, valid choices are: "
    ++ "start, end, start-half or end-half"
  | boundaryEnds => "found either the beginning of a special word boundary or a bounded "
    ++ "repetition on a \\b with an opening brace, but no closing brace"
  | propertyForm => "invalid Unicode character class"
  | backreference => "backreferences are not supported"
  | lookAround => "look-around, including look-ahead and look-behind, is not supported"
  | unicodeOff => "Unicode not allowed here"
  | invalidText => "pattern can match invalid UTF-8"
  | propertyUnknown => "Unicode property not found"
  | propertyValueUnknown => "Unicode property value not found"

/-- Why a text is no pattern. -/
inductive Fault where
  /-- What is wrong with its form, where, and what that is at odds with. -/
  | malformed (cause : Cause) (place : Span) (other : Option Span)
  | tooLarge
  deriving Repr, DecidableEq

/-- The most memory that the states of a pattern may take. -/
def maxBytes : Nat := 10 * Nat.pow 2 20

/-- A place in a pattern that has lines: both count from one. -/
structure Place where
  line : Nat
  column : Nat
  deriving Repr, DecidableEq

/-- The place of the character with index `n`. -/
def placeAt (line column : Nat) : Nat → List Char → Place
  | 0, _ => ⟨line, column⟩
  | _, [] => ⟨line, column⟩
  | n + 1, '\n' :: cs => placeAt (line + 1) 1 n cs
  | n + 1, _ :: cs => placeAt line (column + 1) n cs

/-- The lines of a pattern. A line break at the end starts no line of its own. -/
def linesOf (cs : List Char) : List (List Char) :=
  let rec go (line : List Char) : List Char → List (List Char)
    | [] => if line.isEmpty then [] else [line.reverse]
    | '\n' :: cs => (if line.head? == some '\r' then line.tail else line).reverse :: go [] cs
    | c :: cs => go (c :: line) cs
  go [] cs

def isBefore (a b : Place × Place) : Bool :=
  a.1.column < b.1.column || (a.1.column == b.1.column && a.2.column ≤ b.2.column)

/-- Marks under the parts of one line. -/
def marks (column : Nat) : List (Place × Place) → List Char
  | [] => []
  | (a, b) :: rest =>
    let blanks := a.column - column
    let width := max 1 (b.column - a.column)
    List.replicate blanks ' ' ++ List.replicate width '^' ++ marks (column + blanks + width) rest

/-- The lines of a pattern, each with marks under it where it has parts to show. -/
def notated (pattern : List Char) (spans : List Span) : List Char :=
  let places := spans.map fun s => (placeAt 1 1 s.start pattern, placeAt 1 1 s.stop pattern)
  let lines := linesOf pattern
  let count := lines.length + (if pattern.getLast? == some '\n' then 1 else 0)
  let width := if count ≤ 1 then 0 else (toString count).length
  let label (i : Nat) : List Char :=
    if width == 0 then List.replicate 4 ' '
    else
      let n := (toString (i + 1)).toList
      List.replicate (width - n.length) ' ' ++ n ++ [':', ' ']
  let padding := List.replicate (if width == 0 then 4 else width + 2) ' '
  (lines.mapIdx fun i line =>
    let here := (places.filter fun p => p.1.line == i + 1 && p.2.line == i + 1).mergeSort isBefore
    label i ++ line ++ ['\n']
      ++ if here.isEmpty then [] else padding ++ marks 1 here ++ ['\n']).flatten

def joinLines (lines : List String) : String := "\n".intercalate lines

/-- The wording of a fault of a pattern. -/
def Fault.text (pattern : String) : Fault → String
  | tooLarge => s!"Compiled regex exceeds size limit of {maxBytes} bytes."
  | malformed cause place other =>
    let cs := pattern.toList
    let spans := place :: other.toList
    let shown := String.ofList (notated cs spans)
    if cs.contains '\n' then
      let divider := String.ofList (List.replicate 79 '~')
      let long := (spans.map fun s => (placeAt 1 1 s.start cs, placeAt 1 1 s.stop cs)).filter
        fun p => p.1.line != p.2.line
      let notes := long.map fun (a, b) =>
        s!"on line {a.line} (column {a.column}) through line {b.line} (column {b.column - 1})"
      let notes := if notes.isEmpty then "" else joinLines notes ++ "\n"
      s!"regex parse error:\n{divider}\n{shown}{divider}\n{notes}error: {cause.text}"
    else s!"regex parse error:\n{shown}error: {cause.text}"

end HookPlan.Pattern
