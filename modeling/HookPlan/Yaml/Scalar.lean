import HookPlan.Yaml.Fault
import HookPlan.Yaml.Token

/-!
# Reading scalars

The content of a scalar is what its characters stand for: line breaks are folded, escapes
are decoded and indentation is dropped.

* `Cursor.quoted`: a scalar between quotes of either kind.
* `Cursor.plain`: a scalar without quotes, which ends where its line ends or where an
  indicator follows.
* `Cursor.block`: a literal or folded scalar, line by line.

Every loop counts down from the number of characters left, and each of its rounds takes
at least one of them.
-/

namespace HookPlan.Yaml

/-- Line breaks gathered between two words: the first one and the ones after it. -/
structure Breaks where
  first : List Char := []
  more : List Char := []

/-- What a run of line breaks between two words stands for: one break is a space, each
further one a line feed. The separators that keep their identity are never folded. -/
def Breaks.fold (b : Breaks) : List Char :=
  match b.first with
  | '\n' :: _ => if b.more.isEmpty then [' '] else b.more
  | _ => b.first ++ b.more

/-- What lies between two words of a flow scalar. -/
inductive Gap where
  /-- Blanks in one line: they stand for themselves. -/
  | blanks (run : List Char)
  /-- Line breaks, with the blanks around them dropped. -/
  | breaks (b : Breaks)

def Gap.content : Gap → List Char
  | .blanks run => run
  | .breaks b => b.fold

/-- Adds one line break to a gap; blanks before the first break are dropped. -/
def Gap.addBreak : Gap → List Char → Gap
  | .blanks _, ch => .breaks ⟨ch, []⟩
  | .breaks b, ch => .breaks { b with more := b.more ++ ch }

/-- Adds one blank to a gap; after a line break it counts as indentation and is dropped. -/
def Gap.addBlank : Gap → Char → Gap
  | .blanks run, ch => .blanks (run ++ [ch])
  | .breaks b, _ => .breaks b

def Gap.broken : Gap → Bool
  | .blanks _ => false
  | .breaks _ => true

namespace Cursor

/-- The blanks and line breaks that are next. `check` refuses a blank at its place. -/
def gap (check : Gap → Cursor → Option Fault) : Nat → Gap → Cursor → Except Fault (Gap × Cursor)
  | 0, g, c => .ok (g, c)
  | fuel + 1, g, c =>
    match c.peek? with
    | none => .ok (g, c)
    | some ch =>
      if isBlank ch then
        match check g c with
        | some fault => .error fault
        | none => gap check fuel (g.addBlank ch) c.advance
      else if isBreak ch then
        let (content, c) := c.advanceLine
        gap check fuel (g.addBreak content) c
      else .ok (g, c)

/-- The value of a hexadecimal digit. -/
def hexValue (c : Char) : Option Nat :=
  if c.isDigit then some (c.toNat - '0'.toNat)
  else if 'a' ≤ c ∧ c ≤ 'f' then some (c.toNat - 'a'.toNat + 10)
  else if 'A' ≤ c ∧ c ≤ 'F' then some (c.toNat - 'A'.toNat + 10)
  else none

/-- The number that a list of hexadecimal digits stands for. -/
def hexNumber (digits : List Char) : Option Nat :=
  digits.foldl (fun acc c => do return 16 * (← acc) + (← hexValue c)) (some 0)

/-- What follows the backslash of an escape. -/
inductive Escape where
  | char (c : Char)
  | code (digits : Nat)

def escape? : Char → Option Escape
  | '0' => some (.char '\x00')
  | 'a' => some (.char '\x07')
  | 'b' => some (.char '\x08')
  | 't' => some (.char '\t')
  | '\t' => some (.char '\t')
  | 'n' => some (.char '\n')
  | 'v' => some (.char '\x0b')
  | 'f' => some (.char '\x0c')
  | 'r' => some (.char '\r')
  | 'e' => some (.char '\x1b')
  | ' ' => some (.char ' ')
  | '"' => some (.char '"')
  | '/' => some (.char '/')
  | '\\' => some (.char '\\')
  | 'N' => some (.char '\u0085')
  | '_' => some (.char '\u00a0')
  | 'L' => some (.char '\u2028')
  | 'P' => some (.char '\u2029')
  | 'x' => some (.code 2)
  | 'u' => some (.code 4)
  | 'U' => some (.code 8)
  | _ => none

/-- The character that an escape in double quotes stands for; the cursor is at the backslash. -/
def readEscape (start : Mark) (c : Cursor) : Except Fault (Char × Cursor) :=
  match c.rest[1]?.bind escape? with
  | none => .error (.inside .escapeUnknown c.mark .quotedEscape start)
  | some (.char ch) => .ok (ch, c.advanceBy 2)
  | some (.code digits) =>
    let c := c.advanceBy 2
    let run := c.rest.take digits
    match hexNumber run, run.length == digits with
    | some n, true =>
      if n.isValidChar then .ok (Char.ofNat n, c.advanceBy digits)
      else .error (.inside .escapeNotCharacter c.mark .quotedEscape start)
    | _, _ => .error (.inside .hexExpected c.mark .quotedEscape start)

/-- The kinds of quotes. -/
inductive Quote where
  | single
  | double
  deriving DecidableEq

def Quote.char : Quote → Char
  | .single => '\''
  | .double => '"'

def Quote.style : Quote → ScalarStyle
  | .single => .singleQuoted
  | .double => .doubleQuoted

/-- A run without blanks inside quotes. It ends at a blank, at a line break, at the
closing quote, or after an escaped line break, which starts a gap without content. -/
def quotedWord (q : Quote) (start : Mark) :
    Nat → List Char → Cursor → Except Fault (List Char × Bool × Cursor)
  | 0, acc, c => .ok (acc, false, c)
  | fuel + 1, acc, c =>
    match c.rest with
    | [] => .ok (acc, false, c)
    | ch :: next =>
      if isBlank ch || isBreak ch then .ok (acc, false, c)
      else if q == .single && ch == '\'' && next.head? == some '\'' then
        quotedWord q start fuel ('\'' :: acc) (c.advanceBy 2)
      else if ch == q.char then .ok (acc, false, c)
      else if q == .double && ch == '\\' then
        if next.head?.any isBreak then .ok (acc, true, c.advance.advanceLine.2)
        else do
          let (escaped, c) ← c.readEscape start
          quotedWord q start fuel (escaped :: acc) c
      else quotedWord q start fuel (ch :: acc) c.advance

/-- The words and gaps of a quoted scalar, up to its closing quote. -/
def quotedWords (q : Quote) (start : Mark) :
    Nat → List Char → Cursor → Except Fault (List Char × Cursor)
  | 0, acc, c => .ok (acc, c)
  | fuel + 1, acc, c => do
    if c.atSeparator then throw (.inside .separatorInQuotes c.mark .quotedScalar start)
    if c.rest.isEmpty then throw (.inside .endInQuotes c.mark .quotedScalar start)
    let (acc, joined, c) ← c.quotedWord q start c.rest.length acc
    if c.looksAt q.char then return (acc, c.advance)
    let (g, c) ← c.gap (fun _ _ => none) c.rest.length (if joined then .breaks {} else .blanks [])
    quotedWords q start fuel (g.content.reverse ++ acc) c

/-- A quoted scalar; the cursor is at its opening quote. -/
def quoted (q : Quote) (c : Cursor) : Except Fault (Token × Cursor) := do
  let (acc, stop) ← c.advance.quotedWords q c.mark (c.rest.length + 1) []
  return (⟨.scalar (String.ofList acc.reverse) q.style, c.mark, stop.mark⟩, stop)

/-- The characters that set flow collections apart from the scalars in them. -/
def isFlowIndicator (c : Char) : Bool :=
  c == ',' || c == '[' || c == ']' || c == '{' || c == '}'

/-- A run without blanks of a plain scalar. -/
def plainWord (inFlow : Bool) (start : Mark) :
    Nat → List Char → Cursor → Except Fault (List Char × Cursor)
  | 0, acc, c => .ok (acc, c)
  | fuel + 1, acc, c =>
    match c.rest with
    | [] => .ok (acc, c)
    | ch :: next =>
      if isBlank ch || isBreak ch then .ok (acc, c)
      else if inFlow && ch == ':' && next.head?.any (fun n => isFlowIndicator n || n == '?') then
        .error (.inside .colonUnexpected c.mark .plainScalar start)
      else if (ch == ':' && blankOrEnd next) || (inFlow && isFlowIndicator ch) then .ok (acc, c)
      else plainWord inFlow start fuel (ch :: acc) c.advance

/-- The words and gaps of a plain scalar. `gap` is what stands before the next word, and
`stop` the place after the last one. The flag says whether the scalar ended after a line break. -/
def plainWords (inFlow : Bool) (indent : Int) (start : Mark) :
    Nat → List Char → Gap → Mark → Cursor → Except Fault (List Char × Mark × Bool × Cursor)
  | 0, acc, g, stop, c => .ok (acc, stop, g.broken, c)
  | fuel + 1, acc, g, stop, c => do
    if c.atSeparator || c.looksAt '#' then return (acc, stop, g.broken, c)
    let (word, c) ← c.plainWord inFlow start c.rest.length []
    let (acc, g, stop) :=
      if word.isEmpty then (acc, g, stop)
      else (word ++ g.content.reverse ++ acc, Gap.blanks [], c.mark)
    unless c.looksAtAny (fun ch => isBlank ch || isBreak ch) do
      return (acc, stop, g.broken, c)
    let check (g : Gap) (c : Cursor) : Option Fault :=
      if g.broken && (c.column : Int) < indent && c.looksAt '\t' then
        some (.inside .tabIndents c.mark .plainScalar start)
      else none
    let (g, c) ← c.gap check c.rest.length g
    if !inFlow && (c.column : Int) < indent then return (acc, stop, g.broken, c)
    plainWords inFlow indent start fuel acc g stop c

/-- A plain scalar, whose further lines are indented by `indent` at least. The flag says
whether the cursor went on to a new line after it. -/
def plain (inFlow : Bool) (indent : Int) (c : Cursor) : Except Fault (Token × Bool × Cursor) := do
  let (acc, stop, broken, c') ←
    c.plainWords inFlow indent c.mark (c.rest.length + 1) [] (.blanks []) c.mark
  return (⟨.scalar (String.ofList acc.reverse) .plain, c.mark, stop⟩, broken, c')

/-- What becomes of the line breaks at the end of a block scalar. -/
inductive Chomping where
  | strip
  | clip
  | keep
  deriving DecidableEq

def chomping? : Char → Option Chomping
  | '+' => some .keep
  | '-' => some .strip
  | _ => none

/-- The optional digit of a block scalar's header. -/
def readIncrement (start : Mark) (c : Cursor) : Except Fault (Option Nat × Cursor) :=
  match c.peek? with
  | some ch =>
    if ch == '0' then .error (.inside .indentationZero c.mark .blockScalar start)
    else if ch.isDigit then .ok (some (ch.toNat - '0'.toNat), c.advance)
    else .ok (none, c)
  | none => .ok (none, c)

/-- The header of a block scalar: chomping and indentation in either order. -/
def readHeader (start : Mark) (c : Cursor) : Except Fault (Chomping × Option Nat × Cursor) :=
  match c.peek?.bind chomping? with
  | some chomp => do
    let (increment, c) ← c.advance.readIncrement start
    return (chomp, increment, c)
  | none => do
    let (increment, c) ← c.readIncrement start
    match increment, c.peek?.bind chomping? with
    | some _, some chomp => return (chomp, increment, c.advance)
    | _, _ => return (.clip, increment, c)

/-- Skips indentation and empty lines, gathering the breaks of the latter. Without a known
indentation every leading space belongs to it, and `deepest` is the longest run seen. -/
def blockBreaks (indent : Option Nat) (start : Mark) :
    Nat → List Char → Nat → Mark → Cursor → Except Fault (List Char × Nat × Mark × Cursor)
  | 0, acc, deepest, stop, c => .ok (acc, deepest, stop, c)
  | fuel + 1, acc, deepest, stop, c =>
    let room := match indent with
      | none => c.rest.length
      | some n => n - c.column
    let spaces := ((c.rest.take room).takeWhile (· == ' ')).length
    let c := c.advanceBy spaces
    let deepest := max deepest c.column
    let short := match indent with
      | none => true
      | some n => decide (c.column < n)
    if short && c.looksAt '\t' then
      .error (.inside .tabInIndentation c.mark .blockScalar start)
    else if c.looksAtAny isBreak then
      let (content, c) := c.advanceLine
      blockBreaks indent start fuel (acc ++ content) deepest c.mark c
    else .ok (acc, deepest, stop, c)

/-- The lines of a block scalar. `lead` is the break that ended the line before, `more` the
empty lines after it, and `blank` tells whether that line began with a blank. -/
def blockLines (folded : Bool) (indent : Nat) (start : Mark) :
    Nat → List Char → List Char → List Char → Bool → Mark → Cursor →
      Except Fault (List Char × List Char × List Char × Mark × Cursor)
  | 0, acc, lead, more, _, stop, c => .ok (acc, lead, more, stop, c)
  | fuel + 1, acc, lead, more, blank, stop, c =>
    if c.column == indent && !c.rest.isEmpty then do
      let blankNow := c.looksAtAny isBlank
      let joined :=
        if folded && lead.head? == some '\n' && !blank && !blankNow then
          if more.isEmpty then [' '] else []
        else lead
      let (line, c) := c.span fun ch => !isBreak ch
      let (lead, c) := c.advanceLine
      let acc := line.reverse ++ more.reverse ++ joined.reverse ++ acc
      let (more, _, stop, c) ← c.blockBreaks (some indent) start (c.rest.length + 1) [] 0 c.mark
      blockLines folded indent start fuel acc lead more blankNow stop c
    else .ok (acc, lead, more, stop, c)

/-- A block scalar inside a collection indented by `parent` (-1 outside all collections);
the cursor is at its indicator. -/
def block (folded : Bool) (parent : Int) (c : Cursor) : Except Fault (Token × Cursor) := do
  let start := c.mark
  let (chomp, increment, c) ← c.advance.readHeader start
  let c := c.skipBlanks.skipComment
  unless c.atLineEnd do throw (.inside .lineEndExpected c.mark .blockScalar start)
  let c := c.advanceLine.2
  let declared := increment.map fun n => (if parent ≥ 0 then parent.toNat + n else n)
  let (more, deepest, stop, c) ← c.blockBreaks declared start (c.rest.length + 1) [] 0 c.mark
  let indent := declared.getD (max (max deepest (parent + 1).toNat) 1)
  let (acc, lead, more, stop, c) ←
    c.blockLines folded indent start (c.rest.length + 1) [] [] more false stop
  let tail := match chomp with
    | .strip => []
    | .clip => lead
    | .keep => lead ++ more
  let style := if folded then ScalarStyle.folded else .literal
  return (⟨.scalar (String.ofList (acc.reverse ++ tail)) style, start, stop⟩, c)

end Cursor

end HookPlan.Yaml
