import HookPlan.Pattern.Ast
import HookPlan.Unicode.Property
import HookPlan.Unicode.Space

/-!
# Reading patterns

* `Ast.parse`: the form of a pattern, or what is wrong with its text.
-/

namespace HookPlan.Pattern

open Unicode (Ranges)

/-- What is still to be read of a pattern, and what has been seen. -/
structure State where
  rest : List Char
  position : Nat := 0
  /-- Spaces and comments stand for nothing. -/
  ignoreSpace : Bool := false
  /-- The names of groups, with their places. -/
  names : List (List Char × Span) := []
  captures : Nat := 0

abbrev Reader := StateT State (Except Fault)

namespace Reader

variable {α : Type}

def fail (cause : Cause) (span : Span) : Reader α := throw (.malformed cause span none)

def position : Reader Nat := return (← get).position

/-- The empty part where reading stands. -/
def here : Reader Span := do
  let p ← position
  return ⟨p, p⟩

/-- The next character as a part. -/
def nextSpan : Reader Span := do
  let p ← position
  return ⟨p, p + 1⟩

/-- From a position to where reading stands. -/
def since (start : Nat) : Reader Span := return ⟨start, ← position⟩

def peek? : Reader (Option Char) := return (← get).rest.head?

def atEnd : Reader Bool := return (← get).rest.isEmpty

/-- Past `n` characters. -/
def drop (n : Nat) : Reader Unit :=
  modify fun s => { s with rest := s.rest.drop n, position := s.position + min n s.rest.length }

/-- Past the next character. -/
def skip : Reader Unit := drop 1

/-- How many characters spaces and comments take. A comment ends with its line. -/
def blankLength (comment : Bool) : List Char → Nat
  | [] => 0
  | c :: cs =>
    if comment then 1 + blankLength (c != '\n') cs
    else if Unicode.isSpace c then 1 + blankLength false cs
    else if c == '#' then 1 + blankLength true cs
    else 0

/-- Past spaces and comments, where they stand for nothing. -/
def skipBlank : Reader Unit := do
  let s ← get
  if s.ignoreSpace then drop (blankLength false s.rest)

/-- Past the next character and the blanks after it. Says whether anything is left. -/
def step : Reader Bool := do
  skip
  skipBlank
  return !(← atEnd)

/-- Past a text, if it is next. -/
def skipIf (text : String) : Reader Bool := do
  let s ← get
  let cs := text.toList
  if cs.isPrefixOf s.rest then do
    drop cs.length
    return true
  else return false

/-- Takes characters with a property and the blanks between them. `fuel` bounds how many. -/
def spaced (p : Char → Bool) : Nat → Reader (List Char)
  | 0 => return []
  | fuel + 1 => do
    match ← peek? with
    | some c =>
      if p c then do
        let _ ← step
        let cs ← spaced p fuel
        return c :: cs
      else return []
    | none => return []

/-- An upper bound for the number of characters to be read. -/
def bound : Reader Nat := return (← get).rest.length + 1

end Reader

open Reader

/-! ### Escapes -/

/-- What an escape or a single character stands for. -/
inductive Primitive where
  | literal (l : Literal)
  | dot (span : Span)
  | assertion (span : Span) (a : Assertion)
  | shorthand (span : Span) (negated : Bool) (name : Shorthand)
  | property (span : Span) (negated : Bool) (name : PropertyName)

namespace Primitive

def span : Primitive → Span
  | literal l => l.span
  | dot span | assertion span _ | shorthand span _ _ | property span _ _ => span

def ast : Primitive → Ast
  | literal l => .literal l
  | dot span => .dot span
  | assertion _ a => .assertion a
  | shorthand span negated name => .shorthand span negated name
  | property span negated name => .property span negated name

/-- A part of a set. Places are none. -/
def setItem : Primitive → Except Fault SetItem
  | literal l => .ok (.literal l)
  | shorthand span negated name => .ok (.shorthand span negated name)
  | property span negated name => .ok (.property span negated name)
  | p => .error (.malformed .classEscape p.span none)

/-- An end of a range. -/
def rangeEnd : Primitive → Except Fault Literal
  | literal l => .ok l
  | p => .error (.malformed .classRangeBoundary p.span none)

end Primitive

/-- Characters that mean something else without a backslash. -/
def isMeta (c : Char) : Bool := "\\.+*?()|[]\x7b\x7d^$#&-~".toList.contains c

/-- Characters that a backslash leaves as they are. -/
def isEscapable (c : Char) : Bool :=
  isMeta c || (c.toNat < 0x80 && !c.isAlphanum && c != '<' && c != '>')

def hexDigit? (c : Char) : Option Nat :=
  if c.isDigit then some (c.toNat - '0'.toNat)
  else if 'a' ≤ c && c ≤ 'f' then some (c.toNat - 'a'.toNat + 10)
  else if 'A' ≤ c && c ≤ 'F' then some (c.toNat - 'A'.toNat + 10)
  else none

/-- The character with a number in base sixteen. -/
def scalar? (digits : List Char) : Option Char :=
  let n := digits.foldl (fun n c => 16 * n + (hexDigit? c).getD 0) 0
  if n < 0xd800 || (0xdfff < n && n < 0x110000) then some (Char.ofNat n) else none

/-- The rest of a number in braces, up to the closing one. -/
def bracedDigits : Nat → Reader (List Char)
  | 0 => return []
  | fuel + 1 => do
    if !(← step) then return []
    match ← peek? with
    | none => return []
    | some '\x7d' => return []
    | some c =>
      if (hexDigit? c).isNone then fail .hexDigit (← nextSpan)
      else do
        let cs ← bracedDigits fuel
        return c :: cs

/-- A character from its number in braces. -/
def bracedHex : Reader Char := do
  let brace ← position
  let digits ← bracedDigits (← bound)
  if ← atEnd then fail .escapeEnds (← since brace)
  let stop ← position
  let _ ← step
  if digits.isEmpty then fail .hexEmpty (← since brace)
  match scalar? digits with
  | some c => return c
  | none => fail .hexInvalid ⟨brace + 1, stop⟩

/-- Exactly `n` digits of a number. -/
def fixedDigits : Nat → Reader (List Char)
  | 0 => return []
  | n + 1 => do
    match ← peek? with
    | none => fail .escapeEnds (← here)
    | some c =>
      if (hexDigit? c).isNone then fail .hexDigit (← nextSpan)
      else do
        let _ ← step
        let cs ← fixedDigits n
        return c :: cs

/-- A character from its number; the letter that says how many digits there are is next. -/
def hexEscape (start : Nat) (letter : Char) : Reader Literal := do
  if !(← step) then fail .escapeEnds (← here)
  if (← peek?) == some '\x7b' then
    let c ← bracedHex
    return { span := ← since start, char := c }
  else
    let first ← position
    let digits ← fixedDigits (if letter == 'x' then 2 else if letter == 'u' then 4 else 8)
    match scalar? digits with
    | some c => return { span := ← since start, char := c, isByte := letter == 'x' }
    | none => fail .hexInvalid (← since first)

/-- The characters before a separator and those after it. -/
def splitAt? (separator : List Char) : List Char → Option (List Char × List Char)
  | [] => none
  | c :: cs =>
    if separator.isPrefixOf (c :: cs) then some ([], (c :: cs).drop separator.length)
    else (splitAt? separator cs).map fun (a, b) => (c :: a, b)

/-- A name of a property, with its value where there is one. -/
def PropertyName.ofText (name : List Char) : PropertyName :=
  match splitAt? ['!', '='] name <|> splitAt? [':'] name <|> splitAt? ['='] name with
  | some (property, value) => .valued property value
  | none => .named name

/-- A class of characters with a property; the letter is next. -/
def propertyEscape (start : Nat) (negated : Bool) : Reader Primitive := do
  if !(← step) then fail .escapeEnds (← here)
  match ← peek? with
  | some '\x7b' =>
    let more ← step
    let name ← if more then spaced (· != '\x7d') (← bound) else pure []
    if ← atEnd then fail .escapeEnds (← here)
    skip
    return .property (← since start) negated (.ofText name)
  | some '\\' => fail .propertyForm (← nextSpan)
  | some c =>
    let _ ← step
    return .property (← since start) negated (.named [c])
  | none => fail .escapeEnds (← here)

def isBoundaryChar (c : Char) : Bool := ('A' ≤ c && c ≤ 'Z') || ('a' ≤ c && c ≤ 'z') || c == '-'

/-- A kind of boundary in braces. Where the braces hold no name, they are left for a count. -/
def boundaryKind? (start : Nat) : Reader (Option Assertion) := do
  let before ← get
  let brace ← position
  if !(← step) then fail .boundaryEnds (← since start)
  let contents ← position
  if !((← peek?).any isBoundaryChar) then
    set before
    return none
  let name ← spaced isBoundaryChar (← bound)
  if (← peek?) != some '\x7d' then fail .boundaryUnclosed (← since brace)
  let stop ← position
  skip
  let known : List (String × Assertion) := [("start", .boundaryStart), ("end", .boundaryEnd),
    ("start-half", .boundaryStartHalf), ("end-half", .boundaryEndHalf)]
  match known.lookup (String.ofList name) with
  | some a => return some a
  | none => fail .boundaryUnknown ⟨contents, stop⟩

def shorthand? (c : Char) : Option (Bool × Shorthand) :=
  match c with
  | 'd' => some (false, .digit)
  | 'D' => some (true, .digit)
  | 's' => some (false, .space)
  | 'S' => some (true, .space)
  | 'w' => some (false, .word)
  | 'W' => some (true, .word)
  | _ => none

/-- Characters with a letter of their own. -/
def special? (c : Char) : Option Char :=
  match c with
  | 'a' => some '\x07'
  | 'f' => some '\x0c'
  | 't' => some '\t'
  | 'n' => some '\n'
  | 'r' => some '\r'
  | 'v' => some '\x0b'
  | _ => none

def assertion? (c : Char) : Option Assertion :=
  match c with
  | 'A' => some .startText
  | 'z' => some .endText
  | 'b' => some .boundary
  | 'B' => some .notBoundary
  | '<' => some .boundaryStart
  | '>' => some .boundaryEnd
  | _ => none

/-- An escape whose backslash is next. -/
def escape : Reader Primitive := do
  let start ← position
  skip
  match ← peek? with
  | none => fail .escapeEnds (← since start)
  | some c =>
    if c.isDigit then fail .backreference ⟨start, start + 2⟩
    else if c == 'x' || c == 'u' || c == 'U' then return .literal (← hexEscape start c)
    else if c == 'p' || c == 'P' then propertyEscape start (c == 'P')
    else
      skip
      let span ← since start
      match shorthand? c with
      | some (negated, name) => return .shorthand span negated name
      | none =>
      if isEscapable c then return .literal { span, char := c }
      else
      match special? c with
      | some d => return .literal { span, char := d }
      | none =>
      match assertion? c with
      | some a =>
        if c == 'b' && (← peek?) == some '\x7b' then
          match ← boundaryKind? start with
          | some kind => return .assertion (← since start) kind
          | none => return .assertion span a
        else return .assertion span a
      | none => fail .escapeUnknown span

/-! ### Sets -/

/-- The names of sets of characters of the first 128. -/
def asciiSets : List (String × Ranges) := [
  ("alnum", [(0x30, 0x39), (0x41, 0x5A), (0x61, 0x7A)]),
  ("alpha", [(0x41, 0x5A), (0x61, 0x7A)]),
  ("ascii", [(0x00, 0x7F)]),
  ("blank", [(0x09, 0x09), (0x20, 0x20)]),
  ("cntrl", [(0x00, 0x1F), (0x7F, 0x7F)]),
  ("digit", [(0x30, 0x39)]),
  ("graph", [(0x21, 0x7E)]),
  ("lower", [(0x61, 0x7A)]),
  ("print", [(0x20, 0x7E)]),
  ("punct", [(0x21, 0x2F), (0x3A, 0x40), (0x5B, 0x60), (0x7B, 0x7E)]),
  ("space", [(0x09, 0x0D), (0x20, 0x20)]),
  ("upper", [(0x41, 0x5A)]),
  ("word", [(0x30, 0x39), (0x41, 0x5A), (0x5F, 0x5F), (0x61, 0x7A)]),
  ("xdigit", [(0x30, 0x39), (0x41, 0x46), (0x61, 0x66)])]

/-- A set with a name between colons. Whatever has another form is left alone. -/
def asciiSet? : Reader (Option SetItem) := do
  let s ← get
  match s.rest with
  | '[' :: ':' :: cs =>
    let negated := cs.head? == some '^'
    let cs' := if negated then cs.drop 1 else cs
    let name := cs'.takeWhile (· != ':')
    match cs'.dropWhile (· != ':'), asciiSets.lookup (String.ofList name) with
    | ':' :: ']' :: _, some ranges =>
      let n := 2 + (if negated then 1 else 0) + name.length + 2
      drop n
      return some (.ascii ⟨s.position, s.position + n⟩ negated ranges)
    | _, _ => return none
  | _ => return none

/-- A character or an escape in a set. -/
def setPrimitive : Reader Primitive := do
  match ← peek? with
  | some '\\' => escape
  | some c =>
    let span ← nextSpan
    skip
    return .literal { span, char := c }
  | none => fail .classUnclosed (← here)

/-- The next character after the blanks that follow the next one. -/
def peekAfter : Reader (Option Char) := do
  let before ← get
  let _ ← step
  let c ← peek?
  set before
  return c

/-- A range or a single part of a set that was opened at `opening`. -/
def setRange (opening : Span) : Reader SetItem := do
  let first ← setPrimitive
  skipBlank
  if ← atEnd then fail .classUnclosed opening
  let after ← if (← peek?) == some '-' then peekAfter else pure (some ']')
  if after == some ']' || after == some '-' then first.setItem
  else
    if !(← step) then fail .classUnclosed opening
    let last ← setPrimitive
    let a ← first.rangeEnd
    let b ← last.rangeEnd
    if b.char < a.char then fail .classRange (first.span.to last.span)
    return .range a b

/-- Parts of a set as one part. -/
def unionOf (start : Span) (items : List SetItem) : SetItem :=
  match items with
  | [] => .empty start
  | [i] => i
  | i :: is => .union (i.span.to (is.getLast?.getD i).span) items

/-- A set whose operator waits for its right side. -/
abbrev PendingSet := Option (SetOperator × SetTerm)

def applyPending (pending : PendingSet) (right : SetTerm) : SetTerm :=
  match pending with
  | none => right
  | some (op, left) => .operation (left.span.to right.span) op left right

/-- Dashes at the start of a set stand for themselves. -/
def leadingDashes (start : Nat) : Nat → Reader (List SetItem)
  | 0 => return []
  | fuel + 1 => do
    if (← peek?) == some '-' then
      let span ← nextSpan
      if !(← step) then fail .classUnclosed ⟨start, start⟩
      let more ← leadingDashes start fuel
      return .literal { span, char := '-' } :: more
    else return []

/-- What opens a set: whether it is negated, the parts that stand for themselves because they
come first, and the place. -/
def openSet : Reader (Bool × List SetItem × Span) := do
  let start ← position
  if !(← step) then fail .classUnclosed (← since start)
  let negated := (← peek?) == some '^'
  if negated then
    if !(← step) then fail .classUnclosed (← since start)
  let dashes ← leadingDashes start (← bound)
  let items ←
    if dashes.isEmpty && (← peek?) == some ']' then do
      let span ← nextSpan
      if !(← step) then fail .classUnclosed (← since start)
      pure [SetItem.literal { span, char := ']' }]
    else pure dashes
  return (negated, items, ← since start)

/-- The operator that is next, if there is one. -/
def setOperator? : Reader (Option SetOperator) := do
  if ← skipIf "&&" then return some .intersection
  else if ← skipIf "--" then return some .difference
  else if ← skipIf "~~" then return some .symmetricDifference
  else return none

mutual

/-- A set in brackets. `fuel` bounds the number of steps. -/
def bracketed : Nat → Reader (Span × Bool × SetTerm)
  | 0 => do fail .classUnclosed (← here)
  | fuel + 1 => do
    let start ← position
    let (negated, items, opening) ← openSet
    let set ← setRest opening none items.reverse fuel
    return (← since start, negated, set)

/-- The rest of a set, after some parts with the last one first. -/
def setRest (opening : Span) (pending : PendingSet) (items : List SetItem) :
    Nat → Reader SetTerm
  | 0 => fail .classUnclosed opening
  | fuel + 1 => do
    skipBlank
    match ← peek? with
    | none => fail .classUnclosed opening
    | some '[' =>
      match ← asciiSet? with
      | some item => setRest opening pending (item :: items) fuel
      | none =>
        let (span, negated, set) ← bracketed fuel
        setRest opening pending (.bracketed span negated set :: items) fuel
    | some ']' =>
      let term := applyPending pending (.item (unionOf (← here) items.reverse))
      skip
      return term
    | some _ =>
      let before ← here
      match ← setOperator? with
      | some op =>
        let left := applyPending pending (.item (unionOf before items.reverse))
        setRest opening (some (op, left)) [] fuel
      | none =>
        let item ← setRange opening
        setRest opening pending (item :: items) fuel

end

/-! ### Groups and repetitions -/

def flag? (c : Char) : Option Flag :=
  match c with
  | 'i' => some .caseInsensitive
  | 'm' => some .multiLine
  | 's' => some .dotMatchesNewLine
  | 'U' => some .swapGreed
  | 'u' => some .unicode
  | 'R' => some .crlf
  | 'x' => some .ignoreSpace
  | _ => none

/-- The flags of a group up to a colon or its end, with their places. `negation` is the place
of the dash that switches flags off, `dangling` whether no flag has come after it yet. -/
def flagsRest (seen : List (Flag × Bool × Span)) (negation : Option Span) (dangling : Bool) :
    Nat → Reader (List (Flag × Bool × Span) × Bool)
  | 0 => return (seen.reverse, negation.isSome)
  | fuel + 1 => do
    let here' ← nextSpan
    let advance : Reader Unit := do
      skip
      if ← atEnd then fail .flagEnds (← here)
    match ← peek? with
    | none => fail .flagEnds (← here)
    | some c =>
      if c == ':' || c == ')' then
        match negation, dangling with
        | some dash, true => fail .flagDangling dash
        | _, _ => return (seen.reverse, negation.isSome)
      else if c == '-' then
        match negation with
        | some earlier => throw (.malformed .flagRepeatedNegation here' (some earlier))
        | none =>
          advance
          flagsRest seen (some here') true fuel
      else
        match flag? c with
        | none => fail .flagUnknown here'
        | some f =>
          match seen.find? (·.1 == f) with
          | some (_, _, earlier) => throw (.malformed .flagDuplicate here' (some earlier))
          | none =>
            advance
            flagsRest ((f, negation.isNone, here') :: seen) negation false fuel

/-- The flags of a group, and whether there is anything before the colon or the end. -/
def flags : Reader (FlagChanges × Bool) := do
  let (seen, hasNegation) ← flagsRest [] none false (← bound)
  return (seen.map fun (f, on, _) => (f, on), hasNegation || !seen.isEmpty)

/-- The characters of names of groups. -/
def isNameChar (c : Char) (first : Bool) : Bool :=
  c == '_' || Unicode.isLetter c
    || (!first && (c == '.' || c == '[' || c == ']' || Unicode.isNumber c))

def nameChars (first : Bool) : Nat → Reader (List Char)
  | 0 => return []
  | fuel + 1 => do
    match ← peek? with
    | none => return []
    | some c =>
      if c == '>' then return []
      else if !isNameChar c first then fail .nameInvalid (← nextSpan)
      else do
        skip
        let cs ← nameChars false fuel
        return c :: cs

/-- The name of a group, which no other group has. -/
def groupName : Reader Unit := do
  if ← atEnd then fail .nameEnds (← here)
  let start ← position
  let name ← nameChars true (← bound)
  let span ← since start
  if ← atEnd then fail .nameEnds (← here)
  skip
  if name.isEmpty then fail .nameEmpty ⟨start, start⟩
  match (← get).names.lookup name with
  | some earlier => throw (.malformed .nameDuplicate span (some earlier))
  | none => modify fun s => { s with names := (name, span) :: s.names }

/-- A new index for a group. -/
def newCapture : Reader Nat := do
  let n := (← get).captures + 1
  modify fun s => { s with captures := n }
  return n

/-- What opens a group: flags for the group around it, or a group of its own. -/
inductive Opening where
  | flags (changes : FlagChanges)
  | group (kind : GroupKind)

def openGroup : Reader Opening := do
  let start ← position
  skip
  skipBlank
  let inner ← here
  for look in ["?=", "?!", "?<=", "?<!"] do
    if ← skipIf look then fail .lookAround (← since start)
  let isNamed ← (do if ← skipIf "?P<" then return true else skipIf "?<")
  if isNamed then
    let index ← newCapture
    groupName
    return .group (.capture index)
  else if ← skipIf "?" then
    if ← atEnd then fail .groupUnclosed ⟨start, start + 1⟩
    let (changes, any) ← flags
    let closes := (← peek?) == some ')'
    skip
    if closes then
      if any then return .flags changes else fail .nothingToRepeat inner
    else return .group (.plain changes)
  else return .group (.capture (← newCapture))

/-- Whether spaces stand for nothing after some changes of flags. -/
def ignoresSpace (changes : FlagChanges) (before : Bool) : Bool :=
  ((changes.find? (·.1 == .ignoreSpace)).map (·.2)).getD before

/-- The part that a repetition is for: the last one, unless there is none. -/
def lastPart : List Ast → Reader (Ast × List Ast)
  | .empty :: _ | .flags _ :: _ | [] => do fail .nothingToRepeat (← here)
  | a :: as => return (a, as)

/-- The place of a part as far as it is known. -/
def Ast.start (a : Ast) (otherwise : Nat) : Nat :=
  match a with
  | .literal l => l.span.start
  | .dot span | .shorthand span _ _ | .property span _ _ | .bracketed span _ _
  | .repetition span _ _ _ _ | .group span _ _ | .alternation span _ | .concat span _ => span.start
  | .empty | .flags _ | .assertion _ => otherwise

def repetition (parts : List Ast) (min : Nat) (max : Option Nat) : Reader (List Ast) := do
  let start ← position
  let (a, as) ← lastPart parts
  skip
  let greedy := (← peek?) != some '?'
  if !greedy then skip
  return .repetition (← since (a.start start)) min max greedy a :: as

/-- The greatest count. -/
def maxCount : Nat := Nat.pow 2 32 - 1

/-- A number in a count. -/
def decimal : Reader (Except Fault Nat) := do
  let s ← get
  drop (s.rest.takeWhile Unicode.isSpace).length
  let start ← position
  let digits ← spaced Char.isDigit (← bound)
  let span ← since start
  let _ ← spaced Unicode.isSpace (← bound)
  if digits.isEmpty then return .error (.malformed .countEmpty span none)
  let n := digits.foldl (fun n d => 10 * n + (d.toNat - '0'.toNat)) 0
  if n ≤ maxCount then return .ok n else return .error (.malformed .decimalInvalid span none)

/-- A counted repetition whose opening brace is next. -/
def counted (parts : List Ast) : Reader (List Ast) := do
  let start ← position
  let (a, as) ← lastPart parts
  let unclosed {α : Type} : Reader α := do fail .countUnclosed (← since start)
  if !(← step) then unclosed
  let first ← decimal
  if ← atEnd then unclosed
  let (min, max) ←
    if (← peek?) == some ',' then do
      if !(← step) then unclosed
      if (← peek?) != some '\x7d' then do
        let min ← first
        let max ← (← decimal)
        pure (min, some max)
      else do
        let min ← first
        pure (min, none)
    else do
      let n ← first
      pure (n, some n)
  if (← peek?) != some '\x7d' then unclosed
  let more ← step
  let greedy := !(more && (← peek?) == some '?')
  if !greedy then skip
  let span ← since start
  if max.any (· < min) then fail .countRange span
  return .repetition ⟨a.start start, span.stop⟩ min max greedy a :: as

/-- A character or an escape outside of sets. -/
def primitive : Reader Primitive := do
  let span ← nextSpan
  match ← peek? with
  | some '\\' => escape
  | some '.' =>
    skip
    return .dot span
  | some '^' =>
    skip
    return .assertion span .startLine
  | some '$' =>
    skip
    return .assertion span .endLine
  | some c =>
    skip
    return .literal { span, char := c }
  | none => fail .escapeEnds span

/-- Parts in a row as one pattern. -/
def concatOf (span : Span) : List Ast → Ast
  | [] => .empty
  | [a] => a
  | as => .concat span as

mutual

/-- Patterns to choose from, up to the end of a group or of the text. `fuel` bounds the number
of steps. -/
def alternatives : Nat → Reader Ast
  | 0 => return .empty
  | fuel + 1 => do
    let start ← position
    let first ← sequence start [] fuel
    let more ← branches fuel
    if more.isEmpty then return first else return .alternation (← since start) (first :: more)

/-- The patterns after the first one. -/
def branches : Nat → Reader (List Ast)
  | 0 => return []
  | fuel + 1 => do
    if (← peek?) == some '|' then
      skip
      let a ← sequence (← position) [] fuel
      let more ← branches fuel
      return a :: more
    else return []

/-- Parts in a row, after some parts with the last one first. -/
def sequence (start : Nat) (parts : List Ast) : Nat → Reader Ast
  | 0 => return concatOf ⟨start, start⟩ parts.reverse
  | fuel + 1 => do
    skipBlank
    match ← peek? with
    | none | some ')' | some '|' => return concatOf (← since start) parts.reverse
    | some '(' =>
      let a ← group fuel
      sequence start (a :: parts) fuel
    | some '[' =>
      let (span, negated, set) ← bracketed (← bound)
      sequence start (.bracketed span negated set :: parts) fuel
    | some '?' => sequence start (← repetition parts 0 (some 1)) fuel
    | some '*' => sequence start (← repetition parts 0 none) fuel
    | some '+' => sequence start (← repetition parts 1 none) fuel
    | some '\x7b' => sequence start (← counted parts) fuel
    | some _ =>
      let p ← primitive
      sequence start (p.ast :: parts) fuel

/-- A group, or flags for the group around it. -/
def group : Nat → Reader Ast
  | 0 => return .empty
  | fuel + 1 => do
    let start ← position
    let before := (← get).ignoreSpace
    match ← openGroup with
    | .flags changes =>
      modify fun s => { s with ignoreSpace := ignoresSpace changes before }
      return .flags changes
    | .group kind =>
      let inside := match kind with
        | .plain changes => ignoresSpace changes before
        | .capture _ => before
      modify fun s => { s with ignoreSpace := inside }
      let sub ← alternatives fuel
      if ← atEnd then fail .groupUnclosed ⟨start, start + 1⟩
      modify fun s => { s with ignoreSpace := before }
      skip
      return .group (← since start) kind sub

end

/-- The form of a pattern. -/
def Ast.parse (text : List Char) : Except Fault Ast := do
  let whole : Reader Ast := do
    let a ← alternatives (4 * text.length + 4)
    if !(← atEnd) then fail .groupUnopened (← nextSpan)
    return a
  let (a, _) ← whole { rest := text }
  a.checkDepth 0
  return a

end HookPlan.Pattern
