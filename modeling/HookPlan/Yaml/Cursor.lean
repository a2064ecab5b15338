/-!
# Positions in a text

A YAML text is read through a `Cursor`: the characters still to come and the place
of the first of them. Lines and columns count from zero and columns count characters.

* `Cursor.advance`: one character to the right.
* `Cursor.advanceLine`: over a line break; a carriage return and the line feed after it
  are one break.
* `Cursor.span`: over the longest run of characters with a property.
-/

namespace HookPlan.Yaml

/-- A place in a text. -/
structure Mark where
  index : Nat
  line : Nat
  column : Nat
  deriving Repr, DecidableEq, Inhabited

namespace Mark

/-- The first place of every text. -/
def zero : Mark := ⟨0, 0, 0⟩

/-- At the first character nothing is worth pointing at, so messages leave the place out. -/
def isOrigin (m : Mark) : Bool := m.line == 0 && m.column == 0

/-- Readers count lines and columns from one. -/
def text (m : Mark) : String := s!"line {m.line + 1} column {m.column + 1}"

end Mark

/-- The characters that end a line. -/
def isBreak (c : Char) : Bool :=
  c == '\n' || c == '\r' || c == '\u0085' || c == '\u2028' || c == '\u2029'

/-- The characters that separate words inside a line. -/
def isBlank (c : Char) : Bool := c == ' ' || c == '\t'

/-- Anchors, directive names and tag handles are spelled with these. -/
def isWordChar (c : Char) : Bool := c.isAlphanum || c == '_' || c == '-'

/-- A blank, a line break or the end of the text is next. -/
def blankOrEnd : List Char → Bool
  | [] => true
  | c :: _ => isBlank c || isBreak c

/-- A line break or the end of the text is next. -/
def breakOrEnd : List Char → Bool
  | [] => true
  | c :: _ => isBreak c

/-- The rest of a text and its place in the whole. -/
structure Cursor where
  mark : Mark
  rest : List Char
  deriving Repr, Inhabited

namespace Cursor

def ofString (s : String) : Cursor := ⟨.zero, s.toList⟩

/-- The next character, if there is one. -/
def peek? (c : Cursor) : Option Char := c.rest.head?

def column (c : Cursor) : Nat := c.mark.column

/-- Whether `ch` is next. -/
def looksAt (c : Cursor) (ch : Char) : Bool := c.rest.head? == some ch

/-- Whether a character with the property is next. -/
def looksAtAny (c : Cursor) (p : Char → Bool) : Bool := c.rest.head?.any p

/-- Whether a blank, a line break or the end is next. -/
def atBlank (c : Cursor) : Bool := blankOrEnd c.rest

/-- Whether a line break or the end is next. -/
def atLineEnd (c : Cursor) : Bool := breakOrEnd c.rest

/-- Whether a blank, a line break or the end comes after the next character. -/
def blankFollows (c : Cursor) : Bool := blankOrEnd (c.rest.drop 1)

/-- One character to the right, in the same line. -/
def advance (c : Cursor) : Cursor :=
  match c.rest with
  | [] => c
  | _ :: r => ⟨⟨c.mark.index + 1, c.mark.line, c.mark.column + 1⟩, r⟩

/-- `n` characters to the right, in the same line. -/
def advanceBy (c : Cursor) : Nat → Cursor
  | 0 => c
  | n + 1 => c.advance.advanceBy n

/-- Over the line break that is next, with the characters it stands for in a scalar:
a line feed, unless it is one of the two separators that keep their identity.
Where no line break is next, nothing happens. -/
def advanceLine (c : Cursor) : List Char × Cursor :=
  let land (n : Nat) (r : List Char) : Cursor := ⟨⟨c.mark.index + n, c.mark.line + 1, 0⟩, r⟩
  match c.rest with
  | '\r' :: '\n' :: r => (['\n'], land 2 r)
  | ch :: r =>
    if ch == '\u2028' || ch == '\u2029' then ([ch], land 1 r)
    else if isBreak ch then (['\n'], land 1 r)
    else ([], c)
  | [] => ([], c)

/-- The run of characters with the property that is next, and what comes after it. -/
def span (p : Char → Bool) (c : Cursor) : List Char × Cursor :=
  let run := c.rest.takeWhile p
  (run, ⟨⟨c.mark.index + run.length, c.mark.line, c.mark.column + run.length⟩, c.rest.dropWhile p⟩)

/-- Past the blanks that are next. -/
def skipBlanks (c : Cursor) : Cursor := (c.span isBlank).2

/-- Past a comment, if one is next. -/
def skipComment (c : Cursor) : Cursor :=
  if c.looksAt '#' then (c.span fun ch => !isBreak ch).2 else c

/-- Three dashes or three dots alone at the start of a line separate documents. -/
def atSeparator (c : Cursor) : Bool :=
  c.column == 0 && match c.rest with
    | '-' :: '-' :: '-' :: r => blankOrEnd r
    | '.' :: '.' :: '.' :: r => blankOrEnd r
    | _ => false

end Cursor

end HookPlan.Yaml
