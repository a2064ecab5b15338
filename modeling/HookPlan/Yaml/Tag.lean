import HookPlan.Yaml.Fault
import HookPlan.Yaml.Token

/-!
# Anchors, tags and directives

The tokens that say something about a node or a document rather than being part of it.

* `Cursor.name`: an anchor or a reference to one.
* `Cursor.tag`: a tag, split into its handle and the rest.
* `Cursor.directive`: a line that starts with a percent sign.
-/

namespace HookPlan.Yaml.Cursor

/-- A name after `&` or `*`; the cursor is at that sign. -/
def name (isReference : Bool) (c : Cursor) : Except Fault (Token × Cursor) :=
  let start := c.mark
  let (run, c) := c.advance.span isWordChar
  let ends := c.atBlank || c.looksAtAny fun ch => "?:,]\x7d%@`".contains ch
  if run.isEmpty || !ends then
    let activity := if isReference then Activity.reference else .anchor
    .error (.inside .anchorNameExpected c.mark activity start)
  else
    let text := String.ofList run
    let lexeme := if isReference then Lexeme.reference text else .anchor text
    .ok (⟨lexeme, start, c.mark⟩, c)

/-- The characters of a tag that stand for themselves; `verbatim` tags may hold some more. -/
def isTagChar (verbatim : Bool) (c : Char) : Bool :=
  isWordChar c || ";/?:@&=+$.%!~*'()".contains c || (verbatim && ",[]".contains c)

def hexPair? : List Char → Option Nat
  | '%' :: a :: b :: _ =>
    let digit (c : Char) : Option Nat :=
      if c.isDigit then some (c.toNat - 48)
      else if 'a' ≤ c ∧ c ≤ 'f' then some (c.toNat - 87)
      else if 'A' ≤ c ∧ c ≤ 'F' then some (c.toNat - 55)
      else none
    return 16 * (← digit a) + (← digit b)
  | _ => none

/-- The continuation octets of one character written as percent escapes. -/
def tagOctets (activity : Activity) (start : Mark) :
    Nat → Nat → Cursor → Except Fault (Nat × Cursor)
  | 0, value, c => .ok (value, c)
  | n + 1, value, c =>
    match hexPair? c.rest with
    | none => .error (.inside .octetExpected c.mark activity start)
    | some octet =>
      if octet / 64 == 2 then tagOctets activity start n (64 * value + octet % 64) (c.advanceBy 3)
      else .error (.inside .octetTrails c.mark activity start)

/-- One character written as percent escapes of its octets. -/
def tagEscape (activity : Activity) (start : Mark) (c : Cursor) : Except Fault (Char × Cursor) := do
  match hexPair? c.rest with
  | none => throw (.inside .octetExpected c.mark activity start)
  | some octet =>
    let more (n lead : Nat) := tagOctets activity start n lead (c.advanceBy 3)
    let (value, c) ←
      if octet < 0x80 then more 0 octet
      else if octet / 32 == 6 then more 1 (octet % 32)
      else if octet / 16 == 14 then more 2 (octet % 16)
      else if octet / 8 == 30 then more 3 (octet % 8)
      else throw (.inside .octetLeads c.mark activity start)
    return (Char.ofNat value, c)

/-- The characters of a tag, with escapes decoded. The flag says whether any were read. -/
def tagChars (verbatim : Bool) (activity : Activity) (start : Mark) :
    Nat → List Char → Cursor → Except Fault (List Char × Cursor)
  | 0, acc, c => .ok (acc, c)
  | fuel + 1, acc, c =>
    match c.peek? with
    | none => .ok (acc, c)
    | some ch =>
      if ch == '%' then do
        let (decoded, c) ← c.tagEscape activity start
        tagChars verbatim activity start fuel (decoded :: acc) c
      else if isTagChar verbatim ch then tagChars verbatim activity start fuel (ch :: acc) c.advance
      else .ok (acc, c)

/-- The part of a tag after its handle. `head` is text already read that turned out to
belong to it; without any text there is no tag. -/
def tagSuffix (verbatim : Bool) (activity : Activity) (head : List Char) (start : Mark) (c : Cursor) :
    Except Fault (String × Cursor) := do
  let (acc, c') ← c.tagChars verbatim activity start (c.rest.length + 1) []
  if head.isEmpty && acc.isEmpty then throw (.inside .tagUriExpected c'.mark activity start)
  return (String.ofList (head.drop 1 ++ acc.reverse), c')

/-- A tag handle: `!`, `!!` or a word between exclamation marks, and the text of an
unfinished one. -/
def tagHandle (inDirective : Bool) (start : Mark) (c : Cursor) : Except Fault (List Char × Cursor) :=
  if c.looksAt '!' then
    let (run, c) := c.advance.span isWordChar
    if c.looksAt '!' then .ok ('!' :: run ++ ['!'], c.advance)
    else if inDirective && !run.isEmpty then
      .error (.inside .exclamationExpected c.mark .tagDirectiveHandleEnd start)
    else .ok ('!' :: run, c)
  else
    let activity := if inDirective then Activity.tagDirectiveHandle else .tag
    .error (.inside .exclamationExpected c.mark activity start)

/-- A tag; the cursor is at its exclamation mark. -/
def tag (inFlow : Bool) (c : Cursor) : Except Fault (Token × Cursor) := do
  let start := c.mark
  let (handle, suffix, c) ←
    if c.rest[1]? == some '<' then do
      let (suffix, c) ← (c.advanceBy 2).tagSuffix true .tagUri [] start
      unless c.looksAt '>' do throw (.inside .tagCloseExpected c.mark .tag start)
      pure ("", suffix, c.advance)
    else do
      let (handle, c) ← c.tagHandle false start
      if handle.length > 1 && handle.getLast? == some '!' then do
        let (suffix, c) ← c.tagSuffix false .tagUri [] start
        pure (String.ofList handle, suffix, c)
      else do
        let (suffix, c) ← c.tagSuffix false .tagUri handle start
        pure (if suffix.isEmpty then ("", "!", c) else ("!", suffix, c))
  unless (inFlow && c.looksAt ',') || c.atBlank do
    throw (.inside .blankOrBreakExpected c.mark .tag start)
  return (⟨.tag handle suffix, start, c.mark⟩, c)

/-- A number of at most nine digits. -/
def versionNumber (start : Mark) (c : Cursor) : Except Fault (Nat × Cursor) :=
  let (run, stop) := c.span Char.isDigit
  if run.isEmpty then .error (.inside .versionNumberExpected c.mark .versionDirective start)
  else if run.length > 9 then
    .error (.inside .versionNumberLong (c.advanceBy 9).mark .versionDirective start)
  else .ok (run.foldl (fun n d => 10 * n + (d.toNat - '0'.toNat)) 0, stop)

/-- A directive, up to and with the end of its line; the cursor is at its percent sign. -/
def directive (c : Cursor) : Except Fault (Token × Cursor) := do
  let start := c.mark
  let (run, c) := c.advance.span isWordChar
  if run.isEmpty then throw (.inside .directiveNameExpected c.mark .directive start)
  unless c.atBlank do throw (.inside .directiveNameEnds c.mark .directive start)
  let (lexeme, c) ←
    match String.ofList run with
    | "YAML" => do
      let (major, c) ← c.skipBlanks.versionNumber start
      unless c.looksAt '.' do throw (.inside .versionDotExpected c.mark .versionDirective start)
      let (minor, c) ← c.advance.versionNumber start
      pure (Lexeme.version major minor, c)
    | "TAG" => do
      let (handle, c) ← c.skipBlanks.tagHandle true start
      unless c.looksAtAny isBlank do
        throw (.inside .blankExpected c.mark .tagDirective start)
      let (expansion, c) ← c.skipBlanks.tagSuffix true .tagDirectiveUri [] start
      unless c.atBlank do
        throw (.inside .blankOrBreakExpected c.mark .tagDirective start)
      pure (Lexeme.tagHandle (String.ofList handle) expansion, c)
    | _ => throw (.inside .directiveNameUnknown c.mark .directive start)
  let token : Token := ⟨lexeme, start, c.mark⟩
  let c := c.skipBlanks.skipComment
  unless c.atLineEnd do throw (.inside .lineEndExpected c.mark .directive start)
  return (token, c.advanceLine.2)

end HookPlan.Yaml.Cursor
