import HookPlan.Yaml.Scalar
import HookPlan.Yaml.Tag

/-!
# From characters to tokens

The scanner goes through a text once. Two things make YAML tokens depend on more than the
next characters: indentation, which opens and closes block collections, and simple keys,
which are recognized only at the colon after them. A place where a simple key may have
started is remembered, and the key token is inserted there when the colon comes.

* `Scan.step`: the tokens that start at the next character that is not blank.
* `Tokens.ofString`: all tokens of a text, up to the first fault.

A token that may still turn out to start a simple key is not handed on before that is
settled, so when a fault occurs the tokens from the first such place on are withheld.
-/

namespace HookPlan.Yaml

/-- A place where a simple key may have started. -/
structure SimpleKey where
  /-- Nothing but a key can stand there. -/
  required : Bool
  /-- How many tokens come before it. -/
  position : Nat
  mark : Mark
  deriving Repr

/-- The state of the scanner. -/
structure Scan where
  cursor : Cursor
  tokens : Array Token := #[]
  /-- The columns of the open block collections, innermost first. -/
  indents : List Nat := []
  /-- The possible simple key of the innermost flow collection, or of the block context. -/
  key : Option SimpleKey := none
  /-- The same for the collections around it. One entry for each open flow collection. -/
  outerKeys : List (Option SimpleKey) := []
  /-- A simple key may start here. -/
  keyAllowed : Bool := true

namespace Scan

/-- The column of the innermost block collection, and -1 outside all of them. -/
def indent (s : Scan) : Int :=
  match s.indents with
  | [] => -1
  | n :: _ => n

def inFlow (s : Scan) : Bool := !s.outerKeys.isEmpty

def mark (s : Scan) : Mark := s.cursor.mark

def push (s : Scan) (t : Token) : Scan := { s with tokens := s.tokens.push t }

/-- A token without extent at the current place. -/
def pushHere (s : Scan) (l : Lexeme) : Scan := s.push ⟨l, s.mark, s.mark⟩

/-- A token made of the next `n` characters. -/
def pushChars (s : Scan) (l : Lexeme) (n : Nat) : Scan :=
  let c := s.cursor.advanceBy n
  { s.push ⟨l, s.mark, c.mark⟩ with cursor := c }

/-- A key must be followed by a colon in the same line and within 1024 characters. -/
def expired (s : Scan) (k : SimpleKey) : Bool :=
  decide (k.mark.line < s.mark.line) || decide (k.mark.index + 1024 < s.mark.index)

def colonMissing (s : Scan) (k : SimpleKey) : Fault :=
  .inside .colonExpected s.mark .simpleKey k.mark

/-- Gives up one possible key, unless it is required. -/
def dropIf (s : Scan) (gone : SimpleKey → Bool) : Option SimpleKey → Except Fault (Option SimpleKey)
  | none => .ok none
  | some k =>
    if !gone k then .ok (some k)
    else if k.required then .error (s.colonMissing k)
    else .ok none

/-- Gives up the possible keys that have expired, the outermost first. -/
def dropExpired (s : Scan) : Except Fault Scan := do
  let outer ← s.outerKeys.reverse.mapM (s.dropIf s.expired)
  let key ← s.dropIf s.expired s.key
  return { s with outerKeys := outer.reverse, key }

/-- Gives up the possible key of the innermost context. -/
def dropKey (s : Scan) : Except Fault Scan := do
  return { s with key := ← s.dropIf (fun _ => true) s.key }

/-- Remembers that a simple key may start here. -/
def saveKey (s : Scan) : Except Fault Scan :=
  if s.keyAllowed then do
    let required := !s.inFlow && s.indent == (s.mark.column : Int)
    let s ← s.dropKey
    return { s with key := some ⟨required, s.tokens.size, s.mark⟩ }
  else .ok s

/-- Opens a block collection at a column to the right of the innermost one. Its token is
inserted before the token at `position`. -/
def roll (s : Scan) (column : Nat) (position : Nat) (l : Lexeme) (m : Mark) : Scan :=
  if !s.inFlow && s.indent < column then
    { s with indents := column :: s.indents, tokens := s.tokens.insertIdxIfInBounds position ⟨l, m, m⟩ }
  else s

/-- Closes the block collections to the right of a column. -/
def unroll (s : Scan) (column : Int) : Scan :=
  if s.inFlow then s
  else
    let closed := s.indents.takeWhile fun (n : Nat) => decide (column < (n : Int))
    let s' := { s with indents := s.indents.drop closed.length }
    closed.foldl (fun acc _ => acc.pushHere .blockEnd) s'

/-- The place before the next token: blanks, comments and line breaks are over. Outside
flow collections a new line may start a simple key, and a tab may not indent it. -/
def skipSpace : Nat → Scan → Scan
  | 0, s => s
  | fuel + 1, s =>
    let c := if s.mark.column == 0 && s.cursor.looksAt '\ufeff' then s.cursor.advance else s.cursor
    let tabs := s.inFlow || !s.keyAllowed
    let c := (c.span fun ch => ch == ' ' || (tabs && ch == '\t')).2.skipComment
    if c.looksAtAny isBreak then
      skipSpace fuel { s with cursor := c.advanceLine.2, keyAllowed := s.keyAllowed || !s.inFlow }
    else { s with cursor := c }

/-- The end of the text closes everything that indentation opened. -/
def finish (s : Scan) : Except Fault Scan := do
  let m := s.mark
  let m := if m.column == 0 then m else ⟨m.index, m.line + 1, 0⟩
  let s := { s with cursor := { s.cursor with mark := m } }
  let s ← (s.unroll (-1)).dropKey
  return { s with keyAllowed := false }.pushHere .streamEnd

/-- Directives and document separators end all block collections. -/
def betweenDocuments (s : Scan) : Except Fault Scan := do
  let s ← (s.unroll (-1)).dropKey
  return { s with keyAllowed := false }

def directive (s : Scan) : Except Fault Scan := do
  let s ← s.betweenDocuments
  let (t, c) ← s.cursor.directive
  return { s.push t with cursor := c }

def flowStart (s : Scan) (l : Lexeme) : Except Fault Scan := do
  let s ← s.saveKey
  return { s with outerKeys := s.key :: s.outerKeys, key := none, keyAllowed := true }.pushChars l 1

def flowEnd (s : Scan) (l : Lexeme) : Except Fault Scan := do
  let s ← s.dropKey
  let s := match s.outerKeys with
    | [] => s
    | k :: ks => { s with outerKeys := ks, key := k }
  return { s with keyAllowed := false }.pushChars l 1

def flowEntry (s : Scan) : Except Fault Scan := do
  let s ← s.dropKey
  return { s with keyAllowed := true }.pushChars .flowEntry 1

/-- Opens a block collection for an indicator at the current place, if that is allowed. -/
def openBlock (s : Scan) (l : Lexeme) (cause : Cause) : Except Fault Scan :=
  if s.inFlow then .ok s
  else if s.keyAllowed then .ok (s.roll s.mark.column s.tokens.size l s.mark)
  else .error (.plain cause s.mark)

def blockEntry (s : Scan) : Except Fault Scan := do
  let s ← s.openBlock .blockSequenceStart .blockEntryNotAllowed
  let s ← s.dropKey
  return { s with keyAllowed := true }.pushChars .blockEntry 1

def explicitKey (s : Scan) : Except Fault Scan := do
  let s ← s.openBlock .blockMappingStart .keyNotAllowed
  let s ← s.dropKey
  return { s with keyAllowed := !s.inFlow }.pushChars .key 1

/-- A colon makes a key of the innermost possible one, or else follows an explicit key. -/
def value (s : Scan) : Except Fault Scan := do
  match s.key with
  | some k =>
    let s := { s with tokens := s.tokens.insertIdxIfInBounds k.position ⟨.key, k.mark, k.mark⟩ }
    let s := s.roll k.mark.column k.position .blockMappingStart k.mark
    return { s with key := none, keyAllowed := false }.pushChars .value 1
  | none =>
    let s ← s.openBlock .blockMappingStart .valueNotAllowed
    return { s with keyAllowed := !s.inFlow }.pushChars .value 1

/-- A token that may start a simple key, and after which none may start. -/
def keyLike (s : Scan) (read : Cursor → Except Fault (Token × Cursor)) : Except Fault Scan := do
  let s ← s.saveKey
  let (t, c) ← read s.cursor
  return { s with keyAllowed := false, cursor := c }.push t

def blockScalar (s : Scan) (folded : Bool) : Except Fault Scan := do
  let s ← s.dropKey
  let (t, c) ← s.cursor.block folded s.indent
  return { s with keyAllowed := true, cursor := c }.push t

def plainScalar (s : Scan) : Except Fault Scan := do
  let s ← s.saveKey
  let (t, broken, c) ← s.cursor.plain s.inFlow (s.indent + 1)
  return { s with keyAllowed := broken, cursor := c }.push t

/-- The characters that mean something at the start of a token, so that no plain scalar
starts with them. -/
def isIndicator (c : Char) : Bool := "-?:,[]\x7b\x7d#&*!|>'\"%@`".toList.contains c

/-- A plain scalar may start with a dash, question mark or colon if that is no indicator. -/
def startsPlain (s : Scan) : Bool :=
  match s.cursor.rest with
  | [] => false
  | c :: next =>
    !(isBlank c || isBreak c || isIndicator c)
      || (c == '-' && !next.head?.any isBlank)
      || (!s.inFlow && (c == '?' || c == ':') && !blankOrEnd next)

/-- The tokens of whatever starts at the next character. -/
def token (s : Scan) : Except Fault Scan :=
  let c := s.cursor
  let lineStart := c.column == 0
  match c.rest with
  | [] => s.finish
  | ch :: next =>
    let free := s.inFlow || blankOrEnd next
    if lineStart && ch == '%' then s.directive
    else if c.atSeparator then do
      let s ← s.betweenDocuments
      return s.pushChars (if ch == '-' then .documentStart else .documentEnd) 3
    else match ch with
    | '[' => s.flowStart .flowSequenceStart
    | '{' => s.flowStart .flowMappingStart
    | ']' => s.flowEnd .flowSequenceEnd
    | '}' => s.flowEnd .flowMappingEnd
    | ',' => s.flowEntry
    | '*' => s.keyLike (Cursor.name true)
    | '&' => s.keyLike (Cursor.name false)
    | '!' => s.keyLike (Cursor.tag s.inFlow)
    | '\'' => s.keyLike (Cursor.quoted .single)
    | '"' => s.keyLike (Cursor.quoted .double)
    | _ =>
      if ch == '-' && blankOrEnd next then s.blockEntry
      else if ch == '?' && free then s.explicitKey
      else if ch == ':' && free then s.value
      else if ch == '|' && !s.inFlow then s.blockScalar false
      else if ch == '>' && !s.inFlow then s.blockScalar true
      else if s.startsPlain then s.plainScalar
      else .error (.inside .noTokenStart s.mark .nextToken s.mark)

/-- The tokens that start at the next character that is not blank. -/
def step (s : Scan) : Except Fault Scan := do
  let s ← (s.skipSpace (s.cursor.rest.length + 1)).dropExpired
  let s ← (s.unroll s.mark.column).token
  s.dropExpired

/-- How many tokens cannot be preceded any more by the start of a simple key. -/
def settled (s : Scan) : Nat :=
  (s.key :: s.outerKeys).foldl
    (fun n k => match k with | some k => min n k.position | none => n) s.tokens.size

/-- Whether the whole text has been read. -/
def done (s : Scan) : Bool :=
  match s.tokens.back? with
  | some t => t.lexeme == .streamEnd
  | none => false

/-- Steps until the text is read or a fault occurs. -/
def run : Nat → Scan → List Token × Option Fault
  | 0, s => (s.tokens.toList, none)
  | fuel + 1, s =>
    if s.done then (s.tokens.toList, none)
    else match s.step with
      | .ok s' => run fuel s'
      | .error fault => (s.tokens.toList.take s.settled, some fault)

end Scan

/-- The characters that may stand in a YAML text. -/
def isPrintable (c : Char) : Bool :=
  let n := c.toNat
  c == '\t' || c == '\n' || c == '\r' || (0x20 ≤ n && n ≤ 0x7e) || n == 0x85
    || (0xa0 ≤ n && n ≤ 0xd7ff) || (0xe000 ≤ n && n ≤ 0xfffd) || 0x10000 ≤ n

/-- The tokens of a text, and the fault that cut it short. -/
structure Tokens where
  list : List Token
  fault : Option Fault

/-- All tokens of a text. A character that may not occur leaves none. -/
def Tokens.ofString (text : String) : Tokens :=
  let chars := text.toList
  let fine := chars.takeWhile isPrintable
  if fine.length < chars.length then
    let offset := fine.foldl (fun n c => n + c.utf8Size) 0
    ⟨[], some ⟨.controlCharacter, .zero, none, offset⟩⟩
  else
    let (tokens, fault) := Scan.run (chars.length + 2) { cursor := ⟨.zero, chars⟩ }
    ⟨tokens, fault⟩

end HookPlan.Yaml
