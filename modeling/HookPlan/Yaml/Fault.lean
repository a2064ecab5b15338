import HookPlan.Yaml.Cursor

/-!
# What can be wrong with the form of a text

A `Fault` is a cause together with its place and, where the reader was in the middle of
something, what that was and where it began. `Fault.text` is the one place with wording.
-/

namespace HookPlan.Yaml

/-- Why a text is not YAML. -/
inductive Cause where
  | controlCharacter
  | noTokenStart
  | blockEntryNotAllowed
  | keyNotAllowed
  | valueNotAllowed
  | colonExpected
  | colonUnexpected
  | tabIndents
  | anchorNameExpected
  | directiveNameExpected
  | directiveNameUnknown
  | directiveNameEnds
  | lineEndExpected
  | versionDotExpected
  | versionNumberExpected
  | versionNumberLong
  | blankExpected
  | blankOrBreakExpected
  | exclamationExpected
  | tagUriExpected
  | octetExpected
  | octetLeads
  | octetTrails
  | tagCloseExpected
  | indentationZero
  | tabInIndentation
  | separatorInQuotes
  | endInQuotes
  | escapeUnknown
  | hexExpected
  | escapeNotCharacter
  | documentStartExpected
  | versionRepeated
  | versionUnsupported
  | tagHandleRepeated
  | tagHandleUnknown
  | nodeExpected
  | dashExpected
  | keyExpected
  | commaOrBracketExpected
  | commaOrBraceExpected
  deriving Repr, DecidableEq

/-- What the reader was in the middle of. -/
inductive Activity where
  | simpleKey
  | nextToken
  | directive
  | versionDirective
  | tagDirective
  | tagDirectiveHandle
  | tagDirectiveHandleEnd
  | tagDirectiveUri
  | anchor
  | reference
  | tag
  | tagUri
  | blockScalar
  | quotedScalar
  | quotedEscape
  | plainScalar
  | node
  | blockNode
  | flowNode
  | blockCollection
  | blockMapping
  | flowSequence
  | flowMapping
  deriving Repr, DecidableEq

/-- A cause, its place, and what was going on. A character that may not occur at all is
reported by its byte offset and not by line and column. -/
structure Fault where
  cause : Cause
  mark : Mark
  during : Option (Activity × Mark) := none
  offset : Nat := 0
  deriving Repr, DecidableEq

def Cause.text : Cause → String
  | controlCharacter => "control characters are not allowed"
  | noTokenStart => "found character that cannot start any token"
  | blockEntryNotAllowed => "block sequence entries are not allowed in this context"
  | keyNotAllowed => "mapping keys are not allowed in this context"
  | valueNotAllowed => "mapping values are not allowed in this context"
  | colonExpected => "could not find expected ':'"
  | colonUnexpected => "found unexpected ':'"
  | tabIndents => "found a tab character that violates indentation"
  | anchorNameExpected => "did not find expected alphabetic or numeric character"
  | directiveNameExpected => "could not find expected directive name"
  | directiveNameUnknown => "found unknown directive name"
  | directiveNameEnds => "found unexpected non-alphabetical character"
  | lineEndExpected => "did not find expected comment or line break"
  | versionDotExpected => "did not find expected digit or '.' character"
  | versionNumberExpected => "did not find expected version number"
  | versionNumberLong => "found extremely long version number"
  | blankExpected => "did not find expected whitespace"
  | blankOrBreakExpected => "did not find expected whitespace or line break"
  | exclamationExpected => "did not find expected '!'"
  | tagUriExpected => "did not find expected tag URI"
  | octetExpected => "did not find URI escaped octet"
  | octetLeads => "found an incorrect leading UTF-8 octet"
  | octetTrails => "found an incorrect trailing UTF-8 octet"
  | tagCloseExpected => "did not find the expected '>'"
  | indentationZero => "found an indentation indicator equal to 0"
  | tabInIndentation => "found a tab character where an indentation space is expected"
  | separatorInQuotes => "found unexpected document indicator"
  | endInQuotes => "found unexpected end of stream"
  | escapeUnknown => "found unknown escape character"
  | hexExpected => "did not find expected hexadecimal number"
  | escapeNotCharacter => "found invalid Unicode character escape code"
  | documentStartExpected => "did not find expected <document start>"
  | versionRepeated => "found duplicate %YAML directive"
  | versionUnsupported => "found incompatible YAML document"
  | tagHandleRepeated => "found duplicate %TAG directive"
  | tagHandleUnknown => "found undefined tag handle"
  | nodeExpected => "did not find expected node content"
  | dashExpected => "did not find expected '-' indicator"
  | keyExpected => "did not find expected key"
  | commaOrBracketExpected => "did not find expected ',' or ']'"
  | commaOrBraceExpected => "did not find expected ',' or '\x7d'"

def Activity.text : Activity → String
  | simpleKey => "while scanning a simple key"
  | nextToken => "while scanning for the next token"
  | directive => "while scanning a directive"
  | versionDirective => "while scanning a %YAML directive"
  | tagDirective => "while scanning a %TAG directive"
  | tagDirectiveHandle => "while scanning a tag directive"
  | tagDirectiveHandleEnd => "while parsing a tag directive"
  | tagDirectiveUri => "while parsing a %TAG directive"
  | anchor => "while scanning an anchor"
  | reference => "while scanning an alias"
  | tag => "while scanning a tag"
  | tagUri => "while parsing a tag"
  | blockScalar => "while scanning a block scalar"
  | quotedScalar => "while scanning a quoted scalar"
  | quotedEscape => "while parsing a quoted scalar"
  | plainScalar => "while scanning a plain scalar"
  | node => "while parsing a node"
  | blockNode => "while parsing a block node"
  | flowNode => "while parsing a flow node"
  | blockCollection => "while parsing a block collection"
  | blockMapping => "while parsing a block mapping"
  | flowSequence => "while parsing a flow sequence"
  | flowMapping => "while parsing a flow mapping"

namespace Fault

/-- A fault found while nothing else was going on. -/
def plain (cause : Cause) (mark : Mark) : Fault := ⟨cause, mark, none, 0⟩

/-- A fault found while something that began at `start` was going on. -/
def inside (cause : Cause) (mark : Mark) (activity : Activity) (start : Mark) : Fault :=
  ⟨cause, mark, some (activity, start), 0⟩

/-- The cause and its place, then the activity and where it began, unless both places
are the same line and column. -/
def text (f : Fault) : String :=
  let place :=
    if !f.mark.isOrigin then s!" at {f.mark.text}"
    else if f.offset ≠ 0 then s!" at position {f.offset}"
    else ""
  let during :=
    match f.during with
    | none => ""
    | some (activity, start) =>
      let same := start.line == f.mark.line && start.column == f.mark.column
      let began := if start.isOrigin || same then "" else s!" at {start.text}"
      s!", {activity.text}{began}"
  f.cause.text ++ place ++ during

end Fault

end HookPlan.Yaml
