import HookPlan.Yaml.Fault
import HookPlan.Yaml.Token

/-!
# From tokens to events

Events describe a document as a walk over its tree: a scalar, a reference to an anchored
node, and the starts and ends of sequences and mappings. Nodes that are left out show as
empty scalars, so every key has a value and every entry a node.

* `Parse.step`: the next event, read off the expectation on top of the stack.
* `Events.ofTokens`: the events of the first document, what cut it short, and whether
  anything follows it.
-/

namespace HookPlan.Yaml

/-- What a scalar, sequence or mapping carries besides its content. -/
structure Properties where
  anchor : Option String := none
  tag : Option String := none
  deriving Repr, DecidableEq

inductive EventKind where
  | streamEnd
  | documentStart
  | documentEnd
  | reference (anchor : String)
  | scalar (props : Properties) (content : String) (style : ScalarStyle)
  | sequenceStart (props : Properties)
  | sequenceEnd
  | mappingStart (props : Properties)
  | mappingEnd
  deriving Repr, DecidableEq

structure Event where
  kind : EventKind
  mark : Mark
  deriving Repr, DecidableEq

/-- What may come next. The flag `first` says that the opening token is still there, and
`start` is its place, for messages. -/
inductive Expect where
  | document (implicit : Bool)
  | documentContent
  | documentEnd
  | node (block indentless : Bool)
  | blockEntry (first : Bool) (start : Mark)
  | indentlessEntry
  | blockKey (first : Bool) (start : Mark)
  | blockValue (start : Mark)
  | flowEntry (first : Bool) (start : Mark)
  | pairKey (start : Mark)
  | pairValue (start : Mark)
  | pairEnd (start : Mark)
  | flowKey (first : Bool) (start : Mark)
  | flowValue (empty : Bool) (start : Mark)
  deriving Repr

/-- The tokens still to come, the expectations from the innermost on, and the tag handles
declared for the current document. -/
structure Parse where
  tokens : List Token
  expects : List Expect
  handles : List (String × String) := []

namespace Parse

/-- The outcome of a step. Running out of tokens is left to the caller to explain. -/
inductive Stop where
  | fault (f : Fault)
  | outOfTokens

abbrev Step := Except Stop (Event × Parse)

def fail {α : Type} (cause : Cause) (m : Mark) (during : Option (Activity × Mark)) :
    Except Stop α :=
  .error (.fault ⟨cause, m, during, 0⟩)

/-- The next token and the state after it. -/
def next (p : Parse) : Except Stop (Token × Parse) :=
  match p.tokens with
  | [] => .error .outOfTokens
  | t :: ts => .ok (t, { p with tokens := ts })

def peek (p : Parse) : Except Stop Token := do return (← p.next).1

/-- The state with the innermost expectation replaced. -/
def expecting (p : Parse) (es : List Expect) : Parse := { p with expects := es }

def emptyScalar (p : Parse) (m : Mark) : Step :=
  .ok (⟨.scalar {} "" .plain, m⟩, p)

/-- The handles that every document knows. -/
def standardHandles : List (String × String) :=
  [("!", "!"), ("!!", "tag:yaml.org,2002:")]

/-- The directives at the start of a document. -/
def directives : Nat → Bool → Parse → Except Stop Parse
  | 0, _, p => .ok p
  | fuel + 1, versioned, p => do
    let (t, p') ← p.next
    match t.lexeme with
    | .version major minor =>
      if versioned then fail .versionRepeated t.start none
      else if major == 1 && (minor == 1 || minor == 2) then directives fuel true p'
      else fail .versionUnsupported t.start none
    | .tagHandle handle expansion =>
      if p.handles.any (·.1 == handle) then fail .tagHandleRepeated t.start none
      else directives fuel versioned { p' with handles := p.handles ++ [(handle, expansion)] }
    | _ => return p

/-- A tag with its handle expanded. -/
def expandTag (p : Parse) (start m : Mark) (handle suffix : String) :
    Except Stop String :=
  if handle.isEmpty then .ok suffix
  else match (p.handles ++ standardHandles).find? (·.1 == handle) with
    | some (_, expansion) => .ok (expansion ++ suffix)
    | none => fail .tagHandleUnknown m (some (.node, start))

/-- The anchor and the tag in front of a node, in either order. -/
def properties (p : Parse) : Except Stop (Option String × Option (Mark × String × String) × Parse) := do
  let (t, p₁) ← p.next
  match t.lexeme with
  | .anchor name =>
    let (u, p₂) ← p₁.next
    match u.lexeme with
    | .tag handle suffix => return (some name, some (u.start, handle, suffix), p₂)
    | _ => return (some name, none, p₁)
  | .tag handle suffix =>
    let (u, p₂) ← p₁.next
    match u.lexeme with
    | .anchor name => return (some name, some (t.start, handle, suffix), p₂)
    | _ => return (none, some (t.start, handle, suffix), p₁)
  | _ => return (none, none, p)

/-- A node. Its expectation is gone already; a collection leaves the one for its content. -/
def node (block indentless : Bool) (p : Parse) : Step := do
  let (first, afterFirst) ← p.next
  match first.lexeme with
  | .reference name => return (⟨.reference name, first.start⟩, afterFirst)
  | _ =>
    let start := first.start
    let (anchor, written, p) ← p.properties
    let (t, after) ← p.next
    let tag ← match written with
      | none => pure none
      | some (m, handle, suffix) => some <$> p.expandTag start m handle suffix
    let props : Properties := ⟨anchor, tag⟩
    let collect (kind : EventKind) (e : Expect) : Step :=
      .ok (⟨kind, start⟩, p.expecting (e :: p.expects))
    match t.lexeme with
    | .blockEntry =>
      if indentless then collect (.sequenceStart props) .indentlessEntry
      else empty props start t p
    | .scalar content style =>
      let props := if tag == some "!" then { props with tag := none } else props
      return (⟨.scalar props content style, start⟩, after)
    | .flowSequenceStart => collect (.sequenceStart props) (.flowEntry true t.start)
    | .flowMappingStart => collect (.mappingStart props) (.flowKey true t.start)
    | .blockSequenceStart =>
      if block then collect (.sequenceStart props) (.blockEntry true t.start)
      else empty props start t p
    | .blockMappingStart =>
      if block then collect (.mappingStart props) (.blockKey true t.start)
      else empty props start t p
    | _ => empty props start t p
where
  /-- Properties without content belong to an empty scalar. -/
  empty (props : Properties) (start : Mark) (t : Token) (p : Parse) : Step :=
    if props.anchor.isSome || props.tag.isSome then
      .ok (⟨.scalar props "" .plain, start⟩, p)
    else
      fail .nodeExpected t.start (some (if block then .blockNode else .flowNode, start))

/-- Block collections: an entry, key or value may be left out before any of these. -/
def endsBlockItem : Lexeme → Bool
  | .blockEntry | .key | .value | .blockEnd => true
  | _ => false

/-- A mapping entry may be left out before any of these. -/
def endsBlockPart : Lexeme → Bool
  | .key | .value | .blockEnd => true
  | _ => false

def document (implicit : Bool) (rest : List Expect) (p : Parse) : Step := do
  let p := if implicit then p
    else { p with tokens := p.tokens.dropWhile (·.lexeme == .documentEnd) }
  let (t, after) ← p.next
  let explicit : Step := do
    let p ← { p with handles := [] }.directives (p.tokens.length + 1) false
    let (u, p) ← p.next
    if u.lexeme == .documentStart then
      return (⟨.documentStart, t.start⟩, p.expecting (.documentContent :: .documentEnd :: rest))
    else fail .documentStartExpected u.start none
  match t.lexeme with
  | .streamEnd => return (⟨.streamEnd, t.start⟩, after.expecting [])
  | .version .. | .tagHandle .. | .documentStart => explicit
  | _ =>
    if implicit then
      return (⟨.documentStart, t.start⟩, p.expecting (.node true false :: .documentEnd :: rest))
    else explicit

/-- The next event. -/
def step (p : Parse) : Step := do
  match p.expects with
  | [] => throw .outOfTokens
  | e :: rest =>
    let p := p.expecting rest
    /- A node comes next, and what follows it is expected after that. -/
    let nodeThen (p : Parse) (block indentless : Bool) (after : Expect) : Step :=
      (p.expecting (after :: rest)).node block indentless
    let emptyThen (p : Parse) (m : Mark) (after : Expect) : Step :=
      (p.expecting (after :: rest)).emptyScalar m
    match e with
    | .document implicit => p.document implicit rest
    | .node block indentless => p.node block indentless
    | .documentContent =>
      let t ← p.peek
      match t.lexeme with
      | .version .. | .tagHandle .. | .documentStart | .documentEnd | .streamEnd =>
        p.emptyScalar t.start
      | _ => p.node true false
    | .documentEnd =>
      let (t, after) ← p.next
      let p := if t.lexeme == .documentEnd then after else p
      return (⟨.documentEnd, t.start⟩, { p with handles := [], expects := .document false :: rest })
    | .blockEntry first start =>
      let p ← if first then do pure (← p.next).2 else pure p
      let (t, after) ← p.next
      match t.lexeme with
      | .blockEntry =>
        let u ← after.peek
        match u.lexeme with
        | .blockEntry | .blockEnd => emptyThen after t.stop (.blockEntry false start)
        | _ => nodeThen after true false (.blockEntry false start)
      | .blockEnd => return (⟨.sequenceEnd, t.start⟩, after)
      | _ => fail .dashExpected t.start (some (.blockCollection, start))
    | .indentlessEntry =>
      let (t, after) ← p.next
      match t.lexeme with
      | .blockEntry =>
        let u ← after.peek
        if endsBlockItem u.lexeme then emptyThen after t.stop .indentlessEntry
        else nodeThen after true false .indentlessEntry
      | _ => return (⟨.sequenceEnd, t.start⟩, p)
    | .blockKey first start =>
      let p ← if first then do pure (← p.next).2 else pure p
      let (t, after) ← p.next
      match t.lexeme with
      | .key =>
        let u ← after.peek
        if endsBlockPart u.lexeme then emptyThen after t.stop (.blockValue start)
        else nodeThen after true true (.blockValue start)
      | .blockEnd => return (⟨.mappingEnd, t.start⟩, after)
      | _ => fail .keyExpected t.start (some (.blockMapping, start))
    | .blockValue start =>
      let (t, after) ← p.next
      match t.lexeme with
      | .value =>
        let u ← after.peek
        if endsBlockPart u.lexeme then emptyThen after t.stop (.blockKey false start)
        else nodeThen after true true (.blockKey false start)
      | _ => emptyThen p t.start (.blockKey false start)
    | .flowEntry first start =>
      let p ← if first then do pure (← p.next).2 else pure p
      let (t, after) ← p.next
      if t.lexeme == .flowSequenceEnd then return (⟨.sequenceEnd, t.start⟩, after)
      else do
        let p ←
          if first then pure p
          else if t.lexeme == .flowEntry then pure after
          else fail .commaOrBracketExpected t.start (some (.flowSequence, start))
        let (t, after) ← p.next
        match t.lexeme with
        | .key => return (⟨.mappingStart {}, t.start⟩, after.expecting (.pairKey start :: rest))
        | .flowSequenceEnd => return (⟨.sequenceEnd, t.start⟩, after)
        | _ => nodeThen p false false (.flowEntry false start)
    | .pairKey start =>
      let (t, after) ← p.next
      match t.lexeme with
      | .value | .flowEntry | .flowSequenceEnd => emptyThen after t.stop (.pairValue start)
      | _ => nodeThen p false false (.pairValue start)
    | .pairValue start =>
      let (t, after) ← p.next
      match t.lexeme with
      | .value =>
        let u ← after.peek
        match u.lexeme with
        | .flowEntry | .flowSequenceEnd => emptyThen after u.start (.pairEnd start)
        | _ => nodeThen after false false (.pairEnd start)
      | _ => emptyThen p t.start (.pairEnd start)
    | .pairEnd start =>
      let t ← p.peek
      return (⟨.mappingEnd, t.start⟩, p.expecting (.flowEntry false start :: rest))
    | .flowKey first start =>
      let p ← if first then do pure (← p.next).2 else pure p
      let (t, after) ← p.next
      if t.lexeme == .flowMappingEnd then return (⟨.mappingEnd, t.start⟩, after)
      else do
        let p ←
          if first then pure p
          else if t.lexeme == .flowEntry then pure after
          else fail .commaOrBraceExpected t.start (some (.flowMapping, start))
        let (t, after) ← p.next
        match t.lexeme with
        | .key =>
          let u ← after.peek
          match u.lexeme with
          | .value | .flowEntry | .flowMappingEnd => emptyThen after u.start (.flowValue false start)
          | _ => nodeThen after false false (.flowValue false start)
        | .flowMappingEnd => return (⟨.mappingEnd, t.start⟩, after)
        | _ => nodeThen p false false (.flowValue true start)
    | .flowValue empty start =>
      let (t, after) ← p.next
      if empty then emptyThen p t.start (.flowKey false start)
      else match t.lexeme with
      | .value =>
        let u ← after.peek
        match u.lexeme with
        | .flowEntry | .flowMappingEnd => emptyThen after u.start (.flowKey false start)
        | _ => nodeThen after false false (.flowKey false start)
      | _ => emptyThen p t.start (.flowKey false start)

/-- The initial state. -/
def ofTokens (tokens : List Token) : Parse := ⟨tokens, [.document true], []⟩

end Parse

/-- The events of the first document of a text. -/
structure Events where
  list : List Event
  /-- What cut the document short. -/
  fault : Option Fault
  /-- The place where the text ends, if it holds no document. -/
  absent : Option Mark
  /-- Whether anything follows the document. -/
  followed : Bool

namespace Events

/-- Steps to the end of the first document. A scan that ended early explains why tokens ran out. -/
def collect (scan : Option Fault) : Nat → List Event → Parse → Events
  | 0, acc, _ => ⟨acc.reverse, scan, none, false⟩
  | fuel + 1, acc, p =>
    match p.step with
    | .error (.fault f) => ⟨acc.reverse, some f, none, false⟩
    | .error .outOfTokens => ⟨acc.reverse, scan, none, false⟩
    | .ok (e, p) =>
      match e.kind with
      | .documentStart => collect scan fuel acc p
      | .streamEnd => ⟨acc.reverse, none, some e.mark, false⟩
      | .documentEnd =>
        let followed := match p.step with
          | .ok (e, _) => e.kind != .streamEnd
          | .error _ => true
        ⟨acc.reverse, none, none, followed⟩
      | _ => collect scan fuel (e :: acc) p

/-- Between two tokens there are at most as many events as expectations to close, and
each token opens at most two. -/
def ofTokens (tokens : List Token) (scan : Option Fault) : Events :=
  collect scan (8 * (tokens.length + 2)) [] (Parse.ofTokens tokens)

end Events

end HookPlan.Yaml
