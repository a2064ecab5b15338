/-!
# The text of git configuration files

A file is a list of variables under the headers of sections. Names of sections and of
variables are not sensitive to case, names of subsections are. A later value of a variable
takes the place of an earlier one.

A file is read byte by byte: each character here stands for one byte.

* `Config.parse`: the variables in the text of a file, in order.
* `Config.get?`: the value of a variable.
-/

namespace HookPlan.Git.Config

/-- A variable with its full name. A variable without an equals sign has no value. -/
structure Variable where
  name : List Char
  value : Option (List Char)
  deriving Repr, DecidableEq

inductive Cause where
  | noBracket
  | headerCharacter
  | noQuote
  | noClosingQuote
  | headerEnds
  | afterQuotes
  | key
  deriving Repr, DecidableEq

def Cause.text : Cause → String
  | noBracket => "missing ']' in section header"
  | headerCharacter => "unexpected character in header"
  | noQuote => "missing quotation marks in section header"
  | noClosingQuote => "missing closing quotation mark in section header"
  | headerEnds => "unexpected end-of-line in section header"
  | afterQuotes => "unexpected text after closing quotes"
  | key => "invalid configuration key"

/-- Why a text cannot be read, and where. -/
inductive Fault where
  | syntaxError (cause : Cause) (line : Nat) (column : Option Nat)
  | badEscape (rest : List Char)
  deriving Repr, DecidableEq

/-- The wording of a fault in the file at `path`. -/
def Fault.text (path : String) : Fault → String
  | syntaxError cause line column =>
    let column := match column with
      | some n => s!", column {n}"
      | none => ""
    s!"failed to parse config file: {cause.text} (in {path}:{line}{column})"
  | badEscape rest => s!"invalid escape at {String.ofList rest}"

def isSpace (c : Char) : Bool :=
  c == ' ' || c == '\t' || c == '\n' || c == '\r' || c == '\x0b' || c == '\x0c'

/-- The characters of names of sections and variables. -/
def isNameChar (c : Char) : Bool := c.isAlphanum || c == '-'

/-- A fault of a line whose number is not known yet. -/
abbrev LineFault := Cause × Option Nat

/-- What comes before a header's name is a bracket, what follows it a bracket or a quoted
name. `position` counts the characters up to the one after the next. -/
inductive HeaderEnd where
  | bracket (rest : List Char)
  | space (rest : List Char)

/-- The name of a section in lower case, and how it ends. It has at least one character. -/
def sectionName (name : List Char) (position : Nat) :
    List Char → Except LineFault (List Char × HeaderEnd)
  | [] => .error (.headerCharacter, some position)
  | c :: cs =>
    if isSpace c then .ok (name.reverse, .space cs)
    else if c == ']' && !name.isEmpty then .ok (name.reverse, .bracket cs)
    else if isNameChar c || c == '.' then sectionName (c.toLower :: name) (position + 1) cs
    else .error (.headerCharacter, some position)

/-- The name of a subsection up to its last quote, where a backslash makes any character
ordinary. `left` counts the characters before the last quote of the line. -/
def subsectionName (name : List Char) (position left : Nat) :
    List Char → Except LineFault (List Char × Nat × List Char)
  | [] => .error (.headerEnds, none)
  | '"' :: cs => .ok (name.reverse, position, '"' :: cs)
  | '\\' :: [] => .error (.headerEnds, some (position + 1))
  | '\\' :: c :: cs =>
    if 2 < left then subsectionName (c :: name) (position + 2) (left - 2) cs
    else .ok ((c :: name).reverse, position + 2, cs)
  | c :: cs =>
    if 1 < left then subsectionName (c :: name) (position + 1) (left - 1) cs
    else .ok ((c :: name).reverse, position + 1, cs)

/-- A quoted name of a subsection, and what follows the header. -/
def subsection (cs : List Char) : Except LineFault (List Char × List Char) :=
  match cs.dropWhile isSpace with
  | '"' :: cs =>
    let beforeLast := (cs.reverse.dropWhile (· != '"')).length
    if beforeLast == 0 then .error (.noClosingQuote, none)
    else
      match subsectionName [] 1 (beforeLast - 1) cs with
      | .error e => .error e
      | .ok (name, _, '"' :: ']' :: rest) => .ok (name, rest)
      | .ok (_, position, _) => .error (.afterQuotes, some position)
  | _ => .error (.noQuote, none)

/-- The full name of a section from what follows its opening bracket, and the rest of the line. -/
def header (cs : List Char) : Except LineFault (List Char × List Char) := do
  if !cs.contains ']' then throw (.noBracket, none)
  let (name, ending) ← sectionName [] 2 cs
  match ending with
  | .bracket rest => return (name, rest)
  | .space rest =>
    let (sub, rest) ← subsection rest
    return (name ++ '.' :: sub, rest)

/-- A line up to its comment, and how many quotes were open or closed before that. A comment
starts outside of quotes, at a character that no backslash makes ordinary. -/
def uncomment (kept : List Char) (quotes backslashes : Nat) : List Char → List Char × Nat
  | [] => (kept, quotes)
  | c :: cs =>
    let quotes :=
      if c == '"' && kept.head?.any (· != '\\') then quotes + 1 else quotes
    if (c == ';' || c == '#') && quotes % 2 == 0 && backslashes % 2 == 0 then (kept, quotes)
    else uncomment (c :: kept) quotes (if c == '\\' then backslashes + 1 else 0) cs

/-- A line without its comment and without spaces at its end. -/
def stripComment (quotes : Nat) (line : List Char) : List Char × Nat :=
  let (kept, quotes) := uncomment [] quotes 0 line
  ((kept.dropWhile isSpace).reverse, quotes)

/-- What a backslash and a character stand for. -/
def escaped? : Char → Option Char
  | 'n' => some '\n'
  | 't' => some '\t'
  | 'b' => some '\x08'
  | '"' => some '"'
  | '\\' => some '\\'
  | _ => none

/-- A value without its quotes and escapes. A backslash at the end continues the value in
the next line, which is the second component. -/
def unescape : List Char → Except Fault (List Char × Bool)
  | [] => .ok ([], false)
  | '"' :: cs => unescape cs
  | '\\' :: [] => .ok ([], true)
  | '\\' :: c :: cs =>
    match escaped? c with
    | some e => (unescape cs).map fun (v, more) => (e :: v, more)
    | none => .error (.badEscape (c :: cs))
  | c :: cs => (unescape cs).map fun (v, more) => (c :: v, more)

/-- A value that goes on in the next line. -/
structure Pending where
  name : List Char
  value : List Char
  quotes : Nat

/-- What has been read of a file. -/
structure State where
  sectionName : Option (List Char) := none
  pending : Option Pending := none
  /-- The last variable comes first. -/
  done : List Variable := []

namespace State

def add (s : State) (name : List Char) (value : Option (List Char)) : State :=
  { s with pending := none, done := ⟨name, value⟩ :: s.done }

/-- The full name of a variable in the current section. -/
def fullName (s : State) (name : List Char) : List Char :=
  let name := name.map Char.toLower
  match s.sectionName with
  | some sec => sec ++ '.' :: name
  | none => name

/-- Takes the name and the value of a variable from a line. -/
def readVariable (s : State) (number : Nat) (line : List Char) : Except Fault State := do
  let (line, quotes) := stripComment 0 line
  let name := line.takeWhile isNameChar
  if name.isEmpty then throw (.syntaxError .key number none)
  let name' := s.fullName name
  match (line.dropWhile isNameChar).dropWhile isSpace with
  | [] => return s.add name' none
  | '=' :: cs =>
    let (value, more) ← unescape (cs.dropWhile isSpace)
    if more then return { s with pending := some ⟨name', value, quotes % 2⟩ }
    else return s.add name' (some value)
  | _ => throw (.syntaxError .key number none)

/-- Takes the next line of a value. -/
def readMore (s : State) (p : Pending) (line : List Char) : Except Fault State := do
  let (line, quotes) := stripComment p.quotes line
  if line.isEmpty then return { s with pending := some { p with quotes } }
  let (value, more) ← unescape line
  let p : Pending := { p with value := p.value ++ value, quotes }
  if more then return { s with pending := some p } else return s.add p.name (some p.value)

/-- Takes the headers at the start of a line and the variable after them. `fuel` bounds the
number of headers. -/
def readFresh (s : State) (number : Nat) : Nat → List Char → Except Fault State
  | 0, _ => .ok s
  | fuel + 1, line =>
    match line.dropWhile isSpace with
    | [] =>
      match line with
      | c :: _ => if c == '\x0b' || c == '\x0c' then .error (.syntaxError .key number none) else .ok s
      | [] => .ok s
    | '[' :: cs =>
      match header cs with
      | .error (cause, column) => .error (.syntaxError cause number column)
      | .ok (name, rest) =>
        let s := { s with sectionName := some name }
        if (rest.dropWhile isSpace).isEmpty then .ok s else s.readFresh number fuel rest
    | c :: cs =>
      if c == ';' || c == '#' then .ok s else s.readVariable number (c :: cs)

def readLine (s : State) (number : Nat) (line : List Char) : Except Fault State :=
  match s.pending with
  | some p => s.readMore p line
  | none => s.readFresh number (line.length + 1) line

def readLines (s : State) : Nat → List (List Char) → Except Fault State
  | _, [] => .ok s
  | number, line :: lines => do
    let s ← s.readLine number line
    s.readLines (number + 1) lines

/-- The variables in their order; a value that was to go on ends with the file. -/
def finish (s : State) : List Variable :=
  match s.pending with
  | some p => (s.add p.name (some p.value)).done.reverse
  | none => s.done.reverse

end State

/-- The lines of a text, each with its line feed. -/
def linesFrom (line : List Char) : List Char → List (List Char)
  | [] => if line.isEmpty then [] else [line.reverse]
  | '\n' :: cs => ('\n' :: line).reverse :: linesFrom [] cs
  | c :: cs => linesFrom (c :: line) cs

/-- A text without the mark for its byte order. -/
def withoutMark : List Char → List Char
  | '\u00ef' :: '\u00bb' :: '\u00bf' :: cs => cs
  | cs => cs

/-- The variables in the text of a file. -/
def parse (text : List Char) : Except Fault (List Variable) := do
  let s ← ({} : State).readLines 1 (linesFrom [] (withoutMark text))
  return s.finish

/-- One character for each byte. -/
def ofBytes (bytes : ByteArray) : List Char := bytes.data.toList.map fun b => Char.ofNat b.toNat

/-- The text in the bytes that the characters stand for, if they are one. -/
def decode? (cs : List Char) : Option String :=
  String.fromUTF8? ⟨(cs.map fun c => c.toNat.toUInt8).toArray⟩

/-- The value of a variable that is written last. -/
def find? (vs : List Variable) (name : String) : Option Variable :=
  vs.reverse.find? (·.name == name.toList)

/-- The value of a variable as text. One without a value counts as empty. -/
def get? (vs : List Variable) (name : String) : Option String :=
  (find? vs name).bind fun v => decode? (v.value.getD [])

/-- What the value of a switch says, if it says anything. Without a value it is on. -/
def switch? (value : Option (List Char)) : Option Bool :=
  match value with
  | none => some true
  | some cs =>
    let word := String.ofList (cs.map Char.toLower)
    if word ∈ ["true", "yes", "on"] then some true
    else if word ∈ ["false", "no", "off", ""] then some false
    else
      let digits := if cs.head? == some '-' || cs.head? == some '+' then cs.drop 1 else cs
      let rest := digits.dropWhile Char.isDigit
      if digits.length ≤ rest.length || 1 < rest.length
        || !rest.all (fun c => c.toLower == 'k' || c.toLower == 'm' || c.toLower == 'g') then none
      else some (digits.any fun c => c.isDigit && c != '0')

end HookPlan.Git.Config
