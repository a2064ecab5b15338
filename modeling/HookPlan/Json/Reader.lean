import HookPlan.Json.Fault
import HookPlan.Number.Decimal
import HookPlan.Text.Quoted

/-!
# Reading JSON

A reader takes a value of the type it is for from the start of a text. Objects become records
by the names of their members, of which unknown ones are skipped; lists become records by the
order of their elements.

* `string`, `boolean`, `natural`, `optional`, `items`: values of the basic types.
* `object`: a record from the members of an object.
* `skip`: any value at all.
* `Reader.run`: the value of a whole text.
-/

namespace HookPlan.Json

/-- Takes a value from the start of a text, or says where and why there is none. -/
abbrev Reader := StateT (List Char) (Except Fault)

variable {α σ : Type}

/-! ### Faults -/

/-- A fault where reading stands. -/
def stop (c : Cause) : Reader α := fun cs => .error ⟨c, cs, 0, false⟩

/-- A fault of the byte that is next. -/
def stopAt (c : Cause) : Reader α := fun cs => .error ⟨c, cs, 1, false⟩

/-- A value of the wrong type that ends where reading stands. -/
def mismatch (m : Mismatch) : Reader α := stop (.mismatch m)

/-- A fault of the value that is being read, wherever it may end. -/
def loose (m : Mismatch) : Reader α := fun cs => .error ⟨.mismatch m, cs, 0, true⟩

/-! ### Characters -/

def isSpace (c : Char) : Bool := c == ' ' || c == '\n' || c == '\t' || c == '\r'

def skipSpace : Reader Unit := modify (·.dropWhile isSpace)

/-- The next character. -/
def peek? : Reader (Option Char) := return (← get).head?

/-- The next character that is no space. -/
def next? : Reader (Option Char) := do
  skipSpace
  peek?

/-- Past the next character. -/
def drop : Reader Unit := modify (·.drop 1)

/-- The rest of a word. -/
def word : List Char → Reader Unit
  | [] => return
  | c :: cs => do
    match ← peek? with
    | none => stop .valueEnds
    | some d =>
      if d == c then do
        drop
        word cs
      else stopAt .word

/-! ### Strings -/

def hexDigit? (c : Char) : Option Nat :=
  if c.isDigit then some (c.toNat - '0'.toNat)
  else if 'a' ≤ c && c ≤ 'f' then some (c.toNat - 'a'.toNat + 10)
  else if 'A' ≤ c && c ≤ 'F' then some (c.toNat - 'A'.toNat + 10)
  else none

/-- The value of some digits in base sixteen. -/
def hexValue? (cs : List Char) : Option Nat :=
  cs.foldlM (fun n c => do return 16 * n + (← hexDigit? c)) 0

/-- A number of four digits in base sixteen. -/
def fourDigits : Reader Nat := do
  let cs ← get
  match hexValue? (cs.take 4), decide (4 ≤ cs.length) with
  | some n, true =>
    set (cs.drop 4)
    return n
  | _, _ =>
    if bytes cs < 4 then do
      set ([] : List Char)
      stop .stringEnds
    else fun cs => .error ⟨.escape, cs, 4, false⟩

/-- The character that comes after a backslash is next. -/
def expectInString (c : Char) : Reader Unit := do
  match ← peek? with
  | none => stop .stringEnds
  | some d => if d == c then drop else stopAt .surrogateEnds

def isHighSurrogate (n : Nat) : Bool := 0xd800 ≤ n && n ≤ 0xdbff
def isLowSurrogate (n : Nat) : Bool := 0xdc00 ≤ n && n ≤ 0xdfff

/-- The character that one or two numbers of four digits stand for. -/
def unicodeEscape : Reader Char := do
  let n ← fourDigits
  if isLowSurrogate n then stop .loneSurrogate
  else if isHighSurrogate n then do
    expectInString '\\'
    expectInString 'u'
    let m ← fourDigits
    if isLowSurrogate m then return Char.ofNat (0x10000 + (n - 0xd800) * 0x400 + (m - 0xdc00))
    else stop .loneSurrogate
  else return Char.ofNat n

/-- What a backslash and a character stand for. -/
def escaped? : Char → Option Char
  | '"' => some '"'
  | '\\' => some '\\'
  | '/' => some '/'
  | 'b' => some '\x08'
  | 'f' => some '\x0c'
  | 'n' => some '\n'
  | 'r' => some '\r'
  | 't' => some '\t'
  | _ => none

/-- What follows a backslash. -/
def escape : Reader Char := do
  match ← peek? with
  | none => stop .stringEnds
  | some 'u' =>
    drop
    unicodeEscape
  | some c =>
    match escaped? c with
    | some d =>
      drop
      return d
    | none => stopAt .escape

def isControl (c : Char) : Bool := c.toNat < 0x20

/-- The characters of a string up to its closing quote. `fuel` bounds how many there are. -/
def stringFrom : Nat → Reader (List Char)
  | 0 => stop .stringEnds
  | fuel + 1 => do
    match ← peek? with
    | none => stop .stringEnds
    | some '"' =>
      drop
      return []
    | some '\\' =>
      drop
      let c ← escape
      let cs ← stringFrom fuel
      return c :: cs
    | some c =>
      if isControl c then stopAt .control
      else do
        drop
        let cs ← stringFrom fuel
        return c :: cs

/-- A string whose opening quote is next. -/
def quoted : Reader String := do
  drop
  return String.ofList (← stringFrom ((← get).length + 1))

/-! ### Numbers -/

/-- A number as it is written. -/
structure Lexeme where
  negative : Bool
  whole : List Char
  fraction : List Char := []
  exponent : Int := 0
  hasPoint : Bool := false
  hasExponent : Bool := false

/-- Takes digits. -/
def digits : Reader (List Char) := do
  let cs ← get
  set (cs.dropWhile Char.isDigit)
  return cs.takeWhile Char.isDigit

/-- The digits before the point: one zero, or a digit that is not zero and more. `atEnd` is
the cause if there is nothing. -/
def wholeDigits (atEnd : Cause) : Reader (List Char) := do
  match ← peek? with
  | none => stop atEnd
  | some '0' =>
    drop
    if (← peek?).any Char.isDigit then stopAt .number else return ['0']
  | some c => if c.isDigit then digits else stopAt .number

/-- The digits after a point. -/
def fractionDigits (atEnd : Cause) : Reader (List Char) := do
  drop
  let ds ← digits
  if ds.isEmpty then stopAt (if (← peek?).isNone then atEnd else .number) else return ds

/-- The largest exponent that is looked at digit by digit. -/
def maxExponent : Nat := Nat.pow 2 31 - 1

/-- The value of an exponent. Where `limited`, it is refused at the first digit that is too much. -/
def exponentValue (limited : Bool) : Reader Nat := do
  let before ← get
  let ds ← digits
  let tooMuch := (List.range (ds.length + 1)).find? fun k =>
    maxExponent < Number.digitsValue (ds.take k)
  match limited, tooMuch with
  | true, some k =>
    set (before.drop k)
    stop .numberRange
  | _, _ => return Number.digitsValue ds

/-- A signed exponent. One that is too large is refused where `limited`, unless it is negative. -/
def exponentDigits (atEnd : Cause) (limited : Bool) : Reader Int := do
  drop
  let negative ←
    match ← peek? with
    | some '+' => do
      drop
      pure false
    | some '-' => do
      drop
      pure true
    | _ => pure false
  match ← peek? with
  | none => stop atEnd
  | some c =>
    if c.isDigit then do
      let n : Int ← exponentValue (limited && !negative)
      return if negative then -n else n
    else stopAt .number

def startsExponent (c : Option Char) : Bool := c == some 'e' || c == some 'E'

/-- A number whose sign or first digit is next. `atEnd` is the cause if it is cut short, and
`limited` numbers have a limited size. -/
def lexeme (atEnd : Cause) (limited : Bool) : Reader Lexeme := do
  let negative := (← peek?) == some '-'
  if negative then drop
  let whole ← wholeDigits atEnd
  let hasPoint := (← peek?) == some '.'
  let fraction ← if hasPoint then fractionDigits atEnd else pure []
  let hasExponent := startsExponent (← peek?)
  let isZero := (whole ++ fraction).all (· == '0')
  let exponent ← if hasExponent then exponentDigits atEnd (limited && !isZero) else pure 0
  return { negative, whole, fraction, exponent, hasPoint, hasExponent }

/-- The numbers that are told apart. -/
inductive Numeral where
  | natural (n : Nat)
  /-- The negative of a number that is not zero. -/
  | negative (n : Nat)
  | float (negative : Bool) (b : Number.Binary)
  deriving Repr, DecidableEq

/-- The greatest number of 64 bits. -/
def maxNatural : Nat := Nat.pow 2 64 - 1

/-- Digits are taken until their value exceeds 64 bits: the value, and how many were left. -/
def leadingValue (n : Nat) : List Char → Nat × Nat
  | [] => (n, 0)
  | d :: ds =>
    let n' := 10 * n + (d.toNat - '0'.toNat)
    if n' ≤ maxNatural then leadingValue n' ds else (n, ds.length + 1)

/-- The number `n * 10 ^ e` in the arithmetic of floating point numbers, one power of ten at a
time, if it is not too large. -/
def scale (b : Number.Binary) (e : Int) : Nat → Option Number.Binary
  | 0 => some b
  | fuel + 1 =>
    let power (k : Nat) := Number.Binary.ofDecimal ⟨1, k⟩
    if 308 < e then if b.isZero then some b else none
    else if e < -308 then
      if b.isZero then some b else scale (b.div (power 308)) (e + 308) fuel
    else if 0 ≤ e then
      match b.mul (power e.toNat) with
      | .infinite => none
      | b => some b
    else some (b.div (power (-e).toNat))

/-- What a number is, unless it is too large. -/
def Lexeme.numeral? (l : Lexeme) : Option Numeral :=
  let (n, left) := leadingValue 0 l.whole
  if left == 0 && !l.hasPoint && !l.hasExponent then
    if !l.negative then some (.natural n)
    else if n == 0 || Nat.pow 2 63 < n then some (.float true (Number.Binary.ofDecimal ⟨n, 0⟩))
    else some (.negative n)
  else
    let (n, left') := leadingValue n l.fraction
    let taken := l.fraction.length - left'
    let e : Int := left - taken + l.exponent
    if maxExponent < l.exponent.natAbs then some (.float l.negative (.finite 0 0))
    else (scale (Number.Binary.ofDecimal ⟨n, 0⟩) e 8).map (.float l.negative)

def numeral : Reader Numeral := do
  match (← lexeme .valueEnds true).numeral? with
  | some n => return n
  | none => stop .numberRange

/-- A floating point number in a message: positional for a few places only. -/
def floatText (negative : Bool) (b : Number.Binary) : String :=
  let sign := if negative then ['-'] else []
  match b with
  | .infinite => String.ofList (sign ++ ['i', 'n', 'f'])
  | .finite m q =>
    let d := Number.Binary.shortest m q false
    let plain := d.digits == 0 || (-5 < d.leading && d.leading < 16)
    String.ofList (sign ++ if plain then Number.Decimal.withPoint d.positional else d.scientific)

/-- How a message names a number. -/
def Numeral.describe : Numeral → String
  | natural n => s!"integer `{n}`"
  | negative n => s!"integer `-{n}`"
  | float neg b => s!"floating point `{floatText neg b}`"

/-! ### Brackets -/

inductive Bracket where
  | list
  | object
  deriving DecidableEq

namespace Bracket

def closing : Bracket → Char
  | list => ']'
  | object => '\x7d'

/-- The cause if the text ends before the closing bracket. -/
def atEnd : Bracket → Cause
  | list => .listEnds
  | object => .objectEnds

/-- The cause if there is neither a comma nor the closing bracket. -/
def commaOrEnd : Bracket → Cause
  | list => .listCommaOrEnd
  | object => .objectCommaOrEnd

/-- Past the closing bracket. Nothing else may be left before it. -/
def close (b : Bracket) : Reader Unit := do
  match ← next? with
  | none => stopAt b.atEnd
  | some c =>
    if c == b.closing then drop
    else if c == ',' then
      if b == .list then do
        drop
        if (← next?) == some ']' then stopAt .trailingComma else stopAt .trailingCharacters
      else stopAt .trailingComma
    else stopAt .trailingCharacters

/-- Where looking for the closing bracket ends, found or not. -/
def settle (b : Bracket) (cs : List Char) : List Char :=
  match (b.close cs) with
  | .ok (_, rest) => rest
  | .error f => f.rest

/-- What `body` takes from between two brackets, of which the first is next. Its loose faults
are placed at the second one. -/
def around (b : Bracket) (body : Reader α) : Reader α := fun cs =>
  match body (cs.drop 1) with
  | .ok (a, rest) => (b.close rest).map fun (_, rest) => (a, rest)
  | .error f => .error (if f.loose then ⟨f.cause, b.settle f.rest, 0, false⟩ else f)

end Bracket

/-! ### Values of the basic types -/

/-- Refuses a value of another type than the one expected. -/
def wrong (expected : String) : Reader α := do
  match ← next? with
  | some 'n' =>
    word "null".toList
    mismatch (.wrongType "null" expected)
  | some 't' =>
    word "true".toList
    mismatch (.wrongType "boolean `true`" expected)
  | some 'f' =>
    word "false".toList
    mismatch (.wrongType "boolean `false`" expected)
  | some '"' =>
    let s ← quoted
    mismatch (.wrongType s!"string {Text.quoted s}" expected)
  | some '[' => mismatch (.wrongType "sequence" expected)
  | some '\x7b' => mismatch (.wrongType "map" expected)
  | some c =>
    if c == '-' || c.isDigit then do
      let n ← numeral
      mismatch (.wrongType n.describe expected)
    else stopAt .value
  | none => stopAt .valueEnds

def stringAs (expected : String) : Reader String := do
  match ← next? with
  | some '"' => quoted
  | _ => wrong expected

def string : Reader String := stringAs "a string"

def boolean : Reader Bool := do
  match ← next? with
  | some 't' =>
    word "true".toList
    return true
  | some 'f' =>
    word "false".toList
    return false
  | _ => wrong "a boolean"

/-- A number of 64 bits without sign. -/
def natural : Reader Nat := do
  let expected := "usize"
  match ← next? with
  | none => wrong expected
  | some c =>
    if c == '-' || c.isDigit then do
      match ← numeral with
      | .natural n => return n
      | .negative n => mismatch (.wrongValue (Numeral.negative n).describe expected)
      | .float neg b => mismatch (.wrongType (Numeral.float neg b).describe expected)
    else wrong expected

/-- Null is an absent value. -/
def optional (read : Reader α) : Reader (Option α) := do
  match ← next? with
  | some 'n' =>
    word "null".toList
    return none
  | _ => return some (← read)

/-! ### Lists -/

/-- Whether another element or member comes before the closing bracket. -/
def another (b : Bracket) (first : Bool) (cause : Cause) : Reader Bool := do
  match ← next? with
  | none => stopAt b.atEnd
  | some c =>
    if c == b.closing then return false
    else if first then return true
    else if c == ',' then do
      drop
      match ← next? with
      | none => stopAt .valueEnds
      | some c => if c == b.closing then stopAt .trailingComma else return true
    else stopAt cause

/-- The elements up to the closing bracket. `fuel` bounds how many there are. -/
def itemsFrom (read : Reader α) (first : Bool) : Nat → Reader (List α)
  | 0 => return []
  | fuel + 1 => do
    if ← another .list first .listCommaOrEnd then do
      let a ← read
      let as ← itemsFrom read false fuel
      return a :: as
    else return []

/-- A list. -/
def items (read : Reader α) : Reader (List α) := do
  match ← next? with
  | some '[' => Bracket.list.around do itemsFrom read true ((← get).length + 1)
  | _ => wrong "a sequence"

/-- The element with index `i` of a list that stands for a record, if there is one. -/
def element? (i : Nat) (read : Reader α) : Reader (Option α) := do
  if ← another .list (i == 0) .listCommaOrEnd then return some (← read) else return none

/-- The element with index `i` of a list that stands for what is `expected`. -/
def element (expected : String) (i : Nat) (read : Reader α) : Reader α := do
  match ← element? i read with
  | some a => return a
  | none => loose (.wrongLength i expected)

/-! ### Objects -/

/-- The value of a member whose name has been read. -/
def valueOf (read : Reader α) : Reader α := do
  match ← next? with
  | none => stopAt .objectEnds
  | some ':' =>
    drop
    read
  | some _ => stopAt .colon

/-- The name of the next member, if there is one. -/
def key? (first : Bool) : Reader (Option String) := do
  if ← another .object first .objectCommaOrEnd then
    match ← peek? with
    | some '"' => return some (← quoted)
    | _ => stopAt .keyType
  else return none

/-- Takes all members into a draft. `fuel` bounds how many there are. -/
def membersFrom (take : String → σ → Reader σ) (first : Bool) : Nat → σ → Reader σ
  | 0, draft => return draft
  | fuel + 1, draft => do
    match ← key? first with
    | none => return draft
    | some name => do
      let draft ← take name draft
      membersFrom take false fuel draft

def members (take : String → σ → Reader σ) (draft : σ) : Reader σ := do
  membersFrom take true ((← get).length + 1) draft

/-! ### Values that nobody looks at -/

/-- What follows a backslash in a string that nobody looks at. -/
def skipEscape : Reader Unit := do
  match ← peek? with
  | none => stop .stringEnds
  | some 'u' =>
    drop
    let _ ← fourDigits
  | some c => if (escaped? c).isSome then drop else stopAt .escape

def skipStringFrom : Nat → Reader Unit
  | 0 => stop .stringEnds
  | fuel + 1 => do
    match ← peek? with
    | none => stop .stringEnds
    | some '"' => drop
    | some '\\' =>
      drop
      skipEscape
      skipStringFrom fuel
    | some c =>
      if isControl c then stop .control
      else do
        drop
        skipStringFrom fuel

/-- A string whose opening quote is next. -/
def skipString : Reader Unit := do
  drop
  skipStringFrom ((← get).length + 1)

mutual

/-- Any value. `fuel` bounds the number of steps. -/
def skipFrom : Nat → Reader Unit
  | 0 => return
  | fuel + 1 => do
    match ← next? with
    | none => stopAt .valueEnds
    | some 'n' => word "null".toList
    | some 't' => word "true".toList
    | some 'f' => word "false".toList
    | some '"' => skipString
    | some '[' =>
      drop
      match ← next? with
      | some ']' => drop
      | none => stopAt .listEnds
      | _ => skipItems fuel
    | some '\x7b' =>
      drop
      match ← next? with
      | some '\x7d' => drop
      | _ => skipMembers fuel
    | some c =>
      if c == '-' || c.isDigit then do
        let _ ← lexeme .number false
      else stopAt .value

/-- The elements of a list, of which there is one, with the closing bracket. -/
def skipItems : Nat → Reader Unit
  | 0 => return
  | fuel + 1 => do
    skipFrom fuel
    match ← next? with
    | some ',' =>
      drop
      skipItems fuel
    | some ']' => drop
    | some _ => stopAt .listCommaOrEnd
    | none => stopAt .listEnds

/-- The members of an object, of which there is one, with the closing bracket. -/
def skipMembers : Nat → Reader Unit
  | 0 => return
  | fuel + 1 => do
    match ← next? with
    | some '"' => skipString
    | some _ => stopAt .keyType
    | none => stopAt .objectEnds
    valueOf (skipFrom fuel)
    match ← next? with
    | some ',' =>
      drop
      skipMembers fuel
    | some '\x7d' => drop
    | some _ => stopAt .objectCommaOrEnd
    | none => stopAt .objectEnds

end

/-- Any value, which may be nested as deep as the text allows. -/
def skip : Reader Unit := do skipFrom (2 * (← get).length + 2)

/-! ### Records -/

/-- A member of a record that is being read into a draft of type `σ`. -/
structure Field (σ : Type) where
  name : String
  present : σ → Bool
  read : σ → Reader σ

/-- A member whose value is kept in one place of the draft. -/
def Field.ofSlot {β : Type} (name : String) (read : Reader β) (get : σ → Option β)
    (set : σ → β → σ) : Field σ where
  name
  present := fun d => (get d).isSome
  read := fun d => do return set d (← read)

/-- Takes one member into a draft. Unknown ones are skipped, known ones come once. -/
def Field.take (fields : List (Field σ)) (name : String) (draft : σ) : Reader σ := do
  match fields.find? (·.name == name) with
  | none =>
    valueOf skip
    return draft
  | some f =>
    if f.present draft then loose (.duplicateField name) else valueOf (f.read draft)

/-- A value that a record must have. -/
def required {β : Type} (name : String) : Option β → Except Mismatch β
  | some b => .ok b
  | none => .error (.missingField name)

/-- A record from the members of an object. -/
def object (fields : List (Field σ)) (draft : σ) (finish : σ → Except Mismatch α) : Reader α := do
  match finish (← members (Field.take fields) draft) with
  | .ok a => return a
  | .error m => loose m

/-- A record, from the members of an object or from the elements of a list. -/
def record (expected : String) (ofObject ofList : Reader α) : Reader α := do
  match ← next? with
  | some '\x7b' => Bracket.object.around ofObject
  | some '[' => Bracket.list.around ofList
  | _ => wrong expected

/-! ### Whole texts -/

/-- The value of a text that holds nothing else. -/
def Reader.ofText (read : Reader α) (text : List Char) : Except Fault α := do
  let (a, rest) ← read text
  let rest := rest.dropWhile isSpace
  if rest.isEmpty then return a else throw ⟨.trailingCharacters, rest, 1, false⟩

end HookPlan.Json
