import HookPlan.CommandLine.Misuse
import HookPlan.CommandLine.Similarity

/-!
# Reading arguments

The words after the program's name are read from left to right, first for the program itself
and, from the name of a command on, for that command. A switch may take the next word as its
value. Two dashes end the switches.

* `Request`: what is asked for.
* `Stop`: why nothing is done: help, the version or a misuse.
* `Request.ofArguments`: the request in some arguments.
-/

namespace HookPlan.CommandLine

inductive Action where
  | plan (json : Bool)
  | check
  | select (paths : List String)
  deriving Repr, DecidableEq

structure Request where
  action : Action
  configuration : Option String := none
  hook : Option String := none
  deriving Repr, DecidableEq

inductive Stop where
  /-- The description of a command. It is an answer if it was asked for. -/
  | help (c : Command) (isAsked : Bool)
  | version
  | misuse (c : Command) (m : Misuse)
  deriving Repr, DecidableEq

/-- What waits for the next words. -/
inductive Pending where
  | nothing
  /-- A switch without its value. -/
  | awaiting (s : Switch)
  /-- A switch with its value, which has not been looked at. -/
  | valued (s : Switch) (value : String)
  deriving Repr, DecidableEq

/-- The arguments of one command as far as they have been read. -/
structure Reading where
  command : Command
  /-- The switches seen, with their values. -/
  switches : List (Switch × String) := []
  paths : List String := []
  pending : Pending := .nothing

namespace Reading

def used (r : Reading) : List Switch := r.switches.map (·.1)

def has (r : Reading) (s : Switch) : Bool := r.used.contains s

/-- Takes a switch with its value. It must be new, and a path must not be empty. -/
def take (r : Reading) (s : Switch) (value : String) : Reading × Option Misuse :=
  if r.has s then
    ({ r with switches := r.switches.filter (·.1 != s) }, some (.repeated s))
  else
    let r := { r with switches := r.switches ++ [(s, value)] }
    (r, if s == .configuration && value.isEmpty then some (.valueMissing s) else none)

/-- Takes what waits. A misuse leaves what had been taken until then. -/
def settle (r : Reading) : Reading × Option Misuse :=
  let rest := { r with pending := .nothing }
  match r.pending with
  | .nothing => (r, none)
  | .awaiting s => (rest, some (.valueMissing s))
  | .valued s value => rest.take s value

/-- Takes what waits, which must be in order. -/
def settled (r : Reading) : Except Stop Reading :=
  match r.settle with
  | (r, none) => .ok r
  | (_, some m) => .error (.misuse r.command m)

/-- Takes a switch with its value after what waits. -/
def add (r : Reading) (s : Switch) (value : String) : Except Stop Reading := do
  let r ← r.settled
  match r.take s value with
  | (r, none) => return r
  | (_, some m) => throw (.misuse r.command m)

/-- Takes a switch without a value. -/
def flag (r : Reading) (s : Switch) : Except Stop Reading := do
  let r ← r.settled
  match s with
  | .help => throw (.help r.command true)
  | .version => throw .version
  | .configuration | .hook | .json => r.add s ""

/-- A switch whose value is the next word. -/
def await (r : Reading) (s : Switch) : Except Stop Reading := do
  let r ← r.settled
  return { r with pending := .awaiting s }

/-- The switch of some command whose name is most alike to `name`. -/
def similar? (c : Command) (name : String) : Option Switch :=
  let known := [Switch.json, .configuration, .hook, .help, .version].filter c.switches.contains
  ((alike name (known.map Switch.long)).getLast?).bind c.long?

/-- A switch of a command that is named among the words that follow. -/
def similarLater? (name : String) (rest : List String) : Option Advice :=
  let found := Command.named.filterMap fun c =>
    match similar? c name, rest.idxOf? c.name with
    | some s, some i => some (i, Advice.switchOf c s)
    | _, _ => none
  (found.mergeSort fun a b => a.1 ≤ b.1).head?.map (·.2)

/-- An unknown switch with a long name. -/
def unknownLong (r : Reading) (name : String) (rest : List String) : Stop :=
  let (r, _) := r.settle
  let later := if r.command.hasCommands then similarLater? name rest else none
  let other := if r.command.positional?.isSome then some Advice.asOperand else none
  match similar? r.command name with
  | some s =>
    let used := if r.has s then r.used else r.used ++ [s]
    .misuse r.command (.unexpected ("--" ++ name) (some (.switch s)) used !r.paths.isEmpty)
  | none =>
    .misuse r.command (.unexpected ("--" ++ name) (later <|> other) r.used !r.paths.isEmpty)

/-- A switch with a long name, and its value if there is an equals sign. -/
def long (r : Reading) (name : String) (value : Option String) (rest : List String) :
    Except Stop Reading :=
  match r.command.long? name, value with
  | none, _ => .error (r.unknownLong name rest)
  | some s, some value =>
    if s.takesValue then r.add s value
    else
      let used := if r.has s then r.used else r.used ++ [s]
      .error (.misuse r.command (.valueUnneeded s value used))
  | some s, none => if s.takesValue then r.await s else r.flag s

/-- Switches with names of one letter. What follows one that takes a value is its value. -/
def letters (r : Reading) : List Char → Except Stop Reading
  | [] => .ok r
  | c :: cs =>
    match r.command.short? c with
    | none =>
      let advice := if r.command.positional?.isSome then some Advice.asOperand else none
      .error (.misuse r.command (.unexpected (String.ofList ['-', c]) advice [] false))
    | some s =>
      if s.takesValue then
        match cs with
        | [] => r.await s
        | '=' :: cs => r.add s (String.ofList cs)
        | cs => r.add s (String.ofList cs)
      else do
        let r ← r.flag s
        r.letters cs

/-- A word that is neither a switch nor the name of a command. -/
def operand (r : Reading) (word : String) (isAfterDashes : Bool) : Except Stop Reading :=
  match r.command with
  | .select => do
    let r ← r.settled
    return { r with paths := r.paths ++ [word] }
  | .root =>
    if isAfterDashes && (Command.named? word).isSome then
      .error (.misuse .root (.unexpected word (some .asCommand) [] false))
    else
      .error (.misuse .root (.commandUnknown word (alike word (Command.named.map Command.name))))
  | c => .error (.misuse c (.unexpected word none [] false))

/-- The name and the value of a switch with a long name. -/
def splitLong (cs : List Char) : String × Option String :=
  let name := cs.takeWhile (· != '=')
  match cs.dropWhile (· != '=') with
  | _ :: value => (String.ofList name, some (String.ofList value))
  | [] => (String.ofList name, none)

/-- One word before the two dashes; `rest` are the words after it. -/
def word (r : Reading) (w : String) (rest : List String) : Except Stop Reading :=
  match w.toList, r.pending with
  | '-' :: '-' :: cs, _ => r.long (splitLong cs).1 (splitLong cs).2 rest
  | '-' :: c :: cs, _ => r.letters (c :: cs)
  | _, .awaiting s => .ok { r with pending := .valued s w }
  | _, _ => r.operand w false

/-- The command that a word names, unless it is the value of a switch. -/
def named? (r : Reading) (w : String) : Option Command :=
  match r.pending with
  | .awaiting _ => none
  | _ => if r.command.hasCommands then Command.named? w else none

/-- The words of a command, up to the name of another one. -/
def words (r : Reading) : List String → Except Stop (Reading × Option (Command × List String))
  | [] => .ok (r, none)
  | w :: ws =>
    match r.named? w with
    | some c => .ok (r, some (c, ws))
    | none =>
      if w == "--" then do
        let r ← ws.foldlM (fun r w => r.operand w true) r
        return (r, none)
      else do
        let r ← r.word w ws
        r.words ws

/-- The value of a switch. -/
def valueOf (r : Reading) (s : Switch) : Option String := r.switches.lookup s

/-- The action of a command whose words have all been read. -/
def action (r : Reading) : Except Stop Action :=
  match r.command with
  | .select =>
    if r.paths.isEmpty then .error (.misuse .select (.pathsMissing r.used))
    else .ok (.select r.paths)
  | .check => .ok .check
  | .plan | .root | .help => .ok (.plan (r.has .json))

end Reading

/-- What follows the name of the command for help: names of commands. -/
def helpFor (c : Command) : List String → Stop
  | [] => .help c true
  | w :: ws =>
    match if c.hasCommands then Command.named? w else none with
    | some d => helpFor d ws
    | none => .misuse c (.commandUnknown w [])

/-- The request in some arguments. A command's own values come before those given earlier. -/
def Request.ofArguments (arguments : List String) : Except Stop Request := do
  let (outer, next) ← ({ command := .root } : Reading).words arguments
  match next with
  | some (.help, ws) => throw (helpFor .root ws)
  | some (c, ws) =>
    let (inner, _) ← ({ command := c } : Reading).words ws
    let inner ← inner.settled
    let action ← inner.action
    let outer ← outer.settled
    return {
      action
      configuration := inner.valueOf .configuration <|> outer.valueOf .configuration
      hook := inner.valueOf .hook <|> outer.valueOf .hook }
  | none =>
    let outer ← outer.settled
    if outer.switches.isEmpty then throw (.help .root false)
    else throw (.misuse .root .commandMissing)

end HookPlan.CommandLine
