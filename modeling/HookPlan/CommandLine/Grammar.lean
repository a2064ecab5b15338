import HookPlan.CommandLine.Style
import HookPlan.Error

/-!
# The commands and their arguments

* `Command`, `Switch`: what can be typed.
* `Command.usage`: one line that shows how a command is used.
* `Command.help`: the description of a command.
-/

namespace HookPlan.CommandLine

inductive Command where
  /-- The program itself, before another command is named. -/
  | root
  | plan
  | check
  | select
  | help
  deriving Repr, DecidableEq

inductive Switch where
  | configuration
  | hook
  | json
  | help
  | version
  deriving Repr, DecidableEq

/-- The name that the program is called by. -/
def programName : String := "git-hookwire"

def versionText : String := "hookwire 0.1.0\n"

namespace Switch

/-- The name after two dashes. -/
def long : Switch → String
  | configuration => "config"
  | hook => "hook"
  | json => "json"
  | help => "help"
  | version => "version"

/-- The letter after one dash. -/
def short? : Switch → Option Char
  | configuration => some 'c'
  | hook => some 'n'
  | json => none
  | help => some 'h'
  | version => some 'V'

/-- What stands for the value of a switch that takes one. -/
def value? : Switch → Option String
  | configuration => some "CONFIG"
  | hook => some "HOOK"
  | json | help | version => none

def takesValue (s : Switch) : Bool := s.value?.isSome

def summary : Switch → String
  | configuration =>
    s!"Hook configuration to read (default: {configurationName} at the repository root)"
  | hook => "Narrow down the plan to the steps invoking this hook id"
  | json => "Print the plan as JSON"
  | help => "Print help"
  | version => "Print version"

def dashed (s : Switch) : String := "--" ++ s.long

def valueText (s : Switch) : String :=
  match s.value? with
  | some v => s!" <{v}>"
  | none => ""

/-- A switch with the place for its value. -/
def text (s : Switch) : String := s.dashed ++ s.valueText

end Switch

namespace Command

/-- The commands that can be named, in the order of the help. -/
def named : List Command := [plan, check, select, help]

def name : Command → String
  | root => programName
  | plan => "plan"
  | check => "check"
  | select => "select"
  | help => "help"

/-- The command with a name. -/
def named? (s : String) : Option Command := named.find? (·.name == s)

def summary : Command → String
  | root => "Resolves pre-commit style hook configuration into an ordered execution plan"
  | plan => "Prints the resolved execution plan"
  | check => "Resolves the configuration and compiles every file pattern"
  | select => "Prints the steps the given paths would trigger"
  | help => "Print this message or the help of the given subcommand(s)"

/-- The switches of a command, in the order of the help. -/
def switches : Command → List Switch
  | root => [.configuration, .hook, .help, .version]
  | plan => [.configuration, .json, .hook, .help]
  | check | select => [.configuration, .hook, .help]
  | help => []

def long? (c : Command) (name : String) : Option Switch := c.switches.find? (·.long == name)

def short? (c : Command) (letter : Char) : Option Switch :=
  c.switches.find? (·.short? == some letter)

/-- What stands for the arguments without a switch, and what they are. -/
def positional? : Command → Option (String × String)
  | select => some ("<PATHS>...", "Changed paths, relative to the repository root")
  | help => some ("[COMMAND]...", "Print help for the subcommand(s)")
  | root | plan | check => none

/-- Whether other commands can be named after it. -/
def hasCommands (c : Command) : Bool := c == root

/-- The words that call a command. -/
def call : Command → String
  | root => programName
  | c => programName ++ " " ++ c.name

/-- What follows the switches of a command. -/
def operands (c : Command) : String :=
  (match c.positional? with
    | some (s, _) => " " ++ s
    | none => "") ++ (if c.hasCommands then " <COMMAND>" else "")

/-- How a command is used in general. -/
def usage (c : Command) : Styled :=
  let switches := if c.switches.isEmpty then "" else " [OPTIONS]"
  [(.header, "Usage:"), (.plain, " "), (.literal, c.call), (.plain, switches ++ c.operands)]

/-- How a command is used with some switches. -/
def usageWith (c : Command) (used : List Switch) : Styled :=
  [(.header, "Usage:"), (.plain, " "), (.literal, c.call)]
    ++ used.flatMap (fun s => [(.plain, " "), (.literal, s.dashed), (.plain, s.valueText)])
    ++ [(.plain, c.operands)]

/-- A row of the help: what is typed, and what it does. -/
structure Row where
  left : Styled
  right : String

def Row.width (r : Row) : Nat := r.left.foldl (fun n p => n + p.2.length) 0

def switchRow (s : Switch) : Row where
  left := (match s.short? with
      | some c => [(.literal, String.ofList ['-', c]), (.plain, ", ")]
      | none => [(.plain, "    ")])
    ++ [(.literal, s.dashed), (.plain, s.valueText)]
  right := s.summary

/-- A part of the help: a title, and rows whose right sides start in one column. -/
def sectionText (title : String) (rows : List Row) : Styled :=
  if rows.isEmpty then []
  else
    let width := (rows.map Row.width).foldl max 0
    let rowText (r : Row) : Styled :=
      let gap := String.ofList (List.replicate (width - r.width + 2) ' ')
      (.plain, "  ") :: r.left ++ [(.plain, gap ++ r.right ++ "\n")]
    (.plain, "\n") :: (.header, title ++ ":") :: (.plain, "\n") :: rows.flatMap rowText

/-- The description of a command. -/
def helpText (c : Command) : Styled :=
  let commands := if c.hasCommands then named else []
  [(.plain, c.summary ++ "\n\n")] ++ c.usage ++ [(.plain, "\n")]
    ++ sectionText "Commands" (commands.map fun d => ⟨[(.literal, d.name)], d.summary⟩)
    ++ sectionText "Arguments" (c.positional?.toList.map fun (s, d) => ⟨[(.plain, s)], d⟩)
    ++ sectionText "Options" (c.switches.map switchRow)

end Command

end HookPlan.CommandLine
