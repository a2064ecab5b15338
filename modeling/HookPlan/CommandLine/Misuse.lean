import HookPlan.CommandLine.Grammar

/-!
# Arguments that make no sense

* `Misuse`: what is wrong with the arguments of a command.
* `Misuse.message`: the wording, with advice and the usage of the command.
-/

namespace HookPlan.CommandLine

/-- What could have been meant instead of an unknown argument. -/
inductive Advice where
  /-- A switch of the same command. -/
  | switch (s : Switch)
  /-- A switch of another command that is named later. -/
  | switchOf (c : Command) (s : Switch)
  /-- The argument itself, after two dashes. -/
  | asOperand
  /-- A command, without the two dashes before it. -/
  | asCommand
  deriving Repr, DecidableEq

/-- What is wrong with the arguments of a command. `used` are the switches seen before. -/
inductive Misuse where
  | commandMissing
  | commandUnknown (name : String) (similar : List String)
  | unexpected (argument : String) (advice : Option Advice) (used : List Switch) (hasPaths : Bool)
  | repeated (s : Switch)
  | valueMissing (s : Switch)
  | valueUnneeded (s : Switch) (value : String) (used : List Switch)
  | pathsMissing (used : List Switch)
  deriving Repr, DecidableEq

namespace Misuse

/-- A text with a word in quotes. -/
def quoted (role : Role) (s : String) : Styled := [(.plain, "'"), (role, s), (.plain, "'")]

/-- Values with commas between them. -/
def listed (f : String → Styled) : List String → Styled
  | [] => []
  | [s] => f s
  | s :: ss => f s ++ (.plain, ", ") :: listed f ss

/-- What is wrong, in words. -/
def problem (c : Command) : Misuse → Styled
  | commandMissing =>
    quoted .invalid c.call
      ++ [(.plain, " requires a subcommand but one was not provided\n  [subcommands: ")]
      ++ listed (fun s => [(.valid, s)]) (Command.named.map Command.name) ++ [(.plain, "]")]
  | commandUnknown name _ => (.plain, "unrecognized subcommand ") :: quoted .invalid name
  | unexpected argument _ _ _ =>
    (.plain, "unexpected argument ") :: quoted .invalid argument ++ [(.plain, " found")]
  | repeated s =>
    (.plain, "the argument ") :: quoted .invalid s.text
      ++ [(.plain, " cannot be used multiple times")]
  | valueMissing s =>
    (.plain, "a value is required for ") :: quoted .literal s.text
      ++ [(.plain, " but none was supplied")]
  | valueUnneeded s value _ =>
    (.plain, "unexpected value ") :: quoted .invalid value ++ (.plain, " for ")
      :: quoted .literal s.dashed ++ [(.plain, " found; no more were expected")]
  | pathsMissing _ =>
    [(.plain, "the following required arguments were not provided:\n  "),
      (.valid, (c.positional?.map (·.1)).getD "")]

def tip : Styled := [(.plain, "\n\n  "), (.valid, "tip:")]

/-- What could have been meant. -/
def adviceText (argument : String) : Advice → Styled
  | .switch s => tip ++ (.plain, " a similar argument exists: ") :: quoted .valid s.dashed
  | .switchOf c s => tip ++ (.plain, " ") :: quoted .valid (c.name ++ " " ++ s.dashed)
      ++ [(.plain, " exists")]
  | .asOperand => tip ++ (.plain, " to pass ") :: quoted .invalid argument
      ++ (.plain, " as a value, use ") :: quoted .valid ("-- " ++ argument)
  | .asCommand => tip ++ (.plain, " subcommand ") :: quoted .valid argument
      ++ (.plain, " exists; to use it, remove the ") :: quoted .invalid "--"
      ++ [(.plain, " before it")]

def advice : Misuse → Styled
  | commandUnknown _ [] => []
  | commandUnknown _ [s] =>
    tip ++ (.plain, " a similar subcommand exists: ") :: quoted .valid s
  | commandUnknown _ similar =>
    tip ++ (.plain, " some similar subcommands exist: ") :: listed (quoted .valid) similar
  | unexpected argument (some a) _ _ => adviceText argument a
  | _ => []

/-- The usage that goes with a misuse. -/
def usage (c : Command) : Misuse → Styled
  | commandMissing | commandUnknown _ _ | repeated _ => (.plain, "\n\n") :: c.usage
  | unexpected _ _ [] false => (.plain, "\n\n") :: c.usage
  | unexpected _ _ used _ | valueUnneeded _ _ used | pathsMissing used =>
    (.plain, "\n\n") :: c.usageWith used
  | valueMissing _ => []

/-- The whole message. -/
def message (c : Command) (m : Misuse) : Styled :=
  let more := match c.long? "help" with
    | some s => [(.plain, "\n\nFor more information, try "), (.plain, "'"), (.literal, s.dashed),
        (.plain, "'.\n")]
    | none => [(.plain, "\n")]
  [(.failure, "error:"), (.plain, " ")] ++ m.problem c ++ m.advice ++ m.usage c ++ more

end Misuse

end HookPlan.CommandLine
