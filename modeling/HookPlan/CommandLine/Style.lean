import HookPlan.Settings

/-!
# Text in colours

Terminals change the look of a text on escape sequences. What the program says about itself
is a `Styled` text, whose parts have a role; what it says about plans is painted piece by piece.

* `Styled.text`: a text with or without sequences.
* `paint`: a piece of text between two sequences.
* `isPainted`, `isStyled`: what the environment asks for.
-/

namespace HookPlan.CommandLine

/-- Ends every look. -/
def reset : String := "\x1b[0m"

/-- The role of a piece of text. -/
inductive Role where
  | plain
  | header
  /-- To be typed as it is. -/
  | literal
  | valid
  | invalid
  | failure
  deriving Repr, DecidableEq

/-- What switches the look of a role on. -/
def Role.start : Role → String
  | plain => ""
  | header => "\x1b[1m\x1b[4m"
  | literal => "\x1b[1m"
  | valid => "\x1b[32m"
  | invalid => "\x1b[33m"
  | failure => "\x1b[1m\x1b[31m"

/-- A text in pieces with roles. -/
abbrev Styled := List (Role × String)

namespace Styled

def plain (s : String) : Styled := [(.plain, s)]

def piece (inColour : Bool) : Role × String → String
  | (.plain, s) => s
  | (role, s) => if inColour then role.start ++ s ++ reset else s

/-- A text as it is sent to a terminal. -/
def text (inColour : Bool) (t : Styled) : String := String.join (t.map (piece inColour))

end Styled

/-- The look of a piece of output. -/
inductive Look where
  | bold
  | dim
  | red
  | yellow
  | boldRed
  | boldGreen
  deriving Repr, DecidableEq

def Look.start : Look → String
  | bold => "\x1b[1m"
  | dim => "\x1b[2m"
  | red => "\x1b[31m"
  | yellow => "\x1b[33m"
  | boldRed => "\x1b[1;31m"
  | boldGreen => "\x1b[1;32m"

/-- A text in which each part that matches `old` is followed by `more`. -/
def addAfter (old more : List Char) : Nat → List Char → List Char
  | _, [] => []
  | 0, c :: cs =>
    if old.isPrefixOf (c :: cs) then c :: addAfter old more (old.length - 1) cs
    else c :: addAfter old more 0 cs
  | 1, c :: cs => c :: more ++ addAfter old more 0 cs
  | n + 2, c :: cs => c :: addAfter old more (n + 1) cs

/-- A piece of output with a look. Where the look is ended inside of it, it starts again. -/
def paint (inColour : Bool) (look : Look) (s : String) : String :=
  if inColour then
    let inner := String.ofList (addAfter reset.toList look.start.toList 0 s.toList)
    look.start ++ inner ++ reset
  else s

/-- Whether the environment insists on colours. -/
def forcesColour (env : Environment) : Bool := (env "CLICOLOR_FORCE").any (· != "0")

/-- Whether output is painted although it does not go to a terminal. -/
def isPainted (env : Environment) : Bool := forcesColour env

/-- Whether what the program says about itself is styled; this can also be forbidden. -/
def isStyled (env : Environment) : Bool :=
  forcesColour env && !(env "NO_COLOR").any (!·.isEmpty)

/-- What a run of the program leaves behind. -/
structure Outcome where
  exit : Nat
  output : String := ""
  errors : String := ""
  deriving Repr, DecidableEq

end HookPlan.CommandLine
