import HookPlan.CommandLine.Arguments
import HookPlan.Configuration.Locate
import HookPlan.Plan.Json
import HookPlan.Plan.Matcher
import HookPlan.Resolve

/-!
# Running the program

A run reads the settings, then the configuration, resolves it to a plan and does with the plan
what is asked for. It succeeds, finds fault with the patterns of the plan, or fails with one
error and prints nothing else.

* `Request.run`: what a request leaves behind.
* `run`: what the program leaves behind for its arguments.
-/

namespace HookPlan.CommandLine

open Files (Access)

variable {m : Type → Type} [Monad m]

/-- Why a run fails. -/
inductive Failure where
  | settings (cause : Plan.Format.Unknown)
  | workingDirectory (cause : Files.Fault)
  | plan (cause : Error)
  deriving Repr, DecidableEq

def Failure.text : Failure → String
  | settings cause => cause.text
  | workingDirectory cause => s!"could not get the current directory: {cause.text}"
  | plan cause => cause.report

/-- Where a run takes place. -/
structure Surroundings (m : Type → Type) where
  files : Access m
  environment : Environment
  home : String

/-- A question whose answer may be an error, which is a failure of the run. -/
def ask {ε α : Type} (failure : ε → Failure) (question : m (Except ε α)) : ExceptT Failure m α :=
  ExceptT.mk (return (← question).mapError failure)

/-- The path of the configuration that a request is for. -/
def Request.path (r : Request) (s : Settings) (place : Surroundings m) :
    ExceptT Failure m String :=
  match r.configuration <|> s.configuration with
  | some path => return path
  | none => do
    let here ← ask .workingDirectory (place.files.realPath ".")
    ask .plan (Configuration.discover place.files place.home here)

/-- The plan of a configuration, with the steps for one hook only if there is one to keep. -/
def Request.planOf (r : Request) (c : Configuration) : Except Error Plan := do
  let p ← c.resolve .declaredOnly
  match r.hook with
  | some id => p.retain id
  | none => return p

/-- The plan that a request is for. -/
def Request.plan (r : Request) (s : Settings) (place : Surroundings m) :
    ExceptT Failure m Plan := do
  let path ← r.path s place
  let c ← ask .plan (Configuration.load place.files path)
  ask .plan (return r.planOf c)

/-! ### Output -/

/-- The text of some lines, each of which is ended. -/
def lines (ls : List String) : String := String.join (ls.map (· ++ "\n"))

/-- A step with all that is known of it. -/
def stepText (inColour : Bool) (s : Step) : String :=
  let title := paint inColour .bold s.name ++ " " ++ paint inColour .dim s!"[{s.hookId}]"
    ++ s!" ({s.location}@{s.revision})"
  let args := if s.args.isEmpty then "" else "\n      args: " ++ " ".intercalate s.args
  let files := match s.files.pattern? with
    | some p => "\n      files: " ++ p
    | none => ""
  let exclude := match s.exclude with
    | some p => "\n      exclude: " ++ p
    | none => ""
  title ++ args ++ files ++ exclude

/-- A plan for people. -/
def planLines (inColour : Bool) (p : Plan) : List String :=
  p.steps.mapIdx (fun i s => s!">> {i + 1}/{p.size} {stepText inColour s}")
    ++ if p.failFast then [paint inColour .yellow ">> fail_fast is enabled"] else []

/-- A plan in a format. -/
def planText (inColour : Bool) (format : Plan.Format) (p : Plan) : String :=
  match format with
  | .json => p.toText ++ "\n"
  | .text => lines (planLines inColour p)

/-- The outcome of compiling the patterns of a plan. -/
def reportText (inColour : Bool) (r : CheckReport) : String :=
  lines (r.problems.map (fun e => paint inColour .red s!"  ! {e.text}")
    ++ [s!">> {r.steps} steps checked"])

/-- The steps that some paths trigger. -/
def selectionText (inColour : Bool) (found : List Selection) : String :=
  if found.isEmpty then lines [">> No hook is triggered by the given paths"]
  else lines (found.flatMap fun s =>
    s!">> {stepText inColour s.step}" :: s.paths.map fun path => s!"    - {path}")

/-- What is printed for a plan, and whether all is well. -/
def Action.perform (inColour : Bool) (s : Settings) (p : Plan) :
    Action → Except Failure (String × Bool)
  | .plan json => .ok (planText inColour (if json then .json else s.format) p, true)
  | .check => .ok (reportText inColour p.check, p.check.isOk)
  | .select paths =>
    match (Matcher.select ⟨p, []⟩ paths).1 with
    | .ok found => .ok (selectionText inColour found, true)
    | .error cause => .error (.plan cause)

/-- What is printed for a request, and whether all is well. -/
def Request.answer (r : Request) (place : Surroundings m) :
    ExceptT Failure m (String × Bool) := do
  let settings ← ask .settings (Settings.load place.files place.environment place.home)
  let p ← r.plan settings place
  ask id (return r.action.perform (isPainted place.environment) settings p)

/-- The outcome of an answer. -/
def outcomeOf (inColour : Bool) : Except Failure (String × Bool) → Outcome
  | .ok (text, true) =>
    { exit := 0, output := text ++ paint inColour .boldGreen "Success" ++ "\n" }
  | .ok (text, false) =>
    { exit := 1, output := text ++ paint inColour .boldRed "Failure" ++ "\n" }
  | .error cause => { exit := 1, errors := paint inColour .boldRed cause.text ++ "\n" }

/-- What a request leaves behind. -/
def Request.run (r : Request) (place : Surroundings m) : m Outcome := do
  return outcomeOf (isPainted place.environment) (← (r.answer place).run)

/-- What is left behind when nothing is done. -/
def Stop.outcome (isStyled : Bool) : Stop → Outcome
  | .help c true => { exit := 0, output := c.helpText.text isStyled }
  | .help c false => { exit := 2, errors := c.helpText.text isStyled }
  | .version => { exit := 0, output := versionText }
  | .misuse c m => { exit := 2, errors := (m.message c).text isStyled }

/-- What the program leaves behind for its arguments. -/
def run (arguments : List String) (place : Surroundings m) : m Outcome :=
  match Request.ofArguments arguments with
  | .ok r => r.run place
  | .error stop => return stop.outcome (isStyled place.environment)

end HookPlan.CommandLine
