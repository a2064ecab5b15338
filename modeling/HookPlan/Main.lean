import HookPlan.CommandLine.Run

/-!
# The program

Looks at the files of the machine, answers the arguments and ends with the exit code.
-/

namespace HookPlan.CommandLine

/-- What went wrong with a file. -/
def faultOf : IO.Error → Files.Fault
  | .noFileOrDirectory .. => .missing
  | .permissionDenied .. => .denied
  | .inappropriateType .. => .notDirectory
  | e => .other (toString e)

/-- The path without detours. -/
def realPath (path : String) : IO (Except Files.Fault String) := do
  try
    return .ok (← IO.FS.realPath path).toString
  catch e => return .error (faultOf e)

/-- What is at a path. -/
def kind (path : String) : IO (Option Files.Kind) := do
  try
    let real ← IO.FS.realPath path
    if ← real.isDir then return some .directory
    return if ← real.pathExists then some .file else none
  catch _ => return none

/-- The content of a file. -/
def read (path : String) : IO (Except Files.Fault ByteArray) := do
  if (← kind path) == some .directory then return .error .isDirectory
  try
    return .ok (← IO.FS.readBinFile path)
  catch e => return .error (faultOf e)

/-- The variables that matter. -/
def variableNames : List String :=
  Setting.configuration.envName :: Setting.format.envName :: ["CLICOLOR_FORCE", "NO_COLOR"]

def environment : IO Environment := do
  let values ← variableNames.mapM fun name => return (name, ← IO.getEnv name)
  return fun name => (values.lookup name).join

end HookPlan.CommandLine

def main (arguments : List String) : IO UInt32 := do
  let place : HookPlan.CommandLine.Surroundings IO := {
    files := {
      kind := HookPlan.CommandLine.kind
      read := HookPlan.CommandLine.read
      realPath := HookPlan.CommandLine.realPath }
    environment := ← HookPlan.CommandLine.environment
    home := (← IO.getEnv "HOME").getD "" }
  let outcome ← HookPlan.CommandLine.run arguments place
  (← IO.getStdout).putStr outcome.output
  (← IO.getStderr).putStr outcome.errors
  return outcome.exit.toUInt32
