/-!
# What can go wrong with a file

* `Fault.text`: the wording of the operating system, with its number for the cause.
-/

namespace HookPlan.Files

inductive Fault where
  | missing
  | notDirectory
  | isDirectory
  | denied
  /-- The content is no Unicode text. -/
  | notText
  /-- Whatever else the operating system reports. -/
  | other (text : String)
  deriving Repr, DecidableEq

namespace Fault

/-- The cause in words. -/
def reason : Fault → String
  | missing => "No such file or directory"
  | notDirectory => "Not a directory"
  | isDirectory => "Is a directory"
  | denied => "Permission denied"
  | notText => "stream did not contain valid UTF-8"
  | other text => text

/-- The number of a cause. -/
def number? : Fault → Option Nat
  | missing => some 2
  | notDirectory => some 20
  | isDirectory => some 21
  | denied => some 13
  | notText | other _ => none

def text (f : Fault) : String :=
  match f.number? with
  | some n => s!"{f.reason} (os error {n})"
  | none => f.reason

end Fault

end HookPlan.Files
