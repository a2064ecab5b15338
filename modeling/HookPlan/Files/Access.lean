import HookPlan.Files.Fault

/-!
# Access to files

What the library wants to know about files is asked through an `Access`, so that everything
built on it works alike on the files of a machine and on a `Tree` of them.

* `Access.readText`: the content of a file as text.
-/

namespace HookPlan.Files

inductive Kind where
  | file
  | directory
  deriving Repr, DecidableEq

/-- The questions that can be put to a file system. Links are followed. -/
structure Access (m : Type → Type) where
  /-- What is at a path, if anything can be seen there. -/
  kind : String → m (Option Kind)
  /-- The content of a file. -/
  read : String → m (Except Fault ByteArray)
  /-- The absolute path of what is at a path, without detours. -/
  realPath : String → m (Except Fault String)

namespace Access

variable {m : Type → Type} [Monad m]

/-- Whether anything is at a path. -/
def occupied (files : Access m) (path : String) : m Bool := return (← files.kind path).isSome

def isFile (files : Access m) (path : String) : m Bool := return (← files.kind path) == some .file

def isDirectory (files : Access m) (path : String) : m Bool :=
  return (← files.kind path) == some .directory

/-- The content of a file that holds text. -/
def readText (files : Access m) (path : String) : m (Except Fault String) := do
  match ← files.read path with
  | .error e => return .error e
  | .ok bytes =>
    match String.fromUTF8? bytes with
    | some text => return .ok text
    | none => return .error .notText

end Access

end HookPlan.Files
