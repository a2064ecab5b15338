/-!
# Paths

A path is a text whose names are separated by slashes. One that starts with a slash is
absolute.

* `Path.join`: a path seen from another one.
* `Path.parent`: the directory that a path is in.
-/

namespace HookPlan.Files.Path

def isAbsolute (p : String) : Bool := p.startsWith "/"

def endsInSlash (p : String) : Bool := p.endsWith "/"

/-- The names of a path; an empty name stands where a slash has nothing beside it. -/
def names (p : String) : List String := p.splitOn "/"

/-- The directory's path with a slash at its end. -/
def asDirectory (p : String) : String := if endsInSlash p then p else p ++ "/"

/-- The path `q` seen from the directory `p`. An absolute path is the same from everywhere. -/
def join (p q : String) : String :=
  if isAbsolute q || p.isEmpty then q else asDirectory p ++ q

/-- The directory that an absolute path is in. The root is in itself. -/
def parent (p : String) : String :=
  let dir := "/".intercalate (names p).dropLast
  if dir.isEmpty then "/" else dir

/-- An absolute path and the directories above it, the nearest first, without the root. -/
def ancestors (p : String) : List String :=
  let rec up : Nat → String → List String
    | 0, _ => []
    | n + 1, p => if p == "/" then [] else p :: up n (parent p)
  up (names p).length p

end HookPlan.Files.Path
