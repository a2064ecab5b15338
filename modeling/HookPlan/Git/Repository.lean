import HookPlan.Files.Access
import HookPlan.Files.Path
import HookPlan.Git.Fault

/-!
# Finding repositories

The repository of a path is the nearest one that is in its directory, is that directory
itself, or is in or is one of the directories above it. A repository is a directory with a
head, objects and references; a file named `.git` can stand in for it.

* `Repository.discover`: the repository of a path, with its configuration and working tree.
* `Config.load`: the variables of a configuration file and of the files it includes.

Less is looked at here than git itself looks at. Of the files outside a repository only `.gitconfig`
in the home directory counts, and neither the one for the whole system nor the one among other
programs' configurations (XDG). A file is included with `include.path` alone, not under a condition
(`includeIf`). What a repository says about its own format is no matter: git opens none of a version
or with an extension that it does not know, and none that belongs to another user.
-/

namespace HookPlan.Git

open Files (Access Path.join)

variable {m : Type → Type} [Monad m]

/-- Questions whose answer may be a fault. -/
abbrev Ask (m : Type → Type) := ExceptT Fault m

/-- The variables that a file in a home directory or a repository may set. The last ones win. -/
abbrev Variables := List Config.Variable

namespace Config

/-- The path of an included file. -/
def includedPath (home file : String) (value : List Char) : String :=
  match value with
  | '~' :: '/' :: rest => Path.join home (String.ofList rest)
  | _ => Path.join (Files.Path.parent file) ((decode? value).getD (String.ofList value))

mutual

/-- The variables of the file at a path, with those of the files it includes in their places.
A file that is not there has none. -/
def load (files : Access m) (home : String) (path : String) : Nat → Ask m Variables
  | 0 => throw .includedTooDeep
  | depth + 1 => do
    match ← files.read path with
    | .ok bytes =>
      match parse (ofBytes bytes) with
      | .ok vs => expand files home path depth vs
      | .error e => throw (.config path e)
    | .error .missing | .error .notDirectory => return []
    | .error e => throw (.unreadable path e)
  termination_by depth => (depth, 0)

def expand (files : Access m) (home : String) (path : String) (depth : Nat) :
    List Variable → Ask m Variables
  | [] => return []
  | v :: vs => do
    let here : Variables ←
      match v.value with
      | some value =>
        if v.name == "include.path".toList then do
          let more ← load files home (includedPath home path value) depth
          pure (v :: more)
        else pure [v]
      | none => pure [v]
    let more ← expand files home path depth vs
    return here ++ more
  termination_by vs => (depth, vs.length + 1)

end

/-- Files may include files that include files, and so on for this many levels. -/
def maxDepth : Nat := 10

/-- The variables of the file in a home directory, the only one outside a repository that counts. -/
def loadGlobal (files : Access m) (home : String) : Ask m Variables :=
  if home.isEmpty then return [] else load files home (Path.join home ".gitconfig") maxDepth

end Config

/-- A repository that has been found. -/
structure Repository where
  /-- The directory of the repository, with a slash at its end. -/
  directory : String
  /-- The directory that it shares with its other working trees. -/
  common : String
  /-- Its variables and those of the home directory, which are overruled. -/
  config : Variables
  /-- The directory that the files are checked out in, unless the repository is bare. -/
  workTree : Option String

namespace Repository

def realPath (files : Access m) (path : String) : Ask m String := do
  match ← files.realPath path with
  | .ok real => return real
  | .error e => throw (.unresolved path e)

def readText (files : Access m) (path : String) : Ask m String := do
  match ← files.readText path with
  | .ok text => return text
  | .error e => throw (.unreadable path e)

/-- The text of a file without the spaces at its end. -/
def trimmed (text : String) : String :=
  String.ofList ((text.toList.reverse.dropWhile Config.isSpace).reverse)

/-- The directory with what several working trees share. -/
def commonOf (files : Access m) (dir : String) : Ask m String := do
  let file := Path.join dir "commondir"
  if ← files.isFile file then
    let link ← readText files file
    return Files.Path.asDirectory (← realPath files (Path.join dir (trimmed link)))
  else return Files.Path.asDirectory dir

/-- The common directory of the repository at a path, if there is a repository. -/
def commonOf? (files : Access m) (dir : String) : Ask m (Option String) := do
  let common ← commonOf files dir
  if ← files.isFile (Path.join dir "HEAD") then
    if ← files.isDirectory (Path.join common "objects") then
      if ← files.isDirectory (Path.join common "refs") then return some common
  return none

/-- The directory that a `.git` file names. -/
def followLink (files : Access m) (path : String) : Ask m String := do
  let text := trimmed (← readText files path)
  let label := "gitdir:"
  if label.length < text.length && text.startsWith label then
    let target := String.ofList ((text.toList.drop label.length).dropWhile Config.isSpace)
    realPath files (Path.join (Files.Path.parent path) target)
  else throw (.malformedLink path)

/-- What is found at one of the places for a repository. -/
inductive Finding where
  | repository (directory common : String)
  | nothing
  /-- A `.git` file that names no repository ends the search. -/
  | deadEnd

def inspect (files : Access m) (path : String) : Ask m Finding := do
  let settle (dir : String) (otherwise : Finding) : Ask m Finding := do
    match ← commonOf? files dir with
    | some common => return .repository (Files.Path.asDirectory dir) common
    | none => return otherwise
  match ← files.kind path with
  | none => return .nothing
  | some .directory => settle path .nothing
  | some .file =>
    if path.endsWith "/.git" then settle (← followLink files path) .deadEnd
    else return .nothing

/-- The first repository among some places. -/
def searchIn (files : Access m) : List String → Ask m (Option (String × String))
  | [] => return none
  | path :: paths => do
    match ← inspect files path with
    | .repository dir common => return some (dir, common)
    | .deadEnd => return none
    | .nothing => searchIn files paths

/-- The two places for the repository of a directory. -/
def placesIn (dir : String) : List String := [Path.join dir ".git", dir]

/-- The places for the repository of a path, the nearest first. -/
def places (real : String) : List String :=
  if real == "/" then placesIn real else (Files.Path.ancestors real).flatMap placesIn

/-- The working tree that a repository belongs to. -/
def workTreeOf (files : Access m) (dir common : String) (config : Variables) :
    Ask m (Option String) := do
  let bare ←
    match Config.find? config "core.bare" with
    | none => pure false
    | some v =>
      match Config.switch? v.value with
      | some b => pure b
      | none => throw (.badSwitch (v.value.getD []))
  let linkFile := Path.join dir "gitdir"
  if common != dir && (← files.isFile linkFile) then
    let link := trimmed (← readText files linkFile)
    return some (Files.Path.asDirectory (Files.Path.parent (Path.join dir link)))
  if bare then return none
  match (Config.find? config "core.worktree").bind (·.value) with
  | some value =>
    let path := Path.join dir ((Config.decode? value).getD (String.ofList value))
    return some (Files.Path.asDirectory (← realPath files path))
  | none => return some (Files.Path.asDirectory (Files.Path.parent (Files.Path.parent dir)))

/-- The repository of the path `start`, which relative paths and the home directory's file
go with. It is opened whatever version and extensions it says it has, and whoever owns it. -/
def discover (files : Access m) (home start : String) : Ask m Repository := do
  let real ← realPath files start
  match ← searchIn files (places real) with
  | none => throw (.noRepository start)
  | some (dir, _) =>
    match ← searchIn files (placesIn (← realPath files dir)) with
    | none => throw (.noRepository dir)
    | some (dir, common) =>
      let outer ← Config.loadGlobal files home
      let inner ← Config.load files home (Path.join common "config") Config.maxDepth
      let own ← Config.load files home (Path.join dir "config.worktree") Config.maxDepth
      let config := outer ++ inner ++ own
      return { directory := dir, common, config, workTree := ← workTreeOf files dir common config }

/-- The root of the working tree that a path is in. -/
def rootOf (files : Access m) (home start : String) : Ask m String := do
  let repository ← discover files home start
  match repository.workTree with
  | some root => return root
  | none => throw .bare

end Repository

end HookPlan.Git
