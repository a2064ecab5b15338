import HookPlan.Files.Access
import HookPlan.Files.Path

/-!
# File trees

A tree of directories and files as a value, with a working directory. Places in it are
lists of names from the root on; the root is a directory of every tree.

* `Tree.walk`: the place that a path leads to.
* `Tree.access`: the answers of a tree.
-/

namespace HookPlan.Files

inductive Entry where
  | file (content : ByteArray)
  | directory

def Entry.kind : Entry → Kind
  | file _ => .file
  | directory => .directory

structure Tree where
  entries : List (List String × Entry) := []
  /-- Relative paths start here. -/
  workingDirectory : List String := []

namespace Tree

/-- What is at a place. -/
def entry? (t : Tree) (place : List String) : Option Entry :=
  if place.isEmpty then some .directory else t.entries.lookup place

/-- The tree with a directory at a place, unless something is there already. -/
def addDirectory (t : Tree) (place : List String) : Tree :=
  match t.entry? place with
  | some _ => t
  | none => { t with entries := (place, .directory) :: t.entries }

/-- The tree with directories at a place and above it. -/
def addDirectories (t : Tree) (place : List String) : Tree :=
  (List.range (place.length + 1)).foldl (fun t n => t.addDirectory (place.take n)) t

/-- The tree with a file at a place, in directories that are added where they are missing. -/
def addFile (t : Tree) (place : List String) (content : ByteArray) : Tree :=
  let t := t.addDirectories place.dropLast
  { t with entries := (place, .file content) :: t.entries }

/-- Follows names from a place on. Only a directory can be followed further, be it to itself
or to the directory it is in. -/
def walk (t : Tree) (place : List String) : List String → Except Fault (List String)
  | [] => .ok place
  | name :: names =>
    match t.entry? place with
    | some .directory =>
      if name.isEmpty || name == "." then t.walk place names
      else if name == ".." then t.walk place.dropLast names
      else
        match t.entry? (place ++ [name]) with
        | some _ => t.walk (place ++ [name]) names
        | none => .error .missing
    | some (.file _) => .error .notDirectory
    | none => .error .missing

/-- The place of a path. The empty path leads nowhere. -/
def resolve (t : Tree) (path : String) : Except Fault (List String) :=
  if path.isEmpty then .error .missing
  else t.walk (if Path.isAbsolute path then [] else t.workingDirectory) (Path.names path)

/-- What is at a path. -/
def find (t : Tree) (path : String) : Except Fault Entry := do
  match t.entry? (← t.resolve path) with
  | some e => return e
  | none => throw .missing

def access (t : Tree) : Access Id where
  kind path := (t.find path).toOption.map (·.kind)
  read path := do
    match t.find path with
    | .ok (.file content) => return .ok content
    | .ok .directory => return .error .isDirectory
    | .error e => return .error e
  realPath path := (t.resolve path).map fun place => "/" ++ "/".intercalate place

end Tree

end HookPlan.Files
