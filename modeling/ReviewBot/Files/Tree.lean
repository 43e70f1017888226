import ReviewBot.Files.Basic
import ReviewBot.Text.Lines

set_option autoImplicit false

/-!
# A tree of files in memory

A tree holds the files and directories below a working directory. A path is followed component by
component; an empty one and a single dot stay where they are, two dots go up, and nothing leads on
from a file.
-/

namespace ReviewBot

/-- Files and directories below a working directory, each with the components of its path. -/
structure FileTree where
  /-- The content of every file; a directory has none. -/
  entries : List (List String × Option Bytes)

namespace FileTree

/-- Where a path has led to. -/
inductive Place where
  /-- A directory that is not below the working directory. -/
  | outside
  /-- A directory below the working directory, or that directory itself. -/
  | directory (components : List String)
  | file (content : Bytes)
  | nowhere

/-- The components of a path. -/
def components (path : String) : List String :=
  (Text.pieces '/' path.toList).map String.ofList

/-- What stands under the components of a path; a directory may be there only for what it holds. -/
def place (t : FileTree) (path : List String) : Place :=
  match t.entries.lookup path with
  | some (some content) => .file content
  | some none => .directory path
  | none => if t.entries.any (fun e => path.isPrefixOf e.1) then .directory path else .nowhere

/-- Goes on by one component. -/
def step (t : FileTree) (here : Place) (component : String) : Place :=
  match here with
  | .outside =>
    if component = "" || component = "." || component = ".." then .outside else .nowhere
  | .directory path =>
    if component = "" || component = "." then .directory path
    -- Above the working directory lies a directory of which nothing else is known.
    else if component = ".." then (if path.isEmpty then .outside else .directory path.dropLast)
    else t.place (path ++ [component])
  | .file _ => .nowhere
  | .nowhere => .nowhere

/-- Follows a path from the working directory, or from the root if it begins with a slash. -/
def follow (t : FileTree) (path : String) : Place :=
  if path = "" then .nowhere
  else
    match components path with
    | "" :: rest => rest.foldl t.step .outside
    | all => all.foldl t.step (.directory [])

/-- What stands at a path. -/
def look (t : FileTree) (path : String) : PathState :=
  match t.follow path with
  | .outside => PathState.directory
  | .directory _ => PathState.directory
  | .file content => .file content
  | .nowhere => .missing

/-- The tree with a file written. -/
def write (t : FileTree) (path : String) (content : Bytes) : FileTree :=
  let key := components path
  ⟨t.entries.filter (·.1 != key) ++ [(key, some content)]⟩

/-- A tree as the files of a program. -/
def files : Files (StateM FileTree) where
  look path := fun t => (t.look path, t)
  write path content := fun t => (.ok (), t.write path content)

end FileTree

end ReviewBot
