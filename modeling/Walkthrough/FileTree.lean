import Walkthrough.Text.FilePath
import Walkthrough.World

namespace Walkthrough

/-- Files by the parts of their absolute paths. A directory is there if a file stands in it, or if
it is the current one. -/
structure FileTree where
  directory : List String
  files : List (List String × String)
  executables : List (List String)
  deriving Repr, DecidableEq

namespace FileTree

/-- Files that are given relative to the current directory. -/
def ofFiles (directory : String) (files : List (String × String)) (executables : List String) :
    FileTree :=
  let home := Text.pathParts directory
  { directory := home
    files := files.map fun (path, text) => (home ++ Text.pathParts path, text)
    executables := executables.map fun path => home ++ Text.pathParts path }

def kindAt (t : FileTree) (parts : List String) : Except FileError FileKind :=
  if (t.files.lookup parts).isSome then .ok (.file (t.executables.contains parts))
  else if parts.isPrefixOf t.directory || t.files.any fun (path, _) => parts.isPrefixOf path then
    .ok .directory
  else .error .missing

def stepTo (t : FileTree) (place : List String) (part : String) : Except FileError (List String) := do
  match ← t.kindAt place with
  | .file _ => throw .notDirectory
  | .directory =>
    return if part.isEmpty || part == "." then place
      else if part == ".." then place.dropLast
      else place ++ [part]

/-- The place that a path leads to. -/
def locate (t : FileTree) (path : String) : Except FileError (List String) :=
  if path.isEmpty then .error .missing
  else
    (Text.pathParts path).foldlM t.stepTo (if Text.isAbsolutePath path then [] else t.directory)

def kind (t : FileTree) (path : String) : Except FileError FileKind :=
  t.locate path >>= t.kindAt

def read (t : FileTree) (path : String) : Except FileError String := do
  let place ← t.locate path
  match ← t.kindAt place with
  | .directory => throw .isDirectory
  | .file _ => return (t.files.lookup place).getD ""

end FileTree

instance : World (ReaderM FileTree) where
  kind path := return (← read).kind path
  read path := return (← read).read path
  currentDirectory := return "/" ++ "/".intercalate (← read).directory
  now := return ⟨0, 0⟩
  sleep _ := return ()

end Walkthrough
