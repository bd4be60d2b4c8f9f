import Walkthrough.Text.Search

namespace Walkthrough.Text

def isAbsolutePath (path : String) : Bool :=
  path.startsWith "/"

/-- `name` within the directory `dir`; an absolute name stands for itself. -/
def joinPath (dir name : String) : String :=
  if isAbsolutePath name then name
  else if dir.isEmpty || dir.endsWith "/" then dir ++ name
  else dir ++ "/" ++ name

/-- What stands between the slashes of a path, without the slash in front. -/
def pathParts (path : String) : List String :=
  let cs := match path.toList with
    | '/' :: rest => rest
    | cs => cs
  (splitAt '/' cs).map String.ofList

end Walkthrough.Text
