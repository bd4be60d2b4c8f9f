import Walkthrough.Browser.Error
import Walkthrough.Configuration
import Walkthrough.Text.FilePath
import Walkthrough.World

namespace Walkthrough

namespace Executable

def names : List String :=
  ["google-chrome-stable", "google-chrome", "chromium", "chromium-browser"]

def usualPaths : List String :=
  ["/usr/bin/google-chrome-stable", "/usr/bin/google-chrome", "/usr/bin/chromium-browser",
    "/usr/bin/chromium"]

/-- Where a name may stand in the directories of a search path. -/
def candidates (searchPath name : String) : List String :=
  (Text.splitAt ':' searchPath.toList).map fun dir => Text.joinPath (String.ofList dir) name

variable {m : Type → Type} [Monad m] [World m]

def existing? (path : Option String) : m (Option String) := do
  match path with
  | none => return none
  | some path => return if ← World.pathExists path then some path else none

/-- The first name on the search path, whatever its directory. -/
def onSearchPath? (v : Variables) : m (Option String) :=
  match v "PATH" with
  | none => return none
  | some searchPath => (names.flatMap (candidates searchPath)).findM? World.isExecutable

def inUsualPlace? (v : Variables) : m (Option String) :=
  if (v.given? "STEPDRIVER_SKIP_OS_PATHS").isSome then return none
  else usualPaths.findM? World.pathExists

/-- A browser that is named outright, then one on the search path, then one in a usual place. -/
def find? (v : Variables) : m (Option String) := do
  if let some path ← existing? ((v.given? "STEPDRIVER_CHROME").map Text.trim) then return some path
  if let some path ← onSearchPath? v then return some path
  inUsualPlace? v

end Executable

namespace Launch

variable {m : Type → Type} [Monad m] [World m]

def standard (v : Variables) : m Launch := do
  let found ← Executable.find? v
  return { Configuration.standard.launch found with
    headless := ((v "STEPDRIVER_HEADLESS").map Configuration.isOn).getD true }

/-- The executable that a launch starts: its own if there is such a file, else what can be found,
in the end what the variable `CHROME` names. -/
def executable? (v : Variables) (l : Launch) : m (Option String) := do
  if let some path ← Executable.existing? l.executable then return some path
  if let some path ← Executable.find? v then return some path
  Executable.existing? (v "CHROME")

/-- Why a launch does not come to a session. No executable can be driven from here. -/
def failure (v : Variables) (l : Launch) : m SessionError := do
  match ← l.executable? v with
  | none =>
    return ⟨.internal, some "invalid browser config: Could not auto detect a chrome executable"⟩
  | some path =>
    if ← World.isExecutable path then
      return ⟨.internal, some "this program cannot drive a browser of its own"⟩
    else return ⟨.connection, some FileError.denied.message⟩

end Launch

end Walkthrough
