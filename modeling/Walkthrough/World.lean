import Walkthrough.Timestamp

namespace Walkthrough

/-- Why a file cannot be used. -/
inductive FileError
  | missing
  | notDirectory
  | isDirectory
  | denied
  | notText
  | other (text : String)
  deriving Repr, DecidableEq

def FileError.message : FileError → String
  | missing => "No such file or directory (os error 2)"
  | denied => "Permission denied (os error 13)"
  | notDirectory => "Not a directory (os error 20)"
  | isDirectory => "Is a directory (os error 21)"
  | notText => "stream did not contain valid UTF-8"
  | other text => text

inductive FileKind
  | file (executable : Bool)
  | directory
  deriving Repr, DecidableEq

class World (m : Type → Type) where
  kind : (path : String) → m (Except FileError FileKind)
  read : (path : String) → m (Except FileError String)
  currentDirectory : m String
  now : m Timestamp
  sleep : (milliseconds : Nat) → m Unit

namespace World

variable {m : Type → Type} [Monad m] [World m]

def pathExists (path : String) : m Bool := do
  return (← kind path).toBool

def isFile (path : String) : m Bool := do
  match ← kind path with
  | .ok (.file _) => return true
  | _ => return false

def isExecutable (path : String) : m Bool := do
  return (← kind path).toOption == some (.file true)

end World

end Walkthrough
