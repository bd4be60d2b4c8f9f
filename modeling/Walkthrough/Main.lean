import Std.Time.DateTime.Timestamp
import Walkthrough.CommandLine.Program

namespace Walkthrough.Main

/-- Codes may be given with their sign turned round. -/
def fileError : IO.Error → FileError
  | .noFileOrDirectory _ _ _ => .missing
  | .permissionDenied _ _ _ => .denied
  | .inappropriateType _ code _ => if code == 21 || code == 0 - 21 then .isDirectory else .notDirectory
  | .userError _ => .notText
  | e => .other (toString e)

def attempt (act : IO α) : IO (Except FileError α) := do
  try
    return .ok (← act)
  catch e =>
    return .error (fileError e)

/-- What stands under a path, as far as opening it tells. -/
def kindAt (path : String) : IO (Except FileError FileKind) := do
  match ← attempt do (← IO.FS.Handle.mk path .read).read 1 with
  | .ok _ | .error .denied => return .ok (.file true)
  | .error .isDirectory => return .ok .directory
  | .error e => return .error e

instance : World IO where
  kind := kindAt
  read path := attempt (IO.FS.readFile path)
  currentDirectory := return (← IO.currentDir).toString
  now := do
    let t ← Std.Time.Timestamp.now
    return ⟨t.val.second.val, t.val.nano.val.toNat⟩
  sleep milliseconds := IO.sleep (min milliseconds Text.maxU32).toUInt32

def environment : IO Environment :=
  Program.variableNames.filterMapM fun name => do
    return (← IO.getEnv name).map fun value => (name, value)

def usage : String :=
  "usage: stepdriver [OPTIONS] <run|audit|normalize> [STEPS]"

end Walkthrough.Main

open Walkthrough in
def main (arguments : List String) : IO UInt32 := do
  let ending ← Program.run arguments (← Main.environment)
  match ending with
  | .done output _ => IO.print output
  | .failed cause => IO.eprintln cause.line
  | .misuse => IO.eprintln Main.usage
  | .helpAsked => IO.println Main.usage
  return UInt32.ofNat ending.exitCode
