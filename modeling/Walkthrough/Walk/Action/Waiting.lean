import Walkthrough.Command.Catalogue
import Walkthrough.Walk.Script

namespace Walkthrough.Script

def wait (args : Arguments) : Script Outcome := do
  let some ms := args.nat? Text.maxU64 1
    | throw (.assertion ("wait out of range in `" ++ args.line ++ "`"))
  sleep ms
  return .passed ("waited " ++ toString ms ++ " ms")

def awaitText (args : Arguments) : Script Outcome := do
  let text := args.text 1
  let timeout := (← settings).timeouts.awaitText
  match ← lift (Procedure.awaitElement (.text (.contains text)) timeout) with
  | .ok _ => return .passed ("\"" ++ text ++ "\" appeared")
  | .error e =>
    if e.kind == .actionTimeout then
      throw (.timeout ("\"" ++ text ++ "\" did not appear within " ++ toString timeout ++ " ms"))
    else throw (.browser e)

/-- How long a URL may take to become what is expected, in milliseconds. -/
def urlTimeout : Nat := 5000

/-- The current URL, where it holds a text; a failure to tell it is something to see, too. -/
def lookAtUrl (part : String) : Procedure (Except String (Except SessionError String)) := do
  match ← Procedure.ask .currentUrl with
  | .error e => return .ok (.error e)
  | .ok url => return if Text.contains url part then .ok (.ok url) else .error url

def expectUrl (args : Arguments) : Script Outcome := do
  let part := args.text 1
  match ← lift (Procedure.poll (lookAtUrl part) urlTimeout) with
  | .ok (.ok url) => return .passed ("url " ++ url ++ " contains \"" ++ part ++ "\"")
  | .ok (.error e) => throw (.browser e)
  | .error url => throw (.assertion ("url " ++ url ++ " does not contain \"" ++ part ++ "\""))

end Walkthrough.Script
