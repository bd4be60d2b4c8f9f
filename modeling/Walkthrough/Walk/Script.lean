import Walkthrough.Capture
import Walkthrough.Settings
import Walkthrough.Walk.Outcome

namespace Walkthrough

/-- What a step can see when it starts. -/
structure View where
  settings : Settings
  capture : Capture
  /-- The last navigation that a step took down. -/
  last : Option Visit
  browserName : String

abbrev Script := ReaderT View (ExceptT StepError Procedure)

namespace Settings

def base (s : Settings) : Except StepError Url :=
  match s.baseUrl with
  | some u => .ok u
  | none => .error (.configuration "base_url is required for relative paths")

/-- The base URL itself. -/
def homepage (s : Settings) : Except StepError String :=
  s.base.map Url.toText

/-- A web address as it is, anything else relative to the base URL. -/
def resolve (s : Settings) (target : String) : Except StepError String :=
  match (Url.parse target).toOption.filter Url.isWeb with
  | some u => .ok u.toText
  | none => do
    match (← s.base).join target with
    | .ok u => .ok u.toText
    | .error e => .error (.navigation target e.message)

/-- A pause of `ms` milliseconds at the pace of the settings. -/
def pause (s : Settings) (ms : Nat) : Nat :=
  (Float.ofNat ms * s.pacing).round.toUInt64.toNat

end Settings

namespace Script

/-- A procedure as a script that does not fail. -/
def lift (p : Procedure α) : Script α := fun _ =>
  ExceptT.mk (p.bind fun a => .done (.ok a))

def ofExcept : Except StepError α → Script α
  | .ok a => return a
  | .error e => throw e

/-- Makes a call whose failure the script deals with itself. -/
def ask (c : Call) : Script (Except SessionError c.Answer) :=
  lift (Procedure.ask c)

/-- Makes a call whose failure is that of the step. -/
def call (c : Call) : Script c.Answer := do
  match ← ask c with
  | .ok answer => return answer
  | .error e => throw (.browser e)

def settings : Script Settings := do
  return (← read).settings

/-- Goes on with the outcome of a script whether or not it fails. -/
def attempt (s : Script α) : Script (Except StepError α) := fun view =>
  ExceptT.mk ((s view).run.bind fun r => .done (.ok r))

def sleep (ms : Nat) : Script Unit :=
  lift (Procedure.sleep ms)

/-- Lets the page settle after an action. -/
def settle (ms : Nat) : Script Unit := do
  let scaled := (← settings).pause ms
  if 0 < scaled then sleep scaled

def noteVisit (v : Visit) : Script Unit :=
  lift (Procedure.note v)

/-- Navigates, and takes the visit down. -/
def navigate (target : String) : Script Visit := do
  let url ← ofExcept ((← settings).resolve target)
  match ← ask (.navigate url) with
  | .ok v =>
    noteVisit v
    return v
  | .error e =>
    if e.kind == .navigationTimeout then throw (.timeout ("navigation to " ++ url))
    else throw (.navigation url e.message)

/-- The element that a search settles on, if any. -/
def locate (s : Search) : Script (Option Found) := do
  match ← lift s.resolve with
  | .ok found => return found
  | .error e => throw (.search e)

/-- The element that a search settles on; without one the step fails. -/
def require (s : Search) : Script Found := do
  match ← lift s.require with
  | .ok found => return found
  | .error (.notFound what) => throw (.elementMissing what)
  | .error e => throw (.search e)

def count (selector : String) : Script Nat := do
  return (← call (.query (.css selector none))).length

def clickIfFound (s : Search) (ms : Nat) (done : String) : Script Outcome := do
  match ← locate s with
  | none => return .warned (s.target ++ " not found")
  | some found =>
    call (.click found.element)
    settle ms
    return .passed done

def firstText (s : Search) : Script (Option String) := do
  match ← locate s with
  | none => return none
  | some found => return some (← call (.text found.element))

end Script

/-- At most `max` characters, with single spaces between words. -/
def excerpt (max : Nat) (text : String) : String :=
  String.ofList ((" ".intercalate (Text.words text)).toList.take max)

namespace Search

def buttonish : String :=
  "button, [role=\"button\"]"

def button (target : String) (names : List String) : Search :=
  (of target).role "button" (.anyOf names) |>.cssWithText buttonish (.anyOf names)

end Search

end Walkthrough
