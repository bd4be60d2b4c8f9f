import Walkthrough.Browser.Executable
import Walkthrough.Browser.Site
import Walkthrough.Command.Standard
import Walkthrough.CommandLine.Invocation
import Walkthrough.Phrasing.Standard

namespace Walkthrough

inductive ProgramError
  | logLevel
  | configurationUnread (cause : FileError)
  | configurationUnclear
  | override (cause : Configuration.OverrideError)
  | noStepFile
  | stepFileUnread (path : String) (cause : FileError)
  | launch (cause : SessionError)
  deriving Repr, DecidableEq

inductive Ending
  | done (output : String) (success : Bool)
  | failed (cause : ProgramError)
  | misuse
  | helpAsked
  deriving Repr, DecidableEq

namespace StepFile

/-- The names of step files that need not be given. -/
def usualNames : List String :=
  ["steps.txt", "deep_website_testing_steps.txt"]

end StepFile

namespace ProgramError

def message : ProgramError → String
  | logLevel =>
    "Invalid log level: error parsing level: expected one of \"error\", \"warn\", \"info\", " ++
      "\"debug\", \"trace\", or a number 1-5"
  | configurationUnread cause => "Failed to read config file: " ++ cause.message
  | configurationUnclear => "Failed to parse config file"
  | override cause => cause.message
  | noStepFile =>
    "No steps file given: no step file found (looked for " ++
      ", ".intercalate StepFile.usualNames ++ ")"
  | stepFileUnread path cause =>
    "Failed to load steps from " ++ path ++ ": failed to read step file " ++ path ++ ": " ++
      cause.message ++ ": " ++ cause.message
  | launch cause => "Failed to launch browser: " ++ cause.message

def line (e : ProgramError) : String :=
  "Error: " ++ e.message

end ProgramError

namespace Ending

def exitCode : Ending → Nat
  | done _ true | helpAsked => 0
  | done _ false => 1
  | failed _ | misuse => 2

end Ending

namespace Program

def variableNames : List String :=
  ["STEPDRIVER_BASE_URL", "STEPDRIVER_HEADLESS", "STEPDRIVER_CHROME", "STEPDRIVER_PHONE",
    "STEPDRIVER_COUNTRY_CODE", "STEPDRIVER_OTP", "STEPDRIVER_SKIP_OS_PATHS", "STEP_FROM", "STEP_TO",
    "STEP_MATCH", "PATH", "HOME", "XDG_CONFIG_HOME", "CHROME"]

def isLogLevel (s : String) : Bool :=
  (Text.nat? Text.maxU64 s).any (fun n => 1 ≤ n && n ≤ 5) ||
    ["error", "warn", "info", "debug", "trace"].contains (Text.lowercaseAscii s)

def userDirectory? (v : Variables) : Option String :=
  let own := (v "XDG_CONFIG_HOME").filter Text.isAbsolutePath
  own.or (((v "HOME").filter fun h => !h.isEmpty).map fun h => Text.joinPath h ".config")

variable {m : Type → Type} [Monad m] [World m]

abbrev Attempt (m : Type → Type) := ExceptT ProgramError m

/-- The variables together with those of the file for them, if it can be read. -/
def withLocalFile (e : Environment) : m Environment := do
  match ← World.read "config/local.env" with
  | .ok text => return e.withFile text
  | .error _ => return e

/-- The configuration file: the one that is given, else the local one, else that of the user. -/
def configurationPath? (v : Variables) (given : Option String) : m (Option String) := do
  if given.isSome then return given
  if ← World.pathExists "config/config.yaml" then return some "config/config.yaml"
  return (userDirectory? v).map fun dir =>
    Text.joinPath (Text.joinPath dir "stepdriver") "config.yaml"

/-- What a file says; nothing where there is none. -/
def configurationAt (path : String) : Attempt m Configuration := do
  if !(← (World.pathExists path : m Bool)) then return Configuration.standard
  match ← (World.read path : m _) with
  | .error cause => throw (.configurationUnread cause)
  | .ok text =>
    match Configuration.parse? text with
    | some c => return c
    | none => throw .configurationUnclear

def configuration (v : Variables) (given : Option String) : Attempt m Configuration := do
  let c ← match ← (configurationPath? v given : m _) with
    | some path => configurationAt path
    | none => pure Configuration.standard
  match c.overridden v with
  | .ok c => return c
  | .error cause => throw (.override cause)

/-- The step file: the one that is given, else that of the configuration, else one of a usual name
in the current directory. -/
def stepFilePath (c : Configuration) (given : Option String) : Attempt m String := do
  if let some path := given.or c.stepFile then return path
  let dir ← (World.currentDirectory : m String)
  let paths := StepFile.usualNames.map (Text.joinPath dir)
  match ← (paths.findM? World.isFile : m (Option String)) with
  | some path => return path
  | none => throw .noStepFile

/-- The steps in scope, and the path they come from. -/
def stepsOf (c : Configuration) (given : Option String) (scope : Scope) :
    Attempt m (String × List Step) := do
  let path ← stepFilePath c given
  match ← (World.read path : m _) with
  | .ok text => return (path, StepFile.load Phrasebook.standard scope text)
  | .error cause => throw (.stepFileUnread path cause)

/-- A document in the format for it, or else the text for people. -/
def printed (format : OutputFormat) (document : Node) (forPeople : String) : String :=
  match format.documentText? document with
  | some text => text ++ "\n"
  | none => forPeople

def auditText (format : OutputFormat) (steps : List Step) : String :=
  let coverage := Coverage.ofSteps Catalogue.standard steps
  printed format coverage.toNode coverage.render

def stepLine (s : Step) : String :=
  Text.padLeft 3 (toString s.number) ++ ". " ++ s.text ++ "\n"

def stepsText (format : OutputFormat) (steps : List Step) : String :=
  printed format (Step.listNode steps) (String.join (steps.map stepLine))

/-- A site on which all pages are there and empty. -/
def blankSite : Site :=
  { Site.empty with fallback := 200 }

/-- Runs steps on the blank site, without pauses between them. -/
def rehearse (settings : Settings) (source : String) (steps : List Step) : m Report := do
  let course : Course :=
    ⟨Catalogue.standard, settings.withPacing 0.0, CaptureLimits.standard, 0⟩
  let start ← World.now
  let (records, stage) := course.run steps ⟨Browser.start blankSite, 0, none⟩
  World.sleep stage.clock
  return Report.finished source start (← World.now) records

/-- The text to print, and whether all went well. -/
def serve (v : Variables) (c : Configuration) (format : OutputFormat) :
    Request → Attempt m (String × Bool)
  | .audit file => do
    let (_, steps) ← stepsOf c file .everything
    return (auditText format steps, true)
  | .normalize file scope => do
    let (_, steps) ← stepsOf c file scope
    return (stepsText format steps, true)
  | .run file scope baseUrl headed dryRun => do
    let (path, steps) ← stepsOf c file scope
    let settings := { c.settings with baseUrl := baseUrl.or c.baseUrl }
    if dryRun then
      let report ← (rehearse settings path steps : m Report)
      return (format.reportText report ++ "\n", report.isSuccess)
    else
      let found ← (Executable.find? v : m (Option String))
      let launch := c.launch found
      let launch := { launch with headless := launch.headless && !headed }
      throw (.launch (← (launch.failure v : m SessionError)))

def attempt (v : Variables) (i : Invocation) : Attempt m (String × Bool) := do
  if !i.debug && !isLogLevel i.logLevel then throw .logLevel
  let c ← configuration v i.configFile
  serve v c i.output i.request

def versionText (of : Option Invocation.RequestName) : String :=
  "stepdriver-cli" ++ ((of.map fun name => "-" ++ name.text).getD "") ++ " 1.0.0\n"

def run (arguments : List String) (environment : Environment) : m Ending := do
  let v := (← withLocalFile environment).toVariables
  match Invocation.parse v arguments with
  | .error .misuse => return .misuse
  | .error .helpAsked => return .helpAsked
  | .error (.versionAsked of) => return .done (versionText of) true
  | .ok i =>
    match ← (attempt v i).run with
    | .ok (output, success) => return .done output success
    | .error cause => return .failed cause

end Program

end Walkthrough
