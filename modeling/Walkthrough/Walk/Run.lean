import Walkthrough.StepFile
import Walkthrough.Walk.Action.Perform

namespace Walkthrough

structure StepRecord where
  number : Nat
  line : String
  /-- The command that matched the line. -/
  command : Option String
  status : StepStatus
  message : String
  /-- In milliseconds. -/
  latency : Nat
  deriving Repr, DecidableEq

/-- What a run works with. -/
structure Course where
  catalogue : Catalogue
  settings : Settings
  limits : CaptureLimits
  /-- How many events had been reported before the capture began. -/
  earlierEvents : Nat

namespace Course

variable [Host σ]

def view (c : Course) (s : Stage σ) : View where
  settings := c.settings
  capture := Capture.ofEvents c.limits ((Host.events s.host).drop c.earlierEvents)
  last := s.last
  browserName := Host.browserName σ

def commandName? (c : Course) (step : Step) : Option String :=
  (c.catalogue.find? step.text).map fun (command, _) => command.name

def outcome : Except StepError Outcome → Outcome
  | .ok o => o
  | .error e => e.toOutcome

/-- The record of one step; there is none if the deadline cuts it short. -/
def runStep (c : Course) (deadline : Option Nat) (step : Step) (s : Stage σ) :
    Option StepRecord × Stage σ :=
  match c.catalogue.find? step.text with
  | none =>
    (some ⟨step.number, step.text, none, .unknown, "no command matches this line", 0⟩, s)
  | some (command, args) =>
    let (r, after) := (command.effect.script args (c.view s)).run.run deadline s
    (r.map fun r =>
      ⟨step.number, step.text, some command.name, (outcome r).status, (outcome r).message,
        after.clock - s.clock⟩,
      after)

/-- The record of the step that the deadline cuts short. -/
def overdue (c : Course) (step : Step) : StepRecord :=
  ⟨step.number, step.text, c.commandName? step, .failed,
    "timeout: run exceeded " ++ toString c.settings.timeouts.run ++ " ms", 0⟩

/-- The record of a step after the deadline. -/
def skipped (step : Step) : StepRecord :=
  ⟨step.number, step.text, none, .skipped, "run deadline elapsed", 0⟩

/-- A step that fails does not end the run, the deadline does: the step under way is recorded as
failed and all others as skipped. -/
def runSteps (c : Course) (deadline : Option Nat) :
    List Step → Stage σ → List StepRecord × Stage σ
  | [], s => ([], s)
  | step :: rest, s =>
    match c.runStep deadline step s with
    | (some record, after) =>
      let (records, last) := c.runSteps deadline rest after
      (record :: records, last)
    | (none, after) => (c.overdue step :: rest.map skipped, after)

/-- Runs steps under the deadline of the settings. -/
def run (c : Course) (steps : List Step) (s : Stage σ) : List StepRecord × Stage σ :=
  c.runSteps (some (s.clock + c.settings.timeouts.run)) steps s

end Course

end Walkthrough
