import Walkthrough.Walk.Search

namespace Walkthrough

inductive StepStatus
  | passed
  /-- Something optional was missing; the run goes on. -/
  | warned
  /-- Recognised, but nothing was done. -/
  | acknowledged
  | heading
  /-- No command matches the line. -/
  | unknown
  | failed
  /-- The run was over before the step came up. -/
  | skipped
  deriving Repr, DecidableEq

def StepStatus.name : StepStatus → String
  | passed => "passed"
  | warned => "warned"
  | acknowledged => "acknowledged"
  | heading => "section"
  | unknown => "unknown"
  | failed => "failed"
  | skipped => "skipped"

structure Outcome where
  status : StepStatus
  message : String
  deriving Repr, DecidableEq

namespace Outcome

def passed (message : String) : Outcome :=
  ⟨.passed, message⟩

def warned (message : String) : Outcome :=
  ⟨.warned, message⟩

end Outcome

inductive StepError
  | statusMismatch (expected actual : Nat)
  | elementMissing (what : String)
  | navigation (url reason : String)
  | assertion (text : String)
  | timeout (text : String)
  | configuration (text : String)
  | browser (e : SessionError)
  | search (e : SearchError)
  deriving Repr, DecidableEq

namespace StepError

def kind : StepError → String
  | statusMismatch _ _ => "status_mismatch"
  | elementMissing _ => "required_element_missing"
  | navigation _ _ => "navigation"
  | assertion _ => "assertion"
  | timeout _ => "timeout"
  | configuration _ => "missing_configuration"
  | browser _ => "browser"
  | search _ => "locator"

def message : StepError → String
  | statusMismatch expected actual =>
    "expected status " ++ toString expected ++ " but got " ++ toString actual
  | elementMissing what => "required element not found: " ++ what
  | navigation url reason => "navigation to " ++ url ++ " failed: " ++ reason
  | assertion text => "assertion failed: " ++ text
  | timeout text => "timed out: " ++ text
  | configuration text => "missing configuration: " ++ text
  | browser e => "browser error: " ++ e.message
  | search e => "element resolution failed: " ++ e.message

def toOutcome (e : StepError) : Outcome :=
  ⟨.failed, e.kind ++ ": " ++ e.message⟩

end StepError

end Walkthrough
