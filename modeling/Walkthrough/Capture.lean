import Walkthrough.Browser.Event

namespace Walkthrough

structure CaptureLimits where
  /-- How many entries each of the two logs keeps. -/
  maxEntries : Nat
  /-- Whether console warnings are kept beside errors. -/
  warnings : Bool
  deriving Repr, DecidableEq

structure Capture where
  limits : CaptureLimits
  console : List ConsoleMessage
  responses : List Response
  /-- How many entries found no room. -/
  dropped : Nat
  deriving Repr, DecidableEq

structure CaptureSummary where
  responses : Nat
  success : Nat
  redirection : Nat
  clientError : Nat
  serverError : Nat
  consoleErrors : Nat
  dropped : Nat
  deriving Repr, DecidableEq

namespace CaptureLimits

def standard : CaptureLimits :=
  ⟨10000, false⟩

def keeps (l : CaptureLimits) (m : ConsoleMessage) : Bool :=
  m.level == .error || (m.level == .warning && l.warnings)

end CaptureLimits

namespace Capture

def empty (limits : CaptureLimits) : Capture :=
  ⟨limits, [], [], 0⟩

def addMessage (c : Capture) (m : ConsoleMessage) : Capture :=
  if c.console.length < c.limits.maxEntries then { c with console := c.console ++ [m] }
  else { c with dropped := c.dropped + 1 }

def addResponse (c : Capture) (r : Response) : Capture :=
  if c.responses.length < c.limits.maxEntries then { c with responses := c.responses ++ [r] }
  else { c with dropped := c.dropped + 1 }

def record (c : Capture) : Event → Capture
  | .console m => if c.limits.keeps m then c.addMessage m else c
  | .response r => c.addResponse r

def ofEvents (limits : CaptureLimits) (events : List Event) : Capture :=
  events.foldl record (empty limits)

/-- Which events the listeners of a capture pass on to it: the first console messages, the second
responses. -/
def listeners : List (Event → Bool) :=
  [(·.console?.isSome), (·.response?.isSome)]

def hear (c : Capture) (e : Event) : Capture :=
  listeners.foldl (fun c passes => if passes e then c.record e else c) c

/-- The capture whose listeners have heard these events. -/
def attached (limits : CaptureLimits) (events : List Event) : Capture :=
  events.foldl hear (empty limits)

def failed (c : Capture) : List Response :=
  c.responses.filter fun r => r.status == 404 || 500 ≤ r.status

def serverErrors (c : Capture) : List Response :=
  c.responses.filter fun r => 500 ≤ r.status

/-- How many responses have a status in the hundred that starts at `start`. -/
def countFrom (c : Capture) (start : Nat) : Nat :=
  c.responses.countP fun r => start ≤ r.status && r.status < start + 100

def summary (c : Capture) : CaptureSummary where
  responses := c.responses.length
  success := c.countFrom 200
  redirection := c.countFrom 300
  clientError := c.countFrom 400
  serverError := c.countFrom 500
  consoleErrors := c.console.length
  dropped := c.dropped

end Capture

end Walkthrough
