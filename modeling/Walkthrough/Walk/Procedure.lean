import Walkthrough.Browser.Call

namespace Walkthrough

/-- What a step does, as calls and pauses whose answers decide how it goes on. Time passes only in
pauses. -/
inductive Procedure (α : Type) : Type
  | done (a : α)
  | call (c : Call) (next : Except SessionError c.Answer → Procedure α)
  | pause (ms : Nat) (next : Procedure α)
  /-- Takes down what a navigation led to. -/
  | record (v : Visit) (next : Procedure α)

/-- A host with a clock in milliseconds and the last navigation taken down. -/
structure Stage (σ : Type) where
  host : σ
  clock : Nat
  last : Option Visit
  deriving Repr, DecidableEq

namespace Procedure

def bind : Procedure α → (α → Procedure β) → Procedure β
  | done a, f => f a
  | call c next, f => call c fun answer => (next answer).bind f
  | pause ms next, f => pause ms (next.bind f)
  | record v next, f => record v (next.bind f)

instance : Monad Procedure where
  pure := done
  bind := bind

def ask (c : Call) : Procedure (Except SessionError c.Answer) :=
  call c done

def sleep (ms : Nat) : Procedure Unit :=
  pause ms (done ())

def note (v : Visit) : Procedure Unit :=
  record v (done ())

/-- Runs a procedure; a pause that would go beyond the deadline ends it there, without a result. -/
def run [Host σ] (deadline : Option Nat) : Procedure α → Stage σ → Option α × Stage σ
  | done a, s => (some a, s)
  | call c next, s =>
    let (answer, host) := Host.respond c s.host
    (next answer).run deadline { s with host := host }
  | pause ms next, s =>
    match deadline with
    | none => next.run deadline { s with clock := s.clock + ms }
    | some limit =>
      if limit < s.clock + ms then (none, { s with clock := limit })
      else next.run deadline { s with clock := s.clock + ms }
  | record v next, s => next.run deadline { s with last := some v }

def pollInterval : Nat := 250

/-- Looks, and as long as there is nothing to see and the timeout is not over, pauses and looks again;
`passed` is the time since the first look. In the end the last look counts. -/
def pollFrom (look : Procedure (Except ε α)) (timeout passed : Nat) : Procedure (Except ε α) :=
  look.bind fun
    | .ok a => done (.ok a)
    | .error e =>
      if timeout ≤ passed then done (.error e)
      else pause pollInterval (pollFrom look timeout (passed + pollInterval))
termination_by timeout - passed
decreasing_by
  unfold pollInterval
  omega

/-- Looks now and at every interval until there is something to see or the timeout is over. -/
def poll (look : Procedure (Except ε α)) (timeout : Nat) : Procedure (Except ε α) :=
  pollFrom look timeout 0

/-- The first element that a query finds now; a failure of the query is something to see, too. -/
def lookFor (q : Query) : Procedure (Except Unit (Except SessionError Handle)) := do
  match ← ask (.query q) with
  | .error e => return .ok (.error e)
  | .ok [] => return .error ()
  | .ok (h :: _) => return .ok (.ok h)

def awaitElement (q : Query) (timeout : Nat) : Procedure (Except SessionError Handle) := do
  match ← poll (lookFor q) timeout with
  | .ok answer => return answer
  | .error () =>
    return .error ⟨.actionTimeout,
      some ("waiting for " ++ q.display ++ " (" ++ toString timeout ++ " ms)")⟩

end Procedure

end Walkthrough
