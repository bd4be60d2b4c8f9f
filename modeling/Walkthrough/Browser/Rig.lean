import Walkthrough.Browser.Site

namespace Walkthrough

/-- A failure of calls of one kind. -/
structure Fault where
  kind : Call.Kind
  error : SessionError
  /-- Which of these calls fail, counted from zero; all of them if not told. -/
  turns : Option (List Nat)
  deriving Repr, DecidableEq

/-- What is put between a browser and those who call it. -/
structure Disturbance where
  faults : List Fault
  hidesStatus : Bool
  hidesViewport : Bool
  /-- What the current URL is said to be. -/
  shownUrl : Option String
  deriving Repr, DecidableEq

namespace Disturbance

def none : Disturbance :=
  ⟨[], false, false, Option.none⟩

/-- How the call of a kind fails that comes after `turn` others of its kind. -/
def failure? (d : Disturbance) (kind : Call.Kind) (turn : Nat) : Option SessionError :=
  (d.faults.find? fun f => f.kind == kind && f.turns.all (·.contains turn)).map (·.error)

/-- The answer that is passed on. -/
def alter (d : Disturbance) : (c : Call) → c.Answer → c.Answer
  | .navigate _, v => if d.hidesStatus then { v with status := Option.none } else v
  | .currentUrl, url => d.shownUrl.getD url
  | .viewport, size => if d.hidesViewport then Option.none else size
  | _, answer => answer

end Disturbance

/-- A browser whose calls are made to fail, or to hide what they know. A call that is made to fail
does not reach the browser. -/
structure Rig where
  browser : Browser
  disturbance : Disturbance
  /-- How many calls of each kind there have been. -/
  turns : List (Call.Kind × Nat)
  deriving Repr, DecidableEq

namespace Rig

def start (site : Site) (d : Disturbance) : Rig :=
  ⟨Browser.start site, d, []⟩

def turn (r : Rig) (kind : Call.Kind) : Nat :=
  (r.turns.lookup kind).getD 0

def advance (r : Rig) (kind : Call.Kind) : Rig :=
  { r with turns := (kind, r.turn kind + 1) :: r.turns.filter (·.1 != kind) }

def respond (r : Rig) (c : Call) : Except SessionError c.Answer × Rig :=
  match r.disturbance.failure? c.kind (r.turn c.kind) with
  | some e => (.error e, r.advance c.kind)
  | none =>
    let (answer, b) := r.browser.respond c
    (answer.map (r.disturbance.alter c), { r.advance c.kind with browser := b })

instance : Host Rig where
  respond c r := r.respond c
  events r := r.browser.events
  browserName := Host.browserName Browser

end Rig

end Walkthrough
