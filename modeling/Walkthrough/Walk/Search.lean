import Walkthrough.Walk.Procedure

namespace Walkthrough

/-- How much a way of finding an element is to be trusted, the most trusted first. -/
inductive Tier
  | role
  | label
  | placeholder
  | heuristic
  | fallback
  deriving Repr, DecidableEq

def Tier.name : Tier → String
  | role => "role"
  | label => "label"
  | placeholder => "placeholder"
  | heuristic => "heuristic"
  | fallback => "fallback"

inductive SearchError
  | notFound (what : String)
  | failed (strategy reason : String)
  | invalidSelector (reason : String)
  | timeout (reason : String)
  deriving Repr, DecidableEq

namespace SearchError

def message : SearchError → String
  | notFound what => "Element not found: " ++ what
  | failed strategy reason => "Strategy '" ++ strategy ++ "' failed: " ++ reason
  | invalidSelector reason => "Invalid selector: " ++ reason
  | timeout reason => "Resolution timeout: " ++ reason

def isRetryable : SearchError → Bool
  | timeout _ => true
  | _ => false

def ofSession (strategy : String) (e : SessionError) : SearchError :=
  match e.kind with
  | .invalidSelector => invalidSelector (e.hint.getD strategy)
  | .actionTimeout | .navigationTimeout => timeout e.message
  | _ => failed strategy e.message

end SearchError

/-- One way to find an element. -/
inductive Strategy
  | query (tier : Tier) (q : Query)
  /-- The element at `index` of a selector that matches at least `least` elements. -/
  | nth (selector : String) (index least : Nat)
  deriving Repr, DecidableEq

namespace Strategy

def tier : Strategy → Tier
  | query t _ => t
  | nth _ _ _ => .fallback

def describe : Strategy → String
  | query _ q => q.display
  | nth selector index _ => "css=" ++ selector ++ " nth=" ++ toString index

/-- The name under which failures are reported. -/
def name : Strategy → String
  | query t _ => t.name
  | nth _ _ _ => "nth"

def question : Strategy → Query
  | query _ q => q
  | nth selector _ _ => .css selector none

/-- The elements of an answer that count. -/
def pick (found : List Handle) : Strategy → List Handle
  | query _ _ => found
  | nth _ index least => if found.length < max least (index + 1) then [] else (found.drop index).take 1

def look (s : Strategy) : Procedure (Except SearchError (List Handle)) := do
  match ← Procedure.ask (.query s.question) with
  | .error e => return .error (.ofSession s.name e)
  | .ok found => return .ok (s.pick found)

end Strategy

/-- An element, and how it was found. -/
structure Found where
  element : Handle
  tier : Tier
  strategy : String
  /-- How many elements the strategy found. -/
  matched : Nat
  deriving Repr, DecidableEq

structure Search where
  /-- What is searched for, in words. -/
  target : String
  strategies : List Strategy
  deriving Repr, DecidableEq

namespace Search

def of (target : String) : Search :=
  ⟨target, []⟩

def add (s : Search) (strategy : Strategy) : Search :=
  { s with strategies := s.strategies ++ [strategy] }

def role (s : Search) (role : String) (name : Wording) : Search :=
  s.add (.query .role (.role role name))

def label (s : Search) (text : Wording) : Search :=
  s.add (.query .label (.label text))

def placeholder (s : Search) (text : Wording) : Search :=
  s.add (.query .placeholder (.placeholder text))

def css (s : Search) (selector : String) : Search :=
  s.add (.query .heuristic (.css selector none))

def cssWithText (s : Search) (selector : String) (text : Wording) : Search :=
  s.add (.query .heuristic (.css selector (some text)))

def fallback (s : Search) (selector : String) : Search :=
  s.add (.query .fallback (.css selector none))

def text (s : Search) (text : Wording) : Search :=
  s.add (.query .fallback (.text text))

def nth (s : Search) (selector : String) (index least : Nat) : Search :=
  s.add (.nth selector index least)

/-- What a search settles on among the elements of a strategy. -/
def choose (s : Search) (strategy : Strategy) (found : List Handle) : Except SearchError Found :=
  match found.head? with
  | some element => .ok ⟨element, strategy.tier, strategy.describe, found.length⟩
  | none => .error (.notFound s.target)

/-- A strategy that finds nothing or fails is passed over. -/
def resolveWith (s : Search) : List Strategy → Procedure (Except SearchError (Option Found))
  | [] => return .ok none
  | strategy :: rest => do
    match ← strategy.look with
    | .ok found =>
      if found.isEmpty then s.resolveWith rest else return (s.choose strategy found).map some
    | .error _ => s.resolveWith rest

/-- The first element of the first strategy that finds any. -/
def resolve (s : Search) : Procedure (Except SearchError (Option Found)) :=
  s.resolveWith s.strategies

def exhausted (s : Search) : String :=
  s.target ++ " (" ++ toString s.strategies.length ++ " strategies exhausted)"

def require (s : Search) : Procedure (Except SearchError Found) := do
  match ← s.resolve with
  | .ok (some found) => return .ok found
  | .ok none => return .error (.notFound s.exhausted)
  | .error e => return .error e

end Search

end Walkthrough
