namespace Walkthrough.Text

/-- Closed ranges of code points. -/
abbrev Ranges := List (Nat × Nat)

def Ranges.contains (rs : Ranges) (n : Nat) : Bool :=
  rs.any fun r => r.1 ≤ n && n ≤ r.2

/-- First and last code points and the step between neighbours. -/
abbrev Strides := List (Nat × Nat × Nat)

def Strides.contains (ss : Strides) (n : Nat) : Bool :=
  ss.any fun (first, last, step) => first ≤ n && n ≤ last && (n - first) % step == 0

/-- Every `step`-th code point from `first` to `last`, each moved by `offset`. -/
structure Shift where
  first : Nat
  last : Nat
  step : Nat
  offset : Int
  deriving Repr, DecidableEq

namespace Shift

def covers (s : Shift) (n : Nat) : Bool :=
  s.first ≤ n && n ≤ s.last && (n - s.first) % s.step == 0

def image? (s : Shift) (n : Nat) : Option Nat :=
  if s.covers n then some (n + s.offset).toNat else none

def preimage? (s : Shift) (m : Nat) : Option Nat :=
  let n := (m - s.offset).toNat
  if s.covers n && s.image? n == some m then some n else none

/-- The image under the first run that covers `n`; other code points stay. -/
def applyFirst (table : List Shift) (n : Nat) : Nat :=
  (table.findSome? (·.image? n)).getD n

end Shift

end Walkthrough.Text
