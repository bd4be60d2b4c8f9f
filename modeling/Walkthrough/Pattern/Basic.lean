import Walkthrough.Pattern.CharSet

namespace Walkthrough

namespace Pattern

/-- A condition on the place between two characters. -/
inductive Anchor
  | textStart
  | textEnd
  | lineStart
  | lineEnd
  /-- A line may also end with a carriage return, alone or before the line feed. -/
  | anyLineStart
  | anyLineEnd
  | wordEdge
  | noWordEdge
  | wordStart
  | wordEnd
  | wordStartHalf
  | wordEndHalf
  deriving Repr, DecidableEq

end Pattern

inductive Pattern
  | empty
  | one (s : Pattern.CharSet)
  | anchor (a : Pattern.Anchor)
  | seq (p q : Pattern)
  | either (p q : Pattern)
  | many (min : Nat) (max : Option Nat) (greedy : Bool) (p : Pattern)
  | group (index : Nat) (p : Pattern)
  deriving Repr, DecidableEq

namespace Pattern

/-- A place in a text. -/
structure Cursor where
  /-- How many characters are before it. -/
  position : Nat
  /-- The character just before it. -/
  previous : Option Char
  /-- The characters after it. -/
  after : List Char
  deriving Repr, DecidableEq

namespace Cursor

def start (text : List Char) : Cursor :=
  ⟨0, none, text⟩

def next? (c : Cursor) : Option (Char × Cursor) :=
  match c.after with
  | [] => none
  | x :: rest => some (x, ⟨c.position + 1, some x, rest⟩)

def upTo (c d : Cursor) : List Char :=
  c.after.take (d.position - c.position)

def wordBefore (c : Cursor) : Bool :=
  c.previous.any Text.isWordChar

def wordAfter (c : Cursor) : Bool :=
  c.after.head?.any Text.isWordChar

/-- The cursor itself and every later one. -/
def tails (c : Cursor) : List Cursor :=
  go c.position c.previous c.after
where
  go (position : Nat) (previous : Option Char) : List Char → List Cursor
    | [] => [⟨position, previous, []⟩]
    | x :: rest => ⟨position, previous, x :: rest⟩ :: go (position + 1) (some x) rest

end Cursor

def Anchor.holds (a : Anchor) (c : Cursor) : Bool :=
  match a with
  | .textStart => c.previous.isNone
  | .textEnd => c.after.isEmpty
  | .lineStart => c.previous.isNone || c.previous == some '\n'
  | .lineEnd => c.after.isEmpty || c.after.head? == some '\n'
  | .anyLineStart =>
    c.previous.isNone || c.previous == some '\n' ||
      (c.previous == some '\r' && c.after.head? != some '\n')
  | .anyLineEnd =>
    c.after.isEmpty || c.after.head? == some '\r' ||
      (c.after.head? == some '\n' && c.previous != some '\r')
  | .wordEdge => c.wordBefore != c.wordAfter
  | .noWordEdge => c.wordBefore == c.wordAfter
  | .wordStart => !c.wordBefore && c.wordAfter
  | .wordEnd => c.wordBefore && !c.wordAfter
  | .wordStartHalf => !c.wordBefore
  | .wordEndHalf => !c.wordAfter

/-- Where the groups passed so far start and stop, latest first. -/
abbrev Captures := List (Nat × Cursor × Cursor)

/-- Where a run stands and what it has captured. -/
abbrev State := Cursor × Captures

def exactly (step : State → List State) : Nat → State → List State
  | 0, s => [s]
  | n + 1, s => (step s).flatMap (exactly step n)

def atMost (step : State → List State) (greedy : Bool) : Nat → State → List State
  | 0, s => [s]
  | n + 1, s =>
    let more := (step s).flatMap (atMost step greedy n)
    if greedy then more ++ [s] else s :: more

/-- Whether `t` is further on than `s`. -/
def State.isBeyond (t s : State) : Bool :=
  s.1.position < t.1.position

/-- Whether there is a state in the place of `s`. -/
def hasPlaceOf (found : List State) (s : State) : Bool :=
  found.any fun t => t.1.position == s.1.position

/-- Puts the stops of further rounds of a repetition in front of those found, the last first. Each
round has to move on, so the length of the rest bounds their number; a place where there is a stop
has been left already. -/
def rounds (step : State → List State) (greedy : Bool) : Nat → List State → State → List State
  | 0, found, s => if hasPlaceOf found s then found else s :: found
  | n + 1, found, s =>
    if hasPlaceOf found s then found
    else
      let moved := (step s).filter (·.isBeyond s)
      if greedy then s :: moved.foldl (rounds step greedy n) found
      else moved.foldl (rounds step greedy n) (s :: found)

/-- The stops after a first round from `s` to `t`; one that stays in place is the last. -/
def roundsAfter (step : State → List State) (greedy : Bool) (s : State) (found : List State)
    (t : State) : List State :=
  rounds step greedy (if t.isBeyond s then t.1.after.length else 0) found t

def plus (step : State → List State) (greedy : Bool) (s : State) : List State :=
  ((step s).foldl (roundsAfter step greedy s) []).reverse

def star (step : State → List State) (greedy : Bool) (s : State) : List State :=
  if greedy then plus step greedy s ++ [s] else s :: plus step greedy s

/-- At least `n + 1` rounds. -/
def atLeastSucc (step : State → List State) (greedy : Bool) (n : Nat) (s : State) : List State :=
  (exactly step n s).flatMap (plus step greedy)

/-- The places where a pattern may stop, in order of preference: earlier alternatives first, greedy
repetitions long before short. -/
def runs : Pattern → State → List State
  | empty, s => [s]
  | one set, (cursor, caps) =>
    match cursor.next? with
    | some (x, next) => if set.accepts x then [(next, caps)] else []
    | none => []
  | anchor a, s => if a.holds s.1 then [s] else []
  | seq p q, s => (p.runs s).flatMap q.runs
  | either p q, s => p.runs s ++ q.runs s
  | many min max greedy p, s =>
    match min, max with
    | 0, none => star p.runs greedy s
    | n + 1, none => atLeastSucc p.runs greedy n s
    | n, some m => (exactly p.runs n s).flatMap (atMost p.runs greedy (m - n))
  | group i p, s => (p.runs s).map fun t => (t.1, (i, s.1, t.1) :: t.2)

/-- A match: where it starts, where it ends, and what its groups hold. -/
structure Match where
  start : Cursor
  stop : Cursor
  captures : Captures
  deriving Repr, DecidableEq

namespace Match

/-- The text of a group, if it took part in the match; group 0 is the whole match. -/
def group? (m : Match) (i : Nat) : Option (List Char) :=
  if i == 0 then some (m.start.upTo m.stop)
  else (m.captures.lookup i).map fun (start, stop) => start.upTo stop

end Match

def matchAt (p : Pattern) (c : Cursor) : Option Match :=
  (p.runs (c, [])).head?.map fun t => ⟨c, t.1, t.2⟩

def find? (p : Pattern) (text : List Char) : Option Match :=
  (Cursor.start text).tails.findSome? p.matchAt

def occurs (p : Pattern) (text : List Char) : Bool :=
  (p.find? text).isSome

/-- A rough count of the machine states of a pattern. -/
def weight : Pattern → Nat
  | empty | anchor _ => 1
  | one s => s.weight
  | seq p q | either p q => p.weight + q.weight
  | many min max _ p => (Nat.max 1 (max.getD min)) * p.weight + 1
  | group _ p => p.weight + 2

end Pattern

end Walkthrough
