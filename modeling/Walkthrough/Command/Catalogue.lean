import Walkthrough.Command.Action
import Walkthrough.Decimal.Reader
import Walkthrough.Phrasing.Rephrasing
import Walkthrough.Text.Quoted

namespace Walkthrough

namespace Pattern

/-- The highest group number of a pattern. -/
def lastGroup : Pattern → Nat
  | empty | one _ | anchor _ => 0
  | seq p q | either p q => max p.lastGroup q.lastGroup
  | many _ _ _ p => p.lastGroup
  | group i p => max i p.lastGroup

end Pattern

/-- The line that a command matched and what its groups captured; group 0 is the matched text. -/
structure Arguments where
  line : String
  groups : List (Option String)
  deriving Repr, DecidableEq

namespace Arguments

/-- A group that took part and is not empty. -/
def get? (a : Arguments) (i : Nat) : Option String :=
  (a.groups.getD i none).filter (!·.isEmpty)

def text (a : Arguments) (i : Nat) : String :=
  (a.get? i).getD ""

def nat? (a : Arguments) (max i : Nat) : Option Nat :=
  (a.get? i).bind (Text.nat? max)

def float? (a : Arguments) (i : Nat) : Option Float :=
  (a.get? i).bind Decimal.float?

end Arguments

structure Command where
  name : String
  patternText : String
  pattern : Pattern
  effect : Effect
  deriving Repr, DecidableEq

namespace Command

def ofText (name pattern : String) (effect : Effect) : Except Pattern.Fault Command :=
  (Pattern.parse (caseless pattern)).map fun p => ⟨name, caseless pattern, p, effect⟩

def capture? (c : Command) (line : String) : Option Arguments :=
  (c.pattern.find? line.toList).map fun m =>
    ⟨line, (List.range (c.pattern.lastGroup + 1)).map fun i => (m.group? i).map String.ofList⟩

def fits (c : Command) (line : String) : Bool :=
  c.pattern.occurs line.toList

def effectText : Effect → String
  | .act _ => "Handler"
  | .note category => "Note \x7b category: " ++ Text.quoted category ++ " \x7d"
  | .heading => "Section"

/-- One line that tells everything about a command. -/
def describe (c : Command) : String :=
  "CommandMatcher \x7b name: " ++ Text.quoted c.name ++ ", pattern: " ++ Text.quoted c.patternText ++
    ", action: " ++ effectText c.effect ++ " \x7d"

end Command

/-- Commands in order of precedence. -/
abbrev Catalogue := List Command

namespace Catalogue

def find? (catalogue : Catalogue) (line : String) : Option (Command × Arguments) :=
  catalogue.findSome? fun c => (c.capture? line).map (c, ·)

def knows (catalogue : Catalogue) (line : String) : Bool :=
  catalogue.any (·.fits line)

end Catalogue

end Walkthrough
