import Walkthrough.Page.Basic
import Walkthrough.Text.Search

namespace Walkthrough

namespace Selector

inductive Comparison
  | present
  | equal
  | containing
  | word
  | starting
  | ending
  deriving Repr, DecidableEq

structure AttributeTest where
  name : String
  comparison : Comparison
  value : String
  anyCase : Bool
  deriving Repr, DecidableEq

/-- Tests that an element passes together. -/
inductive Compound
  | tests (tag : Option String) (id : Option String) (classes : List String)
      (attributes : List AttributeTest) (excluded : List Compound)

inductive Combinator
  | child
  | descendant
  deriving Repr, DecidableEq

/-- A compound that the element itself has to match, possibly within a parent or an ancestor that
matches what stands to the left. -/
inductive Complex
  | one (c : Compound)
  | within (outer : Complex) (link : Combinator) (c : Compound)

def Comparison.holds (wanted actual : String) : Comparison → Bool
  | present => true
  | equal => actual == wanted
  | containing => !wanted.isEmpty && Text.contains actual wanted
  | word => (Text.words actual).contains wanted
  | starting => !wanted.isEmpty && wanted.toList.isPrefixOf actual.toList
  | ending => !wanted.isEmpty && wanted.toList.isSuffixOf actual.toList

def AttributeTest.fits (t : AttributeTest) (e : Element) : Bool :=
  match e.attribute? t.name with
  | none => false
  | some actual =>
    if t.anyCase then t.comparison.holds (Text.lowercase t.value) (Text.lowercase actual)
    else t.comparison.holds t.value actual

def tagFits (wanted : Option String) (e : Element) : Bool :=
  wanted.all fun tag => tag == "*" || Text.lowercaseAscii e.tag == Text.lowercaseAscii tag

def idFits (wanted : Option String) (e : Element) : Bool :=
  wanted.all fun id => e.attribute? "id" == some id

def classesFit (wanted : List String) (e : Element) : Bool :=
  wanted.all (Text.words ((e.attribute? "class").getD "")).contains

namespace Compound

def isEmpty : Compound → Bool
  | tests tag id classes attributes excluded =>
    tag.isNone && id.isNone && classes.isEmpty && attributes.isEmpty && excluded.isEmpty

mutual

def fits : Compound → Element → Bool
  | tests tag id classes attributes excluded, e =>
    tagFits tag e && idFits id e && classesFit classes e && attributes.all (·.fits e) &&
      !anyFits excluded e

def anyFits : List Compound → Element → Bool
  | [], _ => false
  | c :: rest, e => c.fits e || anyFits rest e

end

end Compound

namespace Complex

def fits (p : Page) : Complex → Nat → Bool
  | one c, i => (p.element? i).any c.fits
  | within outer link c, i =>
    (p.element? i).any c.fits &&
      match link with
      | .child => (p.parent? i).any (outer.fits p)
      | .descendant => (p.ancestors i).any (outer.fits p)

end Complex

end Selector

/-- Alternatives, of which an element matches at least one. -/
abbrev Selector := List Selector.Complex

namespace Selector

def fits (s : Selector) (p : Page) (i : Nat) : Bool :=
  s.any fun c => c.fits p i

def select (s : Selector) (p : Page) : List Nat :=
  p.indices.filter (s.fits p)

end Selector

end Walkthrough
