import Walkthrough.Browser.Event
import Walkthrough.Page.Element
import Walkthrough.Text.Blank

namespace Walkthrough

/-- Milliseconds from the start of a navigation. -/
structure LoadTiming where
  load : Int
  contentLoaded : Int
  deriving Repr, DecidableEq

structure Page where
  elements : List Element
  console : List ConsoleMessage
  resources : List Response
  timing : LoadTiming
  deriving Repr, DecidableEq

namespace Page

def blank : Page :=
  ⟨[], [], [], ⟨0, 0⟩⟩

def element? (p : Page) (i : Nat) : Option Element :=
  p.elements[i]?

def size (p : Page) : Nat :=
  p.elements.length

def indices (p : Page) : List Nat :=
  List.range p.size

def attribute? (p : Page) (i : Nat) (name : String) : Option String :=
  (p.element? i).bind (·.attribute? name)

def parent? (p : Page) (i : Nat) : Option Nat :=
  (p.element? i).bind (·.parent)

def children (p : Page) (i : Nat) : List Nat :=
  p.indices.filter fun j => p.parent? j == some i

/-- At most `n` proper ancestors, the nearest first. A path along parents has at most as many
elements as the page, so that number bounds every walk. -/
def ancestorsWithin (p : Page) : Nat → Nat → List Nat
  | 0, _ => []
  | n + 1, i =>
    match p.parent? i with
    | none => []
    | some j => j :: p.ancestorsWithin n j

def ancestors (p : Page) (i : Nat) : List Nat :=
  p.ancestorsWithin p.size i

def ownText (p : Page) (i : Nat) : String :=
  match p.element? i with
  | none => ""
  | some e => Text.trim e.text

/-- Joins the parts that are not empty with single spaces. -/
def spaced (parts : List String) : String :=
  " ".intercalate (parts.filter (!·.isEmpty))

/-- The text of an element and of its descendants down to depth `n`. -/
def textWithin (p : Page) : Nat → Nat → String
  | 0, _ => ""
  | n + 1, i => spaced (p.ownText i :: (p.children i).map (p.textWithin n))

def textContent (p : Page) (i : Nat) : String :=
  p.textWithin p.size i

/-- Neither the element nor an ancestor is hidden, nor is the element hidden from readers. -/
def isVisible (p : Page) (i : Nat) : Bool :=
  p.attribute? i "aria-hidden" != some "true" &&
    (i :: p.ancestors i).all fun j => (p.attribute? j "hidden").isNone

/-- The role that a tag has without being told. -/
def impliedRole (e : Element) : Option String :=
  match e.tag with
  | "button" => some "button"
  | "a" => if e.has "href" then some "link" else none
  | "input" =>
    match Text.lowercase ((e.attribute? "type").getD "text") with
    | "button" | "submit" | "reset" | "image" => some "button"
    | "checkbox" => some "checkbox"
    | _ => some "textbox"
  | "textarea" => some "textbox"
  | "select" => some "combobox"
  | "img" => some "img"
  | _ => none

def role? (p : Page) (i : Nat) : Option String :=
  (p.element? i).bind fun e => ((e.attribute? "role").map Text.lowercase).or (impliedRole e)

/-- The name by which assistive tools know an element. -/
def accessibleName (p : Page) (i : Nat) : String :=
  match p.attribute? i "aria-label" with
  | some label => label
  | none =>
    let text := p.textContent i
    if text.isEmpty then (["value", "title", "alt"].findSome? (p.attribute? i)).getD "" else text

def hasTag (p : Page) (i : Nat) (tag : String) : Bool :=
  (p.element? i).any (·.tag == tag)

def labelsFor (p : Page) (i : Nat) : List Nat :=
  match p.attribute? i "id" with
  | none => []
  | some id => p.indices.filter fun j => p.hasTag j "label" && p.attribute? j "for" == some id

/-- All that labels an element: its own label, those that point to it and those around it. -/
def labelText (p : Page) (i : Nat) : String :=
  let around := (p.ancestors i).filter (p.hasTag · "label")
  " ".intercalate
    ((p.attribute? i "aria-label").toList ++ (p.labelsFor i ++ around).map p.textContent)

end Page

end Walkthrough
