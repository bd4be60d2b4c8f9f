import Walkthrough.Text.Lowercase

namespace Walkthrough

structure Element where
  tag : String
  /-- Names are in lower case and distinct. -/
  attributes : List (String × String)
  /-- The text of the element itself, without that of its children. -/
  text : String
  parent : Option Nat
  /-- An image that did not load. -/
  broken : Bool
  deriving Repr, DecidableEq

namespace Element

def ofTag (tag : String) : Element :=
  ⟨Text.lowercase tag, [], "", none, false⟩

def attribute? (e : Element) (name : String) : Option String :=
  e.attributes.lookup (Text.lowercase name)

def has (e : Element) (name : String) : Bool :=
  (e.attribute? name).isSome

def setAttribute (e : Element) (name value : String) : Element :=
  let key := Text.lowercase name
  if (e.attributes.lookup key).isSome then
    { e with attributes := e.attributes.map fun a => if a.1 == key then (key, value) else a }
  else { e with attributes := e.attributes ++ [(key, value)] }

def hide (e : Element) : Element :=
  e.setAttribute "hidden" ""

end Element

end Walkthrough
