import Walkthrough.Browser.Error
import Walkthrough.Page.Selector.Parser
import Walkthrough.Page.Wording

namespace Walkthrough

inductive Query
  /-- By role and accessible name. -/
  | role (role : String) (name : Wording)
  /-- A form control by its label. -/
  | label (text : Wording)
  | placeholder (text : Wording)
  /-- The innermost elements with a text. -/
  | text (text : Wording)
  /-- By selector, possibly only those with a text. -/
  | css (selector : String) (hasText : Option Wording)
  deriving Repr, DecidableEq

namespace Query

def display : Query → String
  | role wanted name => "role=" ++ wanted ++ " name=" ++ name.display
  | label w => "label=" ++ w.display
  | placeholder w => "placeholder=" ++ w.display
  | text w => "text=" ++ w.display
  | css selector none => "css=" ++ selector
  | css selector (some w) => "css=" ++ selector ++ " has-text=" ++ w.display

/-- Tags whose text is not part of what a page shows. -/
def textlessTags : List String :=
  ["html", "head", "title", "script", "style", "meta", "link"]

def isControl (p : Page) (i : Nat) : Bool :=
  ["input", "textarea", "select"].any (p.hasTag i)

def isInnermost (p : Page) (text : Wording) (i : Nat) : Bool :=
  !textlessTags.any (p.hasTag i) && text.fits (p.textContent i) &&
    !(p.children i).any fun j => text.fits (p.textContent j)

end Query

namespace Page

def shown (p : Page) : List Nat :=
  p.indices.filter p.isVisible

def find (p : Page) : Query → Except SessionError (List Nat)
  | .role role name =>
    .ok (p.shown.filter fun i => p.role? i == some role && name.fits (p.accessibleName i))
  | .label text => .ok (p.shown.filter fun i => Query.isControl p i && text.fits (p.labelText i))
  | .placeholder text => .ok (p.shown.filter fun i => (p.attribute? i "placeholder").any text.fits)
  | .text text => .ok (p.shown.filter (Query.isInnermost p text))
  | .css source hasText =>
    match Selector.parse source with
    | .error f => .error ⟨.invalidSelector, some (f.message source)⟩
    | .ok selector =>
      .ok ((selector.select p).filter fun i => hasText.all fun text => text.fits (p.textContent i))

end Page

end Walkthrough
